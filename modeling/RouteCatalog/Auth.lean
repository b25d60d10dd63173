import RouteCatalog.Value.Show

/-!
# Auth requirements

What a handler requires of the session before it runs: a login, and conditions on attributes of
the session. Requirements that could not be read keep the text they were written in.
-/

namespace RouteCatalog

/-- How a condition compares the session attribute. -/
inductive ConditionKind where
  /-- The attribute equals the expected value. -/
  | value
  /-- The attribute's type has the expected name. -/
  | type
  /-- The attribute is missing, or is present, as the expected value says. -/
  | nullish
  /-- The attribute counts as no, or as yes, as the expected value says. -/
  | falsy
  deriving DecidableEq, Repr

namespace ConditionKind

/-- The name of a kind in documents. -/
def name : ConditionKind → Text
  | value => "value".toList
  | type => "type".toList
  | nullish => "nullish".toList
  | falsy => "falsy".toList

/-- All kinds, in the order in which the checks of one condition take precedence. -/
def all : List ConditionKind :=
  [value, type, nullish, falsy]

/-- The kind with a name. -/
def ofName? (text : Text) : Option ConditionKind :=
  all.find? (·.name = text)

@[simp]
theorem ofName?_name (kind : ConditionKind) : ofName? kind.name = some kind := by
  cases kind <;> decide

/-- The key of the check in a handler's literal. -/
def sourceKey : ConditionKind → Text
  | falsy => "mustBeFalsy".toList
  | kind => kind.name

end ConditionKind

/-- A requirement on one attribute of the session. -/
structure AuthCondition where
  key : Text
  kind : ConditionKind
  expected : Value
  deriving DecidableEq, Repr

/-- The condition in words. -/
def AuthCondition.describe (condition : AuthCondition) : Text :=
  let clause : Text :=
    match condition.kind with
    | .value => " == ".toList ++ condition.expected.shown
    | .type => " is ".toList ++ condition.expected.plain
    | .nullish => if condition.expected.isTruthy then " is nullish".toList else " is set".toList
    | .falsy =>
      if condition.expected.isTruthy then " must be falsy".toList else " must be truthy".toList
  condition.key ++ clause

/-- What a handler requires of the session. -/
structure AuthDescriptor where
  requiresLogin : Bool := false
  additional : List AuthCondition := []
  /-- Was the handler's literal read completely? -/
  known : Bool := false
  /-- The literal, where it could not be read. -/
  raw : Option Text := none
  deriving DecidableEq, Repr

/-- The requirement in one line. -/
def AuthDescriptor.summary (auth : AuthDescriptor) : Text :=
  if auth.known then
    let login := if auth.requiresLogin then "login required".toList else "public".toList
    if auth.additional.isEmpty then login
    else
      login ++ " (".toList ++ Text.join ", ".toList (auth.additional.map AuthCondition.describe) ++
        ")".toList
  else "auth unknown".toList

end RouteCatalog
