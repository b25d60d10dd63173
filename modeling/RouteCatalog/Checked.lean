import RouteCatalog.Text.Basic

/-!
# Checking with all issues

A check of a value with several parts reports every part that is wrong, in the order of the parts,
and not only the first one. An issue names the place and the kind of the fault.
-/

namespace RouteCatalog

/-- One step on the way to a faulty part. -/
inductive Step where
  | key (name : Text)
  | index (position : Nat)
  deriving DecidableEq, Repr

/-- What is wrong with a part. -/
inductive IssueKind where
  | notJson
  | missing
  | notModel
  | notMapping
  | notTuple
  | notList
  | notText
  /-- Bytes that are no text. -/
  | undecodable
  | notPath
  | notBool
  | unreadableBool
  | notInteger
  | unreadableInteger
  | fractionalInteger
  | infiniteInteger
  | integerTooLong
  | notAllowed
  deriving DecidableEq, Repr

/-- A fault and its place. -/
structure Issue where
  place : List Step
  kind : IssueKind
  deriving DecidableEq, Repr

/-- The same fault one step further inside. -/
def Issue.within (issue : Issue) (step : Step) : Issue :=
  { issue with place := step :: issue.place }

/-- A checked part, or everything that is wrong with it. -/
inductive Checked (α : Type) where
  | valid (value : α)
  | faulty (issues : List Issue)
  deriving DecidableEq, Repr

namespace Checked

variable {α β : Type}

/-- A part with a single fault, at its own place. -/
def fault (kind : IssueKind) : Checked α :=
  faulty [{ place := [], kind }]

/-- Change a part that is right. -/
def map (change : α → β) : Checked α → Checked β
  | valid value => valid (change value)
  | faulty issues => faulty issues

/-- Put two checked parts together; the issues of the first come first. -/
def apply (first : Checked (α → β)) (second : Unit → Checked α) : Checked β :=
  match first, second () with
  | valid change, valid value => valid (change value)
  | valid _, faulty issues => faulty issues
  | faulty issues, valid _ => faulty issues
  | faulty issues, faulty further => faulty (issues ++ further)

instance : Applicative Checked where
  pure := valid
  seq := apply

/-- The same part one step further inside. -/
def within (step : Step) : Checked α → Checked α
  | valid value => valid value
  | faulty issues => faulty (issues.map (·.within step))

/-- Check each item of a list; the step to an item is its position, counted from `position`. -/
def itemsFrom (check : β → Checked α) (position : Nat) : List β → Checked (List α)
  | [] => valid []
  | item :: rest =>
    apply (map List.cons ((check item).within (.index position))) fun _ =>
      itemsFrom check (position + 1) rest

/-- Check each item of a list. -/
def items (check : β → Checked α) (list : List β) : Checked (List α) :=
  itemsFrom check 0 list

/-- The checked part or its issues. -/
def toExcept : Checked α → Except (List Issue) α
  | valid value => .ok value
  | faulty issues => .error issues

end Checked

end RouteCatalog
