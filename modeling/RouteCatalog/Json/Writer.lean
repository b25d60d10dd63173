import RouteCatalog.Json.Quoted
import RouteCatalog.Number.Notation
import RouteCatalog.Value

/-!
# Writing JSON

Values are written over several lines, two spaces for each level; an empty list or record stays on
its line. Characters outside ASCII stand for themselves. The notation decides how floating-point
numbers appear.
-/

namespace RouteCatalog

namespace Json

/-- A line feed and the indentation of a level. -/
def lineStart (level : Nat) : Text :=
  '\n' :: List.replicate (2 * level) ' '

/-- Parts between an opening and a closing mark, one to a line. -/
def enclosed (opening closing : Char) (level : Nat) (parts : List Text) : Text :=
  if parts.isEmpty then [opening, closing]
  else
    opening :: lineStart (level + 1) ++ Text.join (',' :: lineStart (level + 1)) parts ++
      lineStart level ++ [closing]

mutual

/-- A value at a level of indentation. -/
def writeAt (style : FloatNotation) (level : Nat) : Value → Text
  | .null => "null".toList
  | .bool true => "true".toList
  | .bool false => "false".toList
  | .int number => intText number
  | .float number => style.write number
  | .text characters => quote characters
  | .list items => enclosed '[' ']' level (writeItems style (level + 1) items)
  | .record entries => enclosed '{' '}' level (writeEntries style (level + 1) entries)

/-- Each item of a list. -/
def writeItems (style : FloatNotation) (level : Nat) : List Value → List Text
  | [] => []
  | item :: rest => writeAt style level item :: writeItems style level rest

/-- Each entry of a record. -/
def writeEntries (style : FloatNotation) (level : Nat) : List (Text × Value) → List Text
  | [] => []
  | (key, value) :: rest =>
    (quote key ++ ": ".toList ++ writeAt style level value) :: writeEntries style level rest

end

section Equations

variable {style : FloatNotation} {level : Nat}

@[simp]
theorem writeAt_null : writeAt style level .null = "null".toList :=
  rfl

@[simp]
theorem writeAt_bool (flag : Bool) :
    writeAt style level (.bool flag) = if flag then "true".toList else "false".toList := by
  cases flag <;> rfl

@[simp]
theorem writeAt_int (number : Int) : writeAt style level (.int number) = intText number :=
  rfl

@[simp]
theorem writeAt_text (characters : Text) :
    writeAt style level (.text characters) = quote characters :=
  rfl

@[simp]
theorem writeAt_list (items : List Value) : writeAt style level (.list items) =
    enclosed '[' ']' level (writeItems style (level + 1) items) :=
  rfl

@[simp]
theorem writeAt_record (entries : List (Text × Value)) : writeAt style level (.record entries) =
    enclosed '{' '}' level (writeEntries style (level + 1) entries) :=
  rfl

@[simp]
theorem writeItems_nil : writeItems style level [] = [] :=
  rfl

@[simp]
theorem writeItems_cons (item : Value) (rest : List Value) :
    writeItems style level (item :: rest) =
      writeAt style level item :: writeItems style level rest :=
  rfl

@[simp]
theorem writeEntries_nil : writeEntries style level [] = [] :=
  rfl

@[simp]
theorem writeEntries_cons (entry : Text × Value) (rest : List (Text × Value)) :
    writeEntries style level (entry :: rest) =
      (quote entry.1 ++ ": ".toList ++ writeAt style level entry.2) ::
        writeEntries style level rest :=
  rfl

end Equations

/-- A value as JSON text. -/
def write (style : FloatNotation) (value : Value) : Text :=
  writeAt style 0 value

end Json

end RouteCatalog
