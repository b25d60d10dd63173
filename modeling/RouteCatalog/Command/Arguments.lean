import RouteCatalog.Keyed
import RouteCatalog.Text.Quoted
import RouteCatalog.Text.Resemblance

/-!
# Arguments of commands

A command takes options and positional arguments. `CommandForm.read` sorts the words of a command
line into the two. A word that begins with a hyphen is a long option, or a row of one-letter options;
the value of an option follows it in the same word or is the next word, whatever that looks like.
After two hyphens every word is positional. Names that a wrong word resembles are suggested.
-/

namespace RouteCatalog

/-- What an option takes. -/
inductive OptionKind where
  | flag
  | text
  | integer
  /-- A path that need not lead anywhere. -/
  | path
  /-- A path to something that exists. -/
  | presentPath
  deriving DecidableEq, Repr

/-- An option of a command. -/
structure CommandOption where
  /-- The long name, with its hyphens. -/
  name : Text
  /-- The one-letter name, without its hyphen. -/
  letter? : Option Char := none
  kind : OptionKind
  deriving DecidableEq, Repr

/-- Does the option take a value? -/
def CommandOption.takesValue (option : CommandOption) : Bool :=
  option.kind != .flag

/-- What a command accepts. -/
structure CommandForm where
  /-- The words that call the command. -/
  call : Text
  options : List CommandOption
  /-- The names of the positional arguments, all of which are required. -/
  arguments : List Text
  /-- Does the first positional argument begin another command? -/
  isGroup : Bool := false
  deriving DecidableEq, Repr

/-- How a command line is wrong. -/
inductive UsageFault where
  | noSuchOption (name : Text) (similar : List Text)
  | unwantedValue (option : Text)
  | missingValue (option : Text)
  | missingCommand
  | noSuchCommand (name : Text) (similar : List Text)
  | missingArgument (name : Text)
  | extraArguments (words : List Text)
  | noSuchPath (option path : Text)
  | notInteger (option value : Text)
  deriving DecidableEq, Repr

namespace UsageFault

/-- What is wrong with the value of an option. -/
def invalidValue (option reason : Text) : Text :=
  "Invalid value for '".toList ++ option ++ "': ".toList ++ reason

/-- What follows a fault if other names may have been meant. -/
def suggestion : (similar : List Text) → Text
  | [] => []
  | [name] => " Did you mean ".toList ++ name.quoted ++ ['?']
  | names =>
    " (Did you mean one of: ".toList ++ Text.join [',', ' '] (names.map Text.quoted) ++ "?)".toList

/-- The fault in words. -/
def message : UsageFault → Text
  | noSuchOption name similar =>
    "No such option ".toList ++ name.quoted ++ ['.'] ++ suggestion similar
  | unwantedValue option =>
    "Option ".toList ++ option.quoted ++ " does not take a value.".toList
  | missingValue option => "Option ".toList ++ option.quoted ++ " requires an argument.".toList
  | missingCommand => "Missing command.".toList
  | noSuchCommand name similar =>
    "No such command ".toList ++ name.quoted ++ ['.'] ++ suggestion similar
  | missingArgument name => "Missing argument '".toList ++ name ++ "'.".toList
  | extraArguments words =>
    let noun := if words.length = 1 then "argument" else "arguments"
    "Got unexpected extra ".toList ++ noun.toList ++ " (".toList ++ Text.join [' '] words ++ [')']
  | noSuchPath option path =>
    invalidValue option ("Path ".toList ++ path.quoted ++ " does not exist.".toList)
  | notInteger option value =>
    invalidValue option (value.quoted ++ " is not a valid integer.".toList)

/-- Is the form of the command shown with the fault? Not where an option and its value do not fit
together. -/
def showsForm : UsageFault → Bool
  | unwantedValue _ | missingValue _ => false
  | _ => true

end UsageFault

/-- The words of a command line, sorted. -/
structure Arguments where
  /-- The options by their long names with their values, in the order given. A flag has an empty
  value. -/
  given : List (Text × Text) := []
  positional : List Text := []
  deriving DecidableEq, Repr

/-- An option whose value is to come. -/
structure AwaitedOption where
  name : Text
  /-- The name as it was written. -/
  written : Text
  deriving DecidableEq, Repr

/-- The options in one word; the last may still lack its value. -/
structure WordOptions where
  given : List (Text × Text) := []
  awaited? : Option AwaitedOption := none
  deriving DecidableEq, Repr

namespace CommandForm

/-- Read one-letter options. What follows the letter of an option that takes a value is its
value. -/
def readLetters (form : CommandForm) : Text → Except UsageFault WordOptions
  | [] => .ok {}
  | letter :: rest =>
    match form.options.find? (·.letter? = some letter) with
    | none => .error (.noSuchOption ['-', letter] [])
    | some option =>
      if !option.takesValue then do
        let further ← form.readLetters rest
        return { further with given := (option.name, []) :: further.given }
      else if rest.isEmpty then
        .ok { awaited? := some { name := option.name, written := ['-', letter] } }
      else .ok { given := [(option.name, rest)] }

/-- Read a word that begins with a hyphen. What follows an equals sign is the value of a long
option. -/
def readWord (form : CommandForm) (word : Text) : Except UsageFault WordOptions :=
  let (name, value?) :=
    match Text.breakAt? ['='] word with
    | some (name, value) => (name, some value)
    | none => (word, none)
  match form.options.find? (·.name = name), value? with
  | some option, some value =>
    if option.takesValue then .ok { given := [(option.name, value)] }
    else .error (.unwantedValue name)
  | some option, none =>
    if option.takesValue then .ok { awaited? := some { name := option.name, written := name } }
    else .ok { given := [(option.name, [])] }
  | none, _ =>
    if word.take 2 = ['-', '-'] then
      .error (.noSuchOption name (Text.suggestions name (form.options.map (·.name))))
    else form.readLetters (word.drop 1)

/-- Sort words, of which the first is the value of an awaited option. -/
def readFrom (form : CommandForm) :
    (awaited? : Option AwaitedOption) → List Text → Except UsageFault Arguments
  | some awaited, [] => .error (.missingValue awaited.written)
  | some awaited, value :: rest => do
    let further ← form.readFrom none rest
    return { further with given := (awaited.name, value) :: further.given }
  | none, [] => .ok {}
  | none, word :: rest =>
    if word = ['-', '-'] then .ok { positional := rest }
    else if word.head? = some '-' ∧ word.length ≠ 1 then do
      let options ← form.readWord word
      let further ← form.readFrom options.awaited? rest
      return { further with given := options.given ++ further.given }
    else if form.isGroup then .ok { positional := word :: rest }
    else do
      let further ← form.readFrom none rest
      return { further with positional := word :: further.positional }

/-- Sort the words of a command line. -/
def read (form : CommandForm) (words : List Text) : Except UsageFault Arguments :=
  form.readFrom none words

end CommandForm

namespace Arguments

/-- The value of an option; the last one counts. -/
def value? (arguments : Arguments) (option : Text) : Option Text :=
  lastOf? arguments.given option

/-- Has a flag been given? -/
def has (arguments : Arguments) (option : Text) : Bool :=
  (arguments.value? option).isSome

end Arguments

end RouteCatalog
