import RouteCatalog.Text.Blank
import RouteCatalog.Text.Word

/-!
# Exported declarations

Finding a declaration in source text: words with blanks between them, wherever the text first has
them in sequence. Readers of this module take the text at a place and return what follows.
-/

namespace RouteCatalog

/-- What follows one or more blanks. -/
def afterBlanks? (text : Text) : Option Text :=
  match text with
  | [] => none
  | first :: rest => if isBlank first then some (Text.trimStart rest) else none

/-- What follows words that are separated by one or more blanks. -/
def afterWords? : List Text → Text → Option Text
  | [], text => some text
  | [word], text => Text.after? word text
  | word :: next :: words, text => do
    let following ← Text.after? word text
    let following ← afterBlanks? following
    afterWords? (next :: words) following

/-- What follows the name of an exported constant. -/
def afterConstant? (name : Text) (text : Text) : Option Text :=
  afterWords? ["export".toList, "const".toList, name] text

/-- What follows the name of an exported interface, at the brace that opens its body. -/
def atInterfaceBody? (name : Text) (text : Text) : Option Text := do
  let following ← afterWords? ["export".toList, "interface".toList, name] text
  match following.trimStart with
  | '{' :: rest => some ('{' :: rest)
  | _ => none

/-- Does a word end here? -/
def endsWord : Text → Bool
  | [] => true
  | character :: _ => !isWord character

end RouteCatalog
