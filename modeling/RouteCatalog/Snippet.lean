import RouteCatalog.Json.Writer
import RouteCatalog.Route

/-!
# Call snippets

Example code that calls a signature with a payload: through the client's request helpers, and as a
message on the socket. The payload is JSON text, indented by one more level.
-/

namespace RouteCatalog

/-- The index of the example response. -/
def responseIndex : Text := "123".toList

/-- The room that an example broadcast goes to. -/
def exampleReceiver : Text := "room-code".toList

/-- A payload inside a snippet. -/
def snippetPayload (payload : Value) : Text :=
  (Json.write payloadNotation payload).replace '\n' "\n  ".toList

/-- A property of the object in a snippet. -/
def property (name value : Text) : Text :=
  "  ".toList ++ name ++ ": ".toList ++ value ++ [',']

/-- A text between single quotes, as it is. -/
def inQuotes (text : Text) : Text :=
  '\'' :: text ++ ['\'']

/-- A call of the client's request helper. -/
def requestSnippet (target : CallTarget) (payload : Value) : Text :=
  let call : Text :=
    match target.kind with
    | .api => "const response = await apiRequest(\x7b".toList
    | .sync => "await syncRequest(\x7b".toList
  let receiver : List Text :=
    match target.kind with
    | .api => []
    | .sync => [property "receiver".toList (inQuotes exampleReceiver)]
  Text.join ['\n'] (
    [call,
      property "name".toList (inQuotes target.requestName),
      property "version".toList (inQuotes target.version),
      property "data".toList (snippetPayload payload)] ++
    receiver ++ ["\x7d);".toList])

/-- A message on the socket; for an endpoint, also the listener for its response. -/
def messageSnippet (target : CallTarget) (payload : Value) : Text :=
  let parts : List Text := [
    property "name".toList (inQuotes target.route),
    property "data".toList (snippetPayload payload)]
  match target.kind with
  | .api =>
    Text.join ['\n'] (
      ["socket.emit('apiRequest', \x7b".toList] ++ parts ++
      [property "responseIndex".toList responseIndex,
        "\x7d);".toList,
        [],
        "// Listen for response".toList,
        "socket.on('apiResponse-".toList ++ responseIndex ++ "', (response) => \x7b".toList,
        "  console.log(response);".toList,
        "\x7d);".toList])
  | .sync =>
    Text.join ['\n'] (
      ["socket.emit('sync', \x7b".toList] ++ parts ++
      [property "receiver".toList (inQuotes exampleReceiver),
        property "ignoreSelf".toList "false".toList,
        "\x7d);".toList])

/-- The lines of a request. The opening one has no name, and it and the closing ones are the same for all
names and payloads. -/
theorem exists_requestSnippet (kind : RouteKind) : ∃ opening closing : Text,
    (∀ (target : CallTarget) (payload : Value), target.kind = kind → requestSnippet target payload =
      opening ++ ("name: ".toList ++ (inQuotes target.requestName ++ ',' :: '\n' ::
        ("  version: ".toList ++ (inQuotes target.version ++ ',' :: '\n' ::
          ("  data: ".toList ++ (snippetPayload payload ++ ',' :: '\n' :: closing))))))) ∧
    ∀ following, Text.breakAt? "name: ".toList (opening ++ ("name: ".toList ++ following)) =
      some (opening, following) := by
  cases kind with
  | api =>
    refine ⟨"const response = await apiRequest(\x7b\n  ".toList, "\x7d);".toList,
      fun target payload kind => ?_, fun following => rfl⟩
    simp [requestSnippet, kind, property, Text.join]
  | sync =>
    refine ⟨"await syncRequest(\x7b\n  ".toList,
      property "receiver".toList (inQuotes exampleReceiver) ++ "\n\x7d);".toList,
      fun target payload kind => ?_, fun following => rfl⟩
    simp [requestSnippet, kind, property, Text.join]

/-- The lines of a message. The opening one has no name, and it and the closing ones are the same for all
names and payloads. -/
theorem exists_messageSnippet (kind : RouteKind) : ∃ opening closing : Text,
    (∀ (target : CallTarget) (payload : Value), target.kind = kind → messageSnippet target payload =
      opening ++ ("name: ".toList ++ (inQuotes target.route ++ ',' :: '\n' ::
        ("  data: ".toList ++ (snippetPayload payload ++ ',' :: '\n' :: closing))))) ∧
    ∀ following, Text.breakAt? "name: ".toList (opening ++ ("name: ".toList ++ following)) =
      some (opening, following) := by
  cases kind with
  | api =>
    refine ⟨"socket.emit('apiRequest', \x7b\n  ".toList,
      Text.join ['\n'] [property "responseIndex".toList responseIndex, "\x7d);".toList, [],
        "// Listen for response".toList,
        "socket.on('apiResponse-".toList ++ responseIndex ++ "', (response) => \x7b".toList,
        "  console.log(response);".toList, "\x7d);".toList],
      fun target payload kind => ?_, fun following => rfl⟩
    simp [messageSnippet, kind, property, Text.join]
  | sync =>
    refine ⟨"socket.emit('sync', \x7b\n  ".toList,
      Text.join ['\n'] [property "receiver".toList (inQuotes exampleReceiver),
        property "ignoreSelf".toList "false".toList, "\x7d);".toList],
      fun target payload kind => ?_, fun following => rfl⟩
    simp [messageSnippet, kind, property, Text.join]

end RouteCatalog
