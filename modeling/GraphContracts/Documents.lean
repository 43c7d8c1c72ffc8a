import GraphContracts.Event
import GraphContracts.Files
import GraphContracts.Json.Reader
import GraphContracts.Text.Utf8
import GraphContracts.Yaml.Value

namespace GraphContracts.Documents

inductive Unreadable where
  | directory (path : Path)
  | notUtf8 (fault : Text.Utf8.Fault)
  deriving Repr

def Unreadable.reason : Unreadable → String
  | .directory path => "[Errno 21] Is a directory: " ++ Text.quoted (toString path)
  | .notUtf8 fault => fault.message

def Unreadable.fault : Unreadable → Fault
  | .directory _ => .directory
  | .notUtf8 _ => .undecodable

/-- The text at a path, with plain line feeds; `none` where there is nothing. -/
def readText (files : FileTree) (path : Path) : Except Unreadable (Option String) :=
  match files.entry path with
  | .absent => .ok none
  | .directory => .error (.directory path)
  | .octets bs =>
    match Text.Utf8.readText bs with
    | .ok s => .ok (some s)
    | .error e => .error (.notUtf8 e)

def parseJson (path : Path) (content : String) : Except Fault Datum :=
  match Json.read content.toList with
  | .ok d => .ok d
  | .error e =>
    match e.cause with
    | .longInteger _ => .error (.argument e.cause.message)
    | _ => .error (.failure (.malformedJson (toString path) (e.message content.toList)))

def readJson (files : FileTree) (path : Path) (what : String) : Except Fault Datum :=
  match readText files path with
  | .error e => .error (.failure (.documentUnreadable (toString path) e.reason))
  | .ok none => .error (.failure (.documentMissing (toString path) what))
  | .ok (some content) => parseJson path content

def yamlReason : String :=
  "<yaml>"

def parseYaml (path : Path) (content : String) : Except Fault Datum :=
  (Yaml.read content.toList).mapError fun
    | .malformed => .failure (.configParse (toString path) yamlReason)
    | .value message => .argument message
    | .unknownWord word => .missingKey word
    | .notATime => .attribute
    | .emptyNumber => .noWords

def mismatch (source : String) : List Schema.Issue → Failure
  | [] => .schemaMismatch source "<root>" ""
  | issue :: _ => .schemaMismatch source issue.location issue.cause.message

end GraphContracts.Documents
