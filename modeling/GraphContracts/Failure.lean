import GraphContracts.Datum.Shown
import GraphContracts.Schema.Checked

namespace GraphContracts

/-- The codes of announced errors: 2xxx for the configuration, 3xxx for loading, 4xxx for missing
data, 5xxx for violated contracts and 9xxx for the library itself. -/
inductive ErrorCode where
  | configParse
  | configValue
  | configMissing
  | documentMissing
  | documentUnreadable
  | malformedJson
  | schemaMismatch
  | dataUnavailable
  | violation
  | integrity
  | internal
  deriving DecidableEq, Repr

namespace ErrorCode

def all : List ErrorCode :=
  [.configParse, .configValue, .configMissing, .documentMissing, .documentUnreadable,
    .malformedJson, .schemaMismatch, .dataUnavailable, .violation, .integrity, .internal]

def number : ErrorCode → Nat
  | .configParse => 2001
  | .configValue => 2002
  | .configMissing => 2004
  | .documentMissing => 3001
  | .documentUnreadable => 3002
  | .malformedJson => 3003
  | .schemaMismatch => 3004
  | .dataUnavailable => 4001
  | .violation => 5001
  | .integrity => 5002
  | .internal => 9001

def name : ErrorCode → String
  | .configParse => "CONFIG_PARSE_ERROR"
  | .configValue => "CONFIG_INVALID_VALUE"
  | .configMissing => "CONFIG_FILE_NOT_FOUND"
  | .documentMissing => "DATA_FILE_NOT_FOUND"
  | .documentUnreadable => "DATA_FILE_UNREADABLE"
  | .malformedJson => "DATA_INVALID_JSON"
  | .schemaMismatch => "DATA_SCHEMA_MISMATCH"
  | .dataUnavailable => "DATA_UNAVAILABLE"
  | .violation => "ASSERTION_VIOLATION"
  | .integrity => "INTEGRITY_VIOLATION"
  | .internal => "INTERNAL_ERROR"

def ofNumber? (n : Int) : Option ErrorCode :=
  all.find? fun c => (c.number : Int) = n

end ErrorCode

inductive FailureFamily where
  | general
  | config
  | load
  | parse
  | unavailable
  | violation
  | integrity
  | internal
  deriving DecidableEq, Repr

namespace FailureFamily

def name : FailureFamily → String
  | .general => "CallContractError"
  | .config => "ConfigError"
  | .load => "LoadError"
  | .parse => "ParseError"
  | .unavailable => "DataUnavailableError"
  | .violation => "AssertionViolation"
  | .integrity => "IntegrityViolationError"
  | .internal => "InternalError"

def all : List FailureFamily :=
  [.general, .config, .load, .parse, .unavailable, .violation, .integrity, .internal]

def ofName? (s : String) : Option FailureFamily :=
  all.find? fun f => f.name = s

end FailureFamily

inductive Failure where
  | configParse (path reason : String)
  | configValue (field : String) (value : Datum) (reason : String)
  | configMissing (path : String)
  | documentMissing (path what : String)
  | documentUnreadable (path reason : String)
  | malformedJson (path reason : String)
  | schemaMismatch (source location reason : String)
  | indexUnavailable
  | violation (message : String) (details : List (String × Datum))
  | integrity (summary : String) (report : Datum)
  | internal (reason : String) (details : List (String × Datum))
  | composed (family : FailureFamily) (code : ErrorCode) (message : String) (details : Datum)
  deriving Repr

namespace Failure

def family : Failure → FailureFamily
  | .configParse .. => .config
  | .configValue .. => .config
  | .configMissing .. => .config
  | .documentMissing .. => .load
  | .documentUnreadable .. => .load
  | .malformedJson .. => .parse
  | .schemaMismatch .. => .parse
  | .indexUnavailable => .unavailable
  | .violation .. => .violation
  | .integrity .. => .integrity
  | .internal .. => .internal
  | .composed f .. => f

def code : Failure → ErrorCode
  | .configParse .. => .configParse
  | .configValue .. => .configValue
  | .configMissing .. => .configMissing
  | .documentMissing .. => .documentMissing
  | .documentUnreadable .. => .documentUnreadable
  | .malformedJson .. => .malformedJson
  | .schemaMismatch .. => .schemaMismatch
  | .indexUnavailable => .dataUnavailable
  | .violation .. => .violation
  | .integrity .. => .integrity
  | .internal .. => .internal
  | .composed _ c .. => c

def message : Failure → String
  | .configParse path reason => s!"Failed to parse config at {path}: {reason}"
  | .configValue field _ reason => s!"Invalid value for '{field}': {reason}"
  | .configMissing path => s!"Config file not found: {path}"
  | .documentMissing path what => s!"{what} not found at: {path}"
  | .documentUnreadable path reason => s!"Failed to read {path}: {reason}"
  | .malformedJson path reason => s!"Invalid JSON in {path}: {reason}"
  | .schemaMismatch source location reason => s!"{source}: {location}: {reason}"
  | .indexUnavailable => "Symbol index is not loaded; check has_symbol_index before querying it"
  | .violation message _ => message
  | .integrity summary _ => s!"Data integrity checks failed: {summary}"
  | .internal reason _ => s!"Internal error: {reason}"
  | .composed _ _ message _ => message

def details : Failure → Datum
  | .configParse path reason => .object [("path", .text path), ("reason", .text reason)]
  | .configValue field value reason =>
    .object [("field", .text field), ("value", .text value.display), ("reason", .text reason)]
  | .configMissing path => .object [("path", .text path)]
  | .documentMissing path _ => .object [("path", .text path)]
  | .documentUnreadable path reason => .object [("path", .text path), ("reason", .text reason)]
  | .malformedJson path reason => .object [("path", .text path), ("reason", .text reason)]
  | .schemaMismatch source location reason =>
    .object [("source", .text source), ("location", .text location), ("reason", .text reason)]
  | .indexUnavailable => .object [("document", .text "symbol_index")]
  | .violation _ details => .object details
  | .integrity _ report => .object [("report", report)]
  | .internal _ details => .object details
  | .composed _ _ _ details => details

def isAssertion (f : Failure) : Bool :=
  f.family = .violation || f.family = .integrity

def display (f : Failure) : String :=
  s!"[{f.code.number}] {f.code.name}: {f.message}"

def record (f : Failure) : Datum :=
  .object [("code", .nat f.code.number), ("error", .text f.code.name),
    ("message", .text f.message), ("details", f.details)]

end Failure

/-- Anything that ends an operation. Only `failure` is announced; the other cases are values that an
operation is not made for. -/
inductive Fault where
  | failure (f : Failure)
  | invalid (issues : List Schema.Issue)
  | argument (message : String)
  | missingKey (key : String)
  | aborted (cause : Schema.Abort)
  | notIterable
  | noWords
  | undecodable
  | directory
  | setting
  | keyword
  | attribute
  | markup
  | frozen
  | skipped (reason : String)
  deriving Repr

namespace Fault

def kindName : Fault → String
  | .failure f => f.family.name
  | .invalid _ => "ValidationError"
  | .argument _ => "ValueError"
  | .missingKey _ => "KeyError"
  | .aborted .unhashable => "TypeError"
  | .aborted .noHome => "RuntimeError"
  | .notIterable => "TypeError"
  | .noWords => "IndexError"
  | .undecodable => "UnicodeDecodeError"
  | .directory => "IsADirectoryError"
  | .setting => "SettingsError"
  | .keyword => "TypeError"
  | .attribute => "AttributeError"
  | .markup => "MarkupError"
  | .frozen => "FrozenInstanceError"
  | .skipped _ => "Skipped"

/-- What is told about a fault beside its kind. -/
def particulars : Fault → List (String × Datum)
  | .failure f =>
    [("message", .text f.message), ("code", .nat f.code.number), ("name", .text f.code.name),
      ("details", f.details), ("is_assertion", .bool f.isAssertion)]
  | .invalid issues => [("errors", .list (issues.map Schema.Issue.record))]
  | .argument message => [("message", .text message)]
  | .missingKey key => [("message", .text key)]
  | .skipped reason => [("message", .text reason)]
  | _ => []

def record (e : Fault) : Datum :=
  .object (("error", .text e.kindName) :: e.particulars)

def recordOf (r : Except Fault Datum) : Datum :=
  match r with
  | .ok d => d
  | .error e => e.record

end Fault

def Datum.shown (d : Datum) : Except Fault String :=
  if d.isShown then .ok d.display else .error (.argument longIntegerMessage)

def Fault.configValue (field : String) (value : Datum) (reason : String) : Fault :=
  match value.shown with
  | .ok _ => .failure (.configValue field value reason)
  | .error e => e

namespace Schema.Checked

def orFault {α : Type} : Checked α → Except Fault α
  | .valid a => .ok a
  | .invalid issues => .error (.invalid issues)
  | .aborted c => .error (.aborted c)

end Schema.Checked

end GraphContracts
