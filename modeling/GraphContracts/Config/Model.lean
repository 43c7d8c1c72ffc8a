import GraphContracts.Event
import GraphContracts.Files
import GraphContracts.Index.Roles

namespace GraphContracts

open Schema

namespace Level

def title (l : Level) : String :=
  l.name.map Char.toUpper

def options : List (String × Level) :=
  all.map fun l => (l.title, l)

end Level

inductive LogFormat where
  | json
  | console
  deriving DecidableEq, Repr

namespace LogFormat

def name : LogFormat → String
  | .json => "json"
  | .console => "console"

def options : List (String × LogFormat) :=
  [LogFormat.json, LogFormat.console].map fun f => (f.name, f)

end LogFormat

/-- One place that log events go to: a standard stream or a file. Without a level of its own it
takes every event that is logged at all. -/
structure LogOutput where
  format : LogFormat
  destination : String
  level : Option Level
  deriving DecidableEq, Repr

namespace LogOutput

def standard : LogOutput :=
  ⟨.console, "stderr", none⟩

def isStream (destination : String) : Bool :=
  destination = "stderr" || destination = "stdout"

def readDestination (home : Path) (d : Datum) : Checked String :=
  (text d).andThen fun s =>
    if isStream s then .valid s
    else
      match (Path.ofString s).expandHome? home with
      | none => .aborted .noHome
      | some p =>
        if p.isAbsolute then .valid (toString p)
        else .issue (.custom s!"File destination must be absolute path: {s}") d

def ofEntries (home : Path) (es : Entries) : Checked LogOutput :=
  LogOutput.mk <$> withDefault ["format"] .console (choice .literal LogFormat.options) es <*>
    withDefault ["destination"] "stderr" (readDestination home) es <*>
    optionalField ["level"] (choice .literal Level.options) es

def ofDatum (home : Path) : Datum → Checked LogOutput :=
  record "LogOutputConfig" (ofEntries home)

def record (o : LogOutput) : Datum :=
  .object [("format", .text o.format.name), ("destination", .text o.destination),
    ("level", .optional (fun l => .text l.title) o.level)]

end LogOutput

structure LoggingConfig where
  level : Level
  outputs : List LogOutput
  deriving DecidableEq, Repr

namespace LoggingConfig

def standard : LoggingConfig :=
  ⟨.info, [.standard]⟩

def ofEntries (home : Path) (es : Entries) : Checked LoggingConfig :=
  LoggingConfig.mk <$> withDefault ["level"] .info (choice .literal Level.options) es <*>
    withDefault ["outputs"] [.standard] (items .list (LogOutput.ofDatum home)) es

def ofDatum (home : Path) : Datum → Checked LoggingConfig :=
  Schema.record "LoggingConfig" (ofEntries home)

def record (c : LoggingConfig) : Datum :=
  .object [("level", .text c.level.title), ("outputs", .list (c.outputs.map LogOutput.record))]

end LoggingConfig

structure DataConfig where
  outputDir : String
  callsJson : String
  indexJson : Option String
  experimental : Bool
  deriving DecidableEq, Repr

namespace DataConfig

def standard : DataConfig :=
  ⟨"./output", "calls.json", some "index.scip.json", false⟩

def ofEntries (es : Entries) : Checked DataConfig :=
  DataConfig.mk <$> withDefault ["output_dir"] "./output" text es <*>
    withDefault ["calls_json"] "calls.json" text es <*>
    withDefault ["scip_json"] (some "index.scip.json") (nullable text) es <*>
    withDefault ["experimental"] false boolean es

def ofDatum : Datum → Checked DataConfig :=
  Schema.record "DataConfig" ofEntries

/-- The path of a document: below the output directory, which lies below the project root, unless
one of them is absolute. -/
def resolve (c : DataConfig) (home root : Path) (name : String) : Option Path := do
  let path ← (Path.ofString name).expandHome? home
  if path.isAbsolute then pure path
  else
    let out ← (Path.ofString c.outputDir).expandHome? home
    pure ((root.join out).join path)

def callsPath (c : DataConfig) (home root : Path) : Option Path :=
  c.resolve home root c.callsJson

def indexPath (c : DataConfig) (home root : Path) : Option (Option Path) :=
  match c.indexJson with
  | none => some none
  | some name => if name = "" then some none else (c.resolve home root name).map some

def record (c : DataConfig) : Datum :=
  .object [("output_dir", .text c.outputDir), ("calls_json", .text c.callsJson),
    ("scip_json", .optional .text c.indexJson), ("experimental", .bool c.experimental)]

end DataConfig

structure Config where
  logging : LoggingConfig
  data : DataConfig
  roles : RoleSchema
  deriving DecidableEq, Repr

namespace Config

def standard : Config :=
  ⟨.standard, .standard, .standard⟩

def ofEntries (home : Path) (es : Entries) : Checked Config :=
  Config.mk <$> withDefault ["logging"] .standard (LoggingConfig.ofDatum home) es <*>
    withDefault ["data"] .standard DataConfig.ofDatum es <*>
    withDefault ["roles"] .standard RoleSchema.ofDatum es

def ofDatum (home : Path) : Datum → Checked Config :=
  Schema.record "CallContractConfig" (ofEntries home)

def record (c : Config) : Datum :=
  .object [("logging", c.logging.record), ("data", c.data.record), ("roles", c.roles.record)]

end Config

end GraphContracts
