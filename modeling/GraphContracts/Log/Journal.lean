import GraphContracts.Log.Line

namespace GraphContracts.Log

/-- `written` holds every line with its destination, in order, and `files` the files opened so
far. -/
structure Journal where
  setup : Option LoggingConfig
  contract : Option String
  outer : List (Option String)
  written : List (String × String)
  files : List String

namespace Journal

def empty : Journal :=
  ⟨none, none, [], [], []⟩

def configure (j : Journal) (c : LoggingConfig) : Journal :=
  let opened := (c.outputs.map LogOutput.destination).filter fun d =>
    !LogOutput.isStream d && !j.files.contains d
  { j with setup := some c, files := j.files ++ opened.eraseDups }

def file? (j : Journal) : Option String :=
  j.setup.bind fun c =>
    (c.outputs.map LogOutput.destination).find? fun d => !LogOutput.isStream d

def setContract (j : Journal) (id : String) : Journal :=
  { j with contract := some id }

def clearContract (j : Journal) : Journal :=
  { j with contract := none }

def enter (j : Journal) (id : String) : Journal :=
  { j with contract := some id, outer := j.contract :: j.outer }

def leave? (j : Journal) : Option Journal :=
  match j.outer with
  | [] => none
  | id :: more => some { j with contract := id, outer := more }

def write (j : Journal) (lines : List (String × String)) : Journal :=
  { j with written := j.written ++ lines }

def takers (c : LoggingConfig) (level : Level) : List LogOutput :=
  c.outputs.filter fun o => c.level ≤ level && (o.level.getD c.level) ≤ level

/-- The lines of an event by its members. Without outputs, warnings and worse go to standard error
as they are; `bare` is their text. -/
def linesFor (c : LoggingConfig) (level : Level) (es : Entries) (bare : String) :
    List (String × String) :=
  if c.outputs.isEmpty then
    if c.level ≤ level ∧ Level.warning ≤ level then [("stderr", bare)] else []
  else (takers c level).map fun o => (o.destination, line o.format es)

def levelWidth : Nat := 9

def log (j : Journal) (time : String) (e : Event) : Journal :=
  let occasion : Occasion := ⟨time, j.contract⟩
  j.write <|
    match j.setup with
    | none => [("stdout", consoleLine levelWidth (members occasion none e))]
    | some c =>
      let es := members occasion (some e.logger) e
      linesFor c e.level es (Datum.map es).literal

def logAll (j : Journal) (time : String) (es : List Event) : Journal :=
  es.foldl (fun j e => j.log time e) j

def relay (j : Journal) (time : String) (e : Event) : Journal :=
  j.write <|
    match j.setup with
    | none => if Level.warning ≤ e.level then [("stderr", e.name)] else []
    | some c => linesFor c e.level (members ⟨time, j.contract⟩ (some e.logger) e) e.name

def linesAt (j : Journal) (destination : String) : List String :=
  (j.written.filter fun (d, _) => d = destination).map (·.2)

end Journal

end GraphContracts.Log
