import GraphContracts.Config.Overlay
import GraphContracts.Failure
import GraphContracts.Files
import GraphContracts.Json.Reader
import GraphContracts.Text.LetterCase

namespace GraphContracts

/-- A section of the configuration: its keys, and those that hold a list or a mapping. -/
structure Section where
  name : String
  keys : List String
  nested : List String
  deriving DecidableEq, Repr

namespace Section

def all : List Section :=
  [⟨"logging", ["level", "outputs"], ["outputs"]⟩,
    ⟨"data", ["output_dir", "calls_json", "scip_json", "experimental"], []⟩,
    ⟨"roles", ["flags", "definition_role", "reference_mask", "bare_is_reference"], ["flags"]⟩]

def variableName (s : Section) : String :=
  "callcontract__" ++ s.name

end Section

structure Environment where
  home : Path
  vars : List (String × String)
  deriving DecidableEq, Repr

namespace Environment

def ofList (home : Path) (vars : List (String × String)) : Environment :=
  ⟨home, vars.foldl (fun seen (name, value) =>
    let name := Text.lower name
    if seen.any fun (n, _) => n = name then
      seen.map fun (n, v) => if n = name then (n, value) else (n, v)
    else seen ++ [(name, value)]) []⟩

def splitPath : List Char → List (List Char)
  | '_' :: '_' :: cs => [] :: splitPath cs
  | c :: cs =>
    match splitPath cs with
    | [] => [[c]]
    | key :: keys => (c :: key) :: keys
  | [] => [[]]

def pathIn (s : Section) (name : String) : Option (List String) :=
  let start := (s.variableName ++ "__").toList
  if start.isPrefixOf name.toList then
    some ((splitPath (name.toList.drop start.length)).map String.ofList)
  else none

/-- Puts a value at a path. Mappings on the way are made where there is nothing, and a value in the
way stays. -/
def place : (path : List String) → Datum → Entries → Entries
  | [], _, es => es
  | [key], d, es => es.set (.text key) d
  | key :: path, d, es =>
    match Entries.get? key es with
    | none => es.set (.text key) (.map (place path d []))
    | some (.map inner) => es.set (.text key) (.map (place path d inner))
    | some _ => es

def readJson (value : String) : Except Fault Datum :=
  (Json.read value.toList).mapError fun _ => .setting

def valueAt (s : Section) (path : List String) (value : String) : Except Fault Datum :=
  match path with
  | [key] => if s.nested.contains key && value ≠ "" then readJson value else .ok (.text value)
  | _ => .ok (.text value)

def keysOf (env : Environment) (s : Section) : Except Fault Entries :=
  env.vars.foldlM
    (fun es (name, value) =>
      match pathIn s name with
      | none => .ok es
      | some path => (valueAt s path value).map fun d => place path d es) []

def spellKeys (s : Section) (es : Entries) : Entries :=
  Entries.ofPairs <| es.map fun (k, v) =>
    match k with
    | .text name => (.text ((s.keys.find? fun n => n = Text.lower name).getD name), v)
    | k => (k, v)

/-- What the environment says about a section, if anything: the whole section as JSON, with single
keys laid over it. Only a mapping takes keys. -/
def sectionOf (env : Environment) (s : Section) : Except Fault (Option Datum) := do
  match env.vars.lookup s.variableName with
  | none =>
    let es ← env.keysOf s
    pure (if es.isEmpty then none else some (.map (spellKeys s es)))
  | some value =>
    match ← readJson value with
    | .null => pure none
    | .map whole => do
      let es ← env.keysOf s
      pure (some (.map (spellKeys s (Entries.over whole es))))
    | d => pure (some d)

def entries (env : Environment) : Except Fault Entries := do
  let found ← Section.all.mapM fun s => do
    pure ((← env.sectionOf s).map fun d => (Datum.text s.name, d))
  pure (found.filterMap id)

end Environment

end GraphContracts
