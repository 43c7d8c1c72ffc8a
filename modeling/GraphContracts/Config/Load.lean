import GraphContracts.Config.Environment
import GraphContracts.Config.Model
import GraphContracts.Documents

namespace GraphContracts

open Schema

namespace Config

def fileName : Path :=
  .ofString "callcontract.yaml"

def sectionNames : List String :=
  Section.all.map Section.name

/-- The key of a section among those of a source. It may be spelled in letters of either case where
the exact name is missing. -/
def spelledName? (es : Entries) (name : String) : Option String :=
  if Entries.has name es then some name
  else es.findSome? fun (k, _) =>
    match k with
    | .text n => if Text.lower n = name then some n else none
    | _ => none

def spellSections (es : Entries) : Entries :=
  let known := sectionNames.filterMap fun name => (spelledName? es name).map (·, name)
  let first := known.filterMap fun (n, name) => (Entries.get? n es).map (Datum.text name, ·)
  first ++ es.filter fun (k, _) => !(known.any fun (n, _) => k.sameKey (.text n))

def readFile (files : FileTree) (root : Path) : Except Fault Entries :=
  let path := root.join fileName
  match files.entry path with
  | .octets _ =>
    match Documents.readText files path with
    | .error e => .error e.fault
    | .ok content => do
      match ← Documents.parseYaml path (content.getD "") with
      | .null => pure []
      | .map es => pure es
      | _ => .error (.failure (.configParse (toString path) "top-level value must be a mapping"))
  | _ => .ok []

def ofSources (home : Path) (es : Entries) : Except Fault Config :=
  if es.any fun (k, _) => match k with | .text _ => false | _ => true then .error .keyword
  else
    match ((ofEntries home es).map fun c _ => c).seq (refuseExtra sectionNames es) with
    | .valid c => .ok c
    | .aborted cause => .error (.aborted cause)
    | .invalid issues =>
      match issues.head? with
      | some issue =>
        .error (.configValue (Text.joinWith "." issue.place) issue.input issue.cause.message)
      | none => .error .setting

/-- The sections in the file of the project whose configuration is being resolved, if there is
one. -/
abbrev Ambient := Option Entries

def resolve (env : Environment) (given : Entries) (ambient : Ambient) : Except Fault Config := do
  let told ← env.entries
  ofSources env.home
    (Entries.over (spellSections (ambient.getD [])) (Entries.over told (spellSections given)))

structure Request where
  files : FileTree
  root : Path
  env : Environment
  given : Entries

def loadIn (r : Request) : StateM Ambient (Except Fault Config) := do
  match readFile r.files r.root with
  | .error e => pure (.error e)
  | .ok file =>
    let before ← get
    set (some file)
    let result := resolve r.env r.given (← get)
    set before
    pure result

def load (files : FileTree) (root : Path) (env : Environment) (given : Entries) :
    Except Fault Config :=
  (loadIn ⟨files, root, env, given⟩ none).1

end Config

end GraphContracts
