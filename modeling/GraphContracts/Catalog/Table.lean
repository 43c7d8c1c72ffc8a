import GraphContracts.Catalog.Entry
import GraphContracts.Documents
import GraphContracts.Yaml.Block

namespace GraphContracts

structure Catalog where
  entries : List (String × ContractEntry)
  ids_nodup : (entries.map (·.1)).Nodup

namespace Catalog

def empty : Catalog :=
  ⟨[], .nil⟩

def get? (c : Catalog) (id : String) : Option ContractEntry :=
  c.entries.lookup id

def contains (c : Catalog) (id : String) : Bool :=
  (c.entries.map (·.1)).contains id

def register (c : Catalog) (id : String) (e : ContractEntry) : Except Fault Catalog :=
  if h : c.contains id then .error (.argument s!"Contract test already registered: {id}")
  else .ok {
    entries := c.entries ++ [(id, e)]
    ids_nodup := by
      have hid : id ∉ c.entries.map (·.1) := by simpa [contains] using h
      rw [List.map_append, List.nodup_append]
      refine ⟨c.ids_nodup, by simp, ?_⟩
      rintro a ha b hb rfl
      simp only [List.map_cons, List.map_nil, List.mem_singleton] at hb
      exact hid (hb ▸ ha) }

def byCategory (c : Catalog) (category : String) : List (String × ContractEntry) :=
  c.entries.filter fun (_, e) => e.category = category

def categories (c : Catalog) : List String :=
  let named := (c.entries.map fun (_, e) => e.category).filter (· ≠ "")
  named.eraseDups.mergeSort fun a b => a ≤ b

def experimentalIds (c : Catalog) : List String :=
  ((c.entries.filter fun (_, e) => e.experimental).map (·.1)).mergeSort fun a b => a ≤ b

end Catalog

/-- An entry as it is kept, without the fields that have their usual value. -/
def ContractEntry.block (e : ContractEntry) : Yaml.Block :=
  .mapping ([("name", .text e.name), ("description", .text e.description)] ++
    (if e.category = "" then [] else [("category", .text e.category)]) ++
    (if e.status = .active then [] else [("status", .text e.status.name)]) ++
    (if e.experimental then [("experimental", .flag true)] else []))

namespace Catalog

def blocks (c : Catalog) : List (String × Yaml.Block) :=
  [("contracts", .mapping (c.entries.map fun (id, e) => (id, e.block)))]

def write (c : Catalog) : String :=
  Yaml.Block.document c.blocks

def registerDatum (c : Catalog) (key raw : Datum) : Except Fault Catalog :=
  match ContractEntry.ofItem raw with
  | .valid e => do c.register (← key.shown) e
  | .invalid issues => do
    let reason := (issues.head?.map fun i => i.cause.message).getD ""
    .error (.configValue s!"contracts.{← key.shown}" raw reason)
  | .aborted cause => .error (.aborted cause)

/-- The tests of a document. Where the document holds nothing there are none. -/
def tests? (d : Datum) : Option Entries :=
  match if d.isTruthy then d else .map [] with
  | .map es =>
    match (Entries.get? "contracts" es).getD (.map []) with
    | .map tests => some tests
    | _ => none
  | _ => none

def ofDatum (path : Path) (d : Datum) : Except Fault Catalog :=
  match tests? d with
  | none => .error (.failure (.configParse (toString path) "expected a 'contracts' mapping"))
  | some tests => tests.foldlM (fun c (key, raw) => c.registerDatum key raw) empty

def load (files : FileTree) (path : Path) : Except Fault Catalog :=
  match Documents.readText files path with
  | .error e => .error e.fault
  | .ok none => .error (.failure (.configMissing (toString path)))
  | .ok (some content) => do ofDatum path (← Documents.parseYaml path content)

end Catalog

end GraphContracts
