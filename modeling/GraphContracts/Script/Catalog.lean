import GraphContracts.Catalog.Table

namespace GraphContracts.Script

def entriesRecord (es : List (String × ContractEntry)) : Datum :=
  .object (es.map fun (id, e) => (id, e.record))

def catalogDocument (c : Catalog) : Datum :=
  (Yaml.Block.mapping c.blocks).value

def catalogRecord (c : Catalog) : Datum :=
  .object [("size", .nat c.entries.length),
    ("entries", .list (c.entries.map fun (id, e) => .list [.text id, e.record])),
    ("categories", .texts c.categories), ("experimental_ids", .texts c.experimentalIds),
    ("to_dict", catalogDocument c)]

def catalogOf (entries : List (String × Datum)) : Except Fault Catalog :=
  entries.foldlM
    (fun c (id, d) => do c.register id (← (ContractEntry.ofDatum d).orFault)) Catalog.empty

def catalogPath : Path :=
  .ofString "contracts.yaml"

def catalogStep (c : Catalog) (name : String) (args : List Datum) :
    Except Fault (Datum × Catalog) :=
  match name, args with
  | "get", .text id :: _ => .ok (.optional ContractEntry.record (c.get? id), c)
  | "contains", .text id :: _ => .ok (.bool (c.contains id), c)
  | "by_category", .text category :: _ => .ok (entriesRecord (c.byCategory category), c)
  | "categories", _ => .ok (.texts c.categories, c)
  | "experimental_ids", _ => .ok (.texts c.experimentalIds, c)
  | "to_dict", _ => .ok (catalogDocument c, c)
  | "register", .text id :: d :: _ => do
    let e ← (ContractEntry.ofDatum d).orFault
    let c ← c.register id e
    pure (e.record, c)
  | "write_yaml", _ => .ok (.text c.write, c)
  | "reload", _ => do
    let d ← Documents.parseYaml catalogPath c.write
    let loaded ← Catalog.ofDatum catalogPath d
    pure (catalogRecord loaded, c)
  | _, _ => .error .attribute

/-- The answers of the steps in order. A step that fails leaves the catalog as it was. -/
def runCatalog (c : Catalog) : List (String × List Datum) → List Datum
  | [] => []
  | (name, args) :: more =>
    match catalogStep c name args with
    | .ok (answer, c) => answer :: runCatalog c more
    | .error e => e.record :: runCatalog c more

end GraphContracts.Script
