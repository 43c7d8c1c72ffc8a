import GraphContracts.Schema.Record

namespace GraphContracts

open Schema

inductive ContractStatus where
  | active
  | skipped
  | pending
  deriving DecidableEq, Repr

namespace ContractStatus

def name : ContractStatus → String
  | .active => "active"
  | .skipped => "skipped"
  | .pending => "pending"

def options : List (String × ContractStatus) :=
  [ContractStatus.active, ContractStatus.skipped, ContractStatus.pending].map fun s => (s.name, s)

end ContractStatus

structure ContractEntry where
  name : String
  description : String
  category : String
  status : ContractStatus
  experimental : Bool
  deriving DecidableEq, Repr

namespace ContractEntry

def fields : List String :=
  ["name", "description", "category", "status", "experimental"]

def ofEntries (es : Entries) : Checked ContractEntry :=
  let known := ContractEntry.mk <$> required "name" text es <*> required "description" text es <*>
    withDefault ["category"] "" text es <*>
    withDefault ["status"] .active (choice .literal ContractStatus.options) es <*>
    withDefault ["experimental"] false boolean es
  (known.map fun e _ => e).seq (refuseExtra fields es)

def ofDatum : Datum → Checked ContractEntry :=
  Schema.record "ContractTestMeta" ofEntries

/-- The test in an item of a file. One that holds nothing counts as an empty mapping. -/
def ofItem (raw : Datum) : Checked ContractEntry :=
  ofDatum (if raw.isTruthy then raw else .map [])

def record (e : ContractEntry) : Datum :=
  .object [("name", .text e.name), ("description", .text e.description),
    ("category", .text e.category), ("status", .text e.status.name),
    ("experimental", .bool e.experimental)]

end ContractEntry

end GraphContracts
