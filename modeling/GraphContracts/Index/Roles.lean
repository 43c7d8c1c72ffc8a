import GraphContracts.Schema.Record

namespace GraphContracts

/-- Whether two integers share a bit, negative ones taken in two's complement. -/
def sharesBit : Int → Int → Bool
  | .ofNat a, .ofNat b => a &&& b ≠ 0
  | .ofNat a, .negSucc b => a &&& b ≠ a
  | .negSucc a, .ofNat b => b &&& a ≠ b
  | .negSucc _, .negSucc _ => true

def isSingleBit : Int → Bool
  | .ofNat n => n ≠ 0 && n &&& (n - 1) = 0
  | .negSucc _ => false

structure RoleSchema where
  flags : List (String × Int)
  definitionRole : String
  referenceMask : Int
  bareIsReference : Bool
  deriving DecidableEq, Repr

namespace RoleSchema

def defaultFlags : List (String × Int) :=
  [("Definition", 1), ("Import", 2), ("WriteAccess", 4), ("ReadAccess", 8), ("Generated", 16),
    ("Test", 32), ("ForwardDefinition", 64)]

def standard : RoleSchema :=
  ⟨defaultFlags, "Definition", 14, true⟩

def checkFlags (flags : List (String × Int)) (d : Datum) : Schema.Checked (List (String × Int)) :=
  match flags.find? fun (_, bit) => !isSingleBit bit with
  | none => .valid flags
  | some (name, bit) => .issue (.custom s!"Role '{name}' must map to a single bit, got {bit}") d

def ofFields (es : Entries) : Schema.Checked RoleSchema :=
  RoleSchema.mk <$>
    Schema.withDefault ["flags"] defaultFlags
      (fun d => (Schema.mapping Schema.integer d).andThen fun flags => checkFlags flags d) es <*>
    Schema.withDefault ["definition_role"] "Definition" Schema.text es <*>
    Schema.withDefault ["reference_mask"] 14 Schema.integer es <*>
    Schema.withDefault ["bare_is_reference"] true Schema.boolean es

/-- The definition role is one of the flags. -/
def ofEntries (es : Entries) : Schema.Checked RoleSchema :=
  (ofFields es).andThen fun s =>
    if (s.flags.lookup s.definitionRole).isSome then .valid s
    else
      .issue (.custom s!"Definition role '{s.definitionRole}' missing from flags") (.map es)

def ofDatum : Datum → Schema.Checked RoleSchema :=
  Schema.record "RoleSchema" ofEntries

def definitionBit (s : RoleSchema) : Int :=
  (s.flags.lookup s.definitionRole).getD 0

def isDefinition (s : RoleSchema) (roles : Int) : Bool :=
  sharesBit roles s.definitionBit

def isReference (s : RoleSchema) (roles : Int) : Bool :=
  sharesBit roles s.referenceMask || (s.bareIsReference && !s.isDefinition roles)

def names (s : RoleSchema) (roles : Int) : List String :=
  (s.flags.filter fun (_, bit) => sharesBit roles bit).map Prod.fst ++
    (if s.isReference roles then ["Reference"] else [])

def bit (s : RoleSchema) (name : String) : Except String Int :=
  match s.flags.lookup name with
  | some b => .ok b
  | none =>
    let known := Text.joinWith ", " (s.flags.map Prod.fst)
    .error s!"Unknown role '{name}'; known: {known}"

def record (s : RoleSchema) : Datum :=
  .object [("flags", .object (s.flags.map fun (name, bit) => (name, .int bit))),
    ("definition_role", .text s.definitionRole), ("reference_mask", .int s.referenceMask),
    ("bare_is_reference", .bool s.bareIsReference)]

example : standard.names 5 = ["Definition", "WriteAccess", "Reference"] := by decide

end RoleSchema

end GraphContracts
