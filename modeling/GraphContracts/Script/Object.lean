import GraphContracts.Config.Model
import GraphContracts.Index.Literal
import GraphContracts.Session

namespace GraphContracts.Script

inductive Object where
  | plain (d : Datum)
  | data (d : ContractData)
  | store (g : CallGraph)
  | indexStore (x : SymbolIndex)
  | index (x : SymbolIndex)
  | scope (s : MethodScope)
  | values (q : ValueQuery)
  | calls (q : CallQuery)
  | symbols (q : SymbolQuery)
  | occurrences (q : OccurrenceQuery)
  | value (v : Value)
  | call (c : Call)
  | argument (a : Argument)
  | location (l : Location)
  | symbol (s : SymbolEntry)
  | relationship (r : Relationship)
  | occurrence (o : Occurrence)
  | roles (r : RoleSchema)
  | dataConfig (c : DataConfig) (home : Path)
  | binding (a : BindingContract)
  | chain (a : ChainContract)
  | reference (a : ReferenceContract)
  | integrity (a : IntegrityContract)
  | verification (r : ReferenceVerification)
  | chainResult (c : Chain)
  | step (s : ChainStep)
  | report (r : IntegrityReport)
  | check (r : CheckResult)
  | finding (f : Finding)
  | many (items : List Object)
  | mapping (literal : String) (entries : List (String × Object))
  | record (fields : List (String × Object))
  deriving Inhabited

namespace Object

def text (s : String) : Object := .plain (.text s)

def optText (s : Option String) : Object := .plain (.optional .text s)

def int (n : Int) : Object := .plain (.int n)

def nat (n : Nat) : Object := .plain (.nat n)

def bool (b : Bool) : Object := .plain (.bool b)

def texts (ss : List String) : Object := .plain (.texts ss)

def opt {α : Type} (f : α → Object) : Option α → Object
  | some a => f a
  | none => .plain .null

def isNull : Object → Bool
  | .plain .null => true
  | _ => false

/-- Whether a later step goes on from an object without naming it. -/
def isChainable : Object → Bool
  | .index _ | .scope _ | .values _ | .calls _ | .symbols _ | .occurrences _ | .binding _ |
    .chain _ | .reference _ | .integrity _ | .report _ | .step _ => true
  | _ => false

def equals : Object → Object → Bool
  | .plain d, .plain e => d.literal = e.literal
  | .value v, .value w => v = w
  | .call c, .call d => c = d
  | .argument a, .argument b => a = b
  | .location l, .location m => l = m
  | .symbol s, .symbol t => s = t
  | .relationship r, .relationship s => r = s
  | .occurrence o, .occurrence p => o = p
  | .roles r, .roles s => r = s
  | .step s, .step t => s = t
  | .finding f, .finding g => f = g
  | .check r, .check s => r = s
  | _, _ => false

def isFrozenRecord : Object → Bool
  | .values _ | .calls _ | .symbols _ | .occurrences _ | .binding _ | .chain _ | .reference _ |
    .integrity _ | .verification _ | .chainResult _ | .step _ | .report _ | .check _ |
    .finding _ => true
  | _ => false

def symbolMap (x : SymbolIndex) : Object :=
  .mapping (Literal.mapping (x.symbols.map fun s => (s.name, Literal.symbol s)))
    (x.symbols.map fun s => (s.name, .symbol s))

def valueMap (g : CallGraph) : Object :=
  .mapping (Literal.mapping (g.valuesById.map fun v => (v.id, Literal.value v)))
    (g.valuesById.map fun v => (v.id, .value v))

def callMap (g : CallGraph) : Object :=
  .mapping (Literal.mapping (g.callsById.map fun c => (c.id, Literal.call c)))
    (g.callsById.map fun c => (c.id, .call c))

end Object

def stepType : ChainStep → String
  | .value _ => "value"
  | .call _ => "call"

def nodeOf : ChainStep → Object
  | .value v => .value v
  | .call c => .call c

end GraphContracts.Script
