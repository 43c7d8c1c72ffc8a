import GraphContracts.Expect
import GraphContracts.Graph.Store
import GraphContracts.Symbol.Scope
import GraphContracts.Text.Glob

namespace GraphContracts

structure Filter (α : Type) where
  label : String
  test : α → Bool

/-- What queries ask of values and calls alike. -/
class Node (α : Type) where
  noun : String
  nodes : CallGraph → List α
  id : α → String
  kindName : α → String
  kindTypeName : α → Option String
  file : α → Option String
  line : α → Option Int

instance : Node Value where
  noun := "value"
  nodes := CallGraph.values
  id := Value.id
  kindName v := v.kind.name
  kindTypeName := Value.kindType
  file := Value.file
  line := Value.line

instance : Node Call where
  noun := "call"
  nodes := CallGraph.calls
  id := Call.id
  kindName c := c.kind.name
  kindTypeName c := c.kindType.map KindType.name
  file := Call.file
  line := Call.line

/-- The nodes of a graph, narrowed by filters in the order in which they were applied. -/
structure NodeQuery (α : Type) where
  graph : CallGraph
  filters : List (Filter α)

abbrev ValueQuery := NodeQuery Value

abbrev CallQuery := NodeQuery Call

namespace NodeQuery

variable {α : Type}

def filtered (q : NodeQuery α) (label : String) (test : α → Bool) : NodeQuery α :=
  { q with filters := q.filters ++ [⟨label, test⟩] }

def accepts (q : NodeQuery α) (a : α) : Bool :=
  q.filters.all fun f => f.test a

def labels (q : NodeQuery α) : List String :=
  q.filters.map Filter.label

def describeFilters (q : NodeQuery α) : String :=
  Expect.describeFilters q.labels

variable [Node α]

def all (q : NodeQuery α) : List α :=
  (Node.nodes q.graph).filter q.accepts

def first (q : NodeQuery α) : Option α :=
  q.all.head?

def count (q : NodeQuery α) : Nat :=
  q.all.length

def isInhabited (q : NodeQuery α) : Bool :=
  q.first.isSome

theorem all_filtered (q : NodeQuery α) (label : String) (test : α → Bool) :
    (q.filtered label test).all = q.all.filter test := by
  simp only [all, List.filter_filter, filtered]
  congr 1
  funext a
  simp [accepts, Bool.and_comm]

def one (q : NodeQuery α) : Except Failure α :=
  Expect.one (Node.noun α) q.labels q.all

def assertCount (q : NodeQuery α) (expected : Int) : Except Failure (NodeQuery α) :=
  (Expect.count (Node.noun α) q.labels expected q.count).map fun _ => q

def assertExists (q : NodeQuery α) : Except Failure (NodeQuery α) :=
  (Expect.atLeastOne (Node.noun α) q.labels q.isInhabited).map fun _ => q

def assertEmpty (q : NodeQuery α) : Except Failure (NodeQuery α) :=
  match q.all.map Node.id with
  | [] => .ok q
  | ids =>
    let listed := Text.joinWith ", " ids
    .error (Expect.violation q.labels
      s!"Expected no {Node.noun α}, found {ids.length} (ids: {listed})"
      [("count", .nat ids.length), ("ids", .texts ids)])

def kind (q : NodeQuery α) (wanted : String) : NodeQuery α :=
  q.filtered s!"kind={wanted}" fun n => Node.kindName n = wanted

/-- A node without a group has the empty one. -/
def kindType (q : NodeQuery α) (wanted : String) : NodeQuery α :=
  q.filtered s!"kind_type={wanted}" fun n => (Node.kindTypeName n).getD "" = wanted

def inFile (q : NodeQuery α) (part : String) : NodeQuery α :=
  q.filtered s!"file~{part}" fun n => (Node.file n).any (Text.contains part)

def atLine (q : NodeQuery α) (line : Int) : NodeQuery α :=
  q.filtered s!"line={line}" fun n => Node.line n = some line

def symbol (q : ValueQuery) (wanted : String) : ValueQuery :=
  q.filtered s!"symbol={wanted}" fun v => v.symbol = some wanted

def symbolContains (q : ValueQuery) (part : String) : ValueQuery :=
  q.filtered s!"symbol~{part}" fun v => v.symbol.any (Text.contains part)

def symbolMatches (q : ValueQuery) (pattern : String) : ValueQuery :=
  q.filtered s!"symbol={Text.quoted pattern}" fun v => Text.globMatches pattern v.symbol

def named (q : ValueQuery) (name : String) : ValueQuery :=
  let wanted := Symbol.normalizeVariable name
  q.filtered s!"name={wanted}" fun v => v.name = some wanted

def hasSourceCall (q : ValueQuery) : ValueQuery :=
  q.filtered "has_source_call" fun v => v.sourceCallId.isSome

def hasSourceValue (q : ValueQuery) : ValueQuery :=
  q.filtered "has_source_value" fun v => v.sourceValueId.isSome

def withType (q : ValueQuery) (type : String) : ValueQuery :=
  q.filtered s!"type={type}" fun v => v.type = some type

def callerContains (q : CallQuery) (part : String) : CallQuery :=
  q.filtered s!"caller~{part}" fun c => Text.contains part c.caller

def calleeContains (q : CallQuery) (part : String) : CallQuery :=
  q.filtered s!"callee~{part}" fun c => c.callee.any (Text.contains part)

def callerMatches (q : CallQuery) (pattern : String) : CallQuery :=
  q.filtered s!"caller={Text.quoted pattern}" fun c => Text.globMatches pattern (some c.caller)

def calleeMatches (q : CallQuery) (pattern : String) : CallQuery :=
  q.filtered s!"callee={Text.quoted pattern}" fun c => Text.globMatches pattern c.callee

def withReceiver (q : CallQuery) (id : String) : CallQuery :=
  q.filtered s!"receiver={id}" fun c => c.receiverValueId = some id

def hasReceiver (q : CallQuery) : CallQuery :=
  q.filtered "has_receiver" fun c => c.receiverValueId.isSome

def callerInScope (q : CallQuery) (fragment : String) : CallQuery :=
  q.filtered s!"caller in {fragment}" fun c => Symbol.inScope fragment (some c.caller)

def inMethod (q : CallQuery) (className methodName : String) : CallQuery :=
  q.callerInScope (Symbol.scopePattern className methodName)

/-- The distinct receivers of the matches, sorted. An empty id is not counted. -/
def receivers (q : CallQuery) : List String :=
  (q.all.filterMap fun c => nonEmpty c.receiverValueId).eraseDups.mergeSort fun a b => a ≤ b

def allShareReceiver (q : CallQuery) : Bool :=
  q.receivers.length ≤ 1

def assertAllShareReceiver (q : CallQuery) : Except Failure CallQuery :=
  if q.allShareReceiver then .ok q
  else
    let listed := Text.joinWith ", " q.receivers
    .error (Expect.violation q.labels
      s!"Expected one shared receiver, found {q.receivers.length} ({listed})"
      [("receivers", .texts q.receivers)])

end NodeQuery

namespace CallGraph

def valueQuery (g : CallGraph) : ValueQuery :=
  ⟨g, []⟩

def callQuery (g : CallGraph) : CallQuery :=
  ⟨g, []⟩

end CallGraph

structure MethodScope where
  graph : CallGraph
  className : String
  methodName : String

namespace MethodScope

def ofNames (graph : CallGraph) (className methodName : String) : MethodScope :=
  ⟨graph, Symbol.bareClass className, methodName⟩

def pattern (s : MethodScope) : String :=
  Symbol.scopePattern s.className s.methodName

def label (s : MethodScope) : String :=
  s!"{s.className}::{s.methodName}"

def describe (s : MethodScope) : String :=
  s!"MethodScope({s.label})"

def encloses (s : MethodScope) (symbol : Option String) : Bool :=
  Symbol.inScope s.pattern symbol

def calls (s : MethodScope) : CallQuery :=
  s.graph.callQuery.callerInScope s.pattern

/-- Whether a value belongs to the method: by its symbol, or where it has none by the call that
produces it. -/
def declares (s : MethodScope) (v : Value) : Bool :=
  match v.symbol with
  | some _ => s.encloses v.symbol
  | none => (s.graph.sourceCallOf v).any fun c => s.encloses (some c.caller)

def values (s : MethodScope) : ValueQuery :=
  s.graph.valueQuery.filtered s!"scope={s.pattern}" s.declares

def parameter (s : MethodScope) (name : String) : ValueQuery :=
  (s.values.kind ValueKind.parameter.name).named name

def localVariable (s : MethodScope) (name : String) : ValueQuery :=
  (s.values.kind ValueKind.localVariable.name).named name

end MethodScope

end GraphContracts
