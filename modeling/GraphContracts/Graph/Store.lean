import GraphContracts.Documents
import GraphContracts.Graph.Document

namespace GraphContracts

structure CallGraph where
  document : GraphDocument
  source : String
  deriving DecidableEq, Repr

/-- The items whose key has not come before, in order. -/
def distinctBy {α : Type} (key : α → String) (seen : List String) : List α → List α
  | [] => []
  | a :: as =>
    if seen.contains (key a) then distinctBy key seen as
    else a :: distinctBy key (key a :: seen) as

/-- How many items have a key that has come before. -/
def countRepeats {α : Type} (key : α → String) (seen : List String) : List α → Nat
  | [] => 0
  | a :: as =>
    if seen.contains (key a) then countRepeats key seen as + 1
    else countRepeats key (key a :: seen) as

theorem mem_distinctBy {α : Type} {key : α → String} {seen : List String} {as : List α} {a : α}
    (h : a ∈ distinctBy key seen as) : a ∈ as ∧ key a ∉ seen := by
  induction as generalizing seen with
  | nil => simp [distinctBy] at h
  | cons b bs ih =>
    by_cases hb : key b ∈ seen
    · simp only [distinctBy, List.contains_iff_mem, hb, if_true] at h
      exact ⟨.tail _ (ih h).1, (ih h).2⟩
    · simp only [distinctBy, List.contains_iff_mem, hb, if_false, List.mem_cons] at h
      rcases h with rfl | h
      · exact ⟨.head _, hb⟩
      · exact ⟨.tail _ (ih h).1, fun hs => (ih h).2 (.tail _ hs)⟩

theorem distinctBy_nodup {α : Type} (key : α → String) (seen : List String) (as : List α) :
    ((distinctBy key seen as).map key).Nodup := by
  induction as generalizing seen with
  | nil => simp [distinctBy]
  | cons a as ih =>
    simp only [distinctBy]
    split
    · exact ih _
    · simp only [List.map_cons, List.nodup_cons, List.mem_map, not_exists, not_and]
      refine ⟨fun b hb e => (mem_distinctBy hb).2 (e ▸ .head _), ih _⟩

theorem length_distinctBy_add_countRepeats {α : Type} (key : α → String) (seen : List String)
    (as : List α) : (distinctBy key seen as).length + countRepeats key seen as = as.length := by
  induction as generalizing seen with
  | nil => rfl
  | cons a as ih =>
    simp only [distinctBy, countRepeats]
    split
    · rw [List.length_cons, ← ih seen]
      rfl
    · rw [List.length_cons, List.length_cons, ← ih (key a :: seen), Nat.add_right_comm]

namespace CallGraph

def version (g : CallGraph) : String :=
  g.document.version

def values (g : CallGraph) : List Value :=
  g.document.values

def calls (g : CallGraph) : List Call :=
  g.document.calls

/-- The values that lookups by id can find. -/
def valuesById (g : CallGraph) : List Value :=
  distinctBy Value.id [] g.values

def callsById (g : CallGraph) : List Call :=
  distinctBy Call.id [] g.calls

def getValue (g : CallGraph) (id : String) : Option Value :=
  g.values.find? fun v => v.id = id

def getCall (g : CallGraph) (id : String) : Option Call :=
  g.calls.find? fun c => c.id = id

def hasValue (g : CallGraph) (id : String) : Bool :=
  (g.getValue id).isSome

def hasCall (g : CallGraph) (id : String) : Bool :=
  (g.getCall id).isSome

/-- The value that a call produces: the one it names, or else the value with the id of the call,
unless that value names another call as its source. -/
def resultOf (g : CallGraph) (c : Call) : Option Value :=
  match c.resultValueId with
  | some id => g.getValue id
  | none =>
    (g.getValue c.id).filter fun v => v.sourceCallId = none || v.sourceCallId = some c.id

def sourceCallOf (g : CallGraph) (v : Value) : Option Call :=
  v.sourceCallId.bind g.getCall

def describe (g : CallGraph) : String :=
  s!"CallGraphStore(source={Text.quoted g.source}, version={Text.quoted g.version}, " ++
    s!"values={g.values.length}, calls={g.calls.length})"

def logger : String :=
  "callcontract.graph.store"

def duplicateEvent (source kind : String) (count : Nat) : List Event :=
  if count = 0 then []
  else
    [⟨logger, .warning, "duplicate_ids",
      [("source", .text source), ("kind", .text kind), ("count", .nat count)]⟩]

def duplicateEvents (g : CallGraph) : List Event :=
  duplicateEvent g.source "value" (countRepeats Value.id [] g.values) ++
    duplicateEvent g.source "call" (countRepeats Call.id [] g.calls)

def decode (source : String) : Datum → Except Fault CallGraph
  | .map es =>
    match GraphDocument.ofEntries es with
    | .valid document => .ok ⟨document, source⟩
    | .invalid issues => .error (.failure (Documents.mismatch source issues))
    | .aborted cause => .error (.aborted cause)
  | _ => .error (.failure (.schemaMismatch source "<root>" "document must be a JSON object"))

def ofDatum (source : String) (d : Datum) : Logged CallGraph :=
  (Logged.ofExcept (decode source d)).tell duplicateEvents

def loadedEvent (path : Path) (g : CallGraph) : Event :=
  ⟨logger, .info, "call_graph_loaded",
    [("path", .text (toString path)), ("version", .text g.version),
      ("values", .nat g.values.length), ("calls", .nat g.calls.length)]⟩

def load (files : FileTree) (path : Path) : Logged CallGraph :=
  (Logged.ofExcept (Documents.readJson files path "calls.json")).bind fun d =>
    (ofDatum (toString path) d).tell fun g => [loadedEvent path g]

theorem getValue_mem {g : CallGraph} {id : String} {v : Value} (h : g.getValue id = some v) :
    v ∈ g.values ∧ v.id = id :=
  ⟨List.mem_of_find?_eq_some h, by simpa using List.find?_some h⟩

theorem getCall_mem {g : CallGraph} {id : String} {c : Call} (h : g.getCall id = some c) :
    c ∈ g.calls ∧ c.id = id :=
  ⟨List.mem_of_find?_eq_some h, by simpa using List.find?_some h⟩

theorem hasValue_eq_true {g : CallGraph} {id : String} :
    g.hasValue id = true ↔ ∃ v ∈ g.values, v.id = id := by
  simp [hasValue, getValue, List.find?_isSome]

theorem hasCall_eq_true {g : CallGraph} {id : String} :
    g.hasCall id = true ↔ ∃ c ∈ g.calls, c.id = id := by
  simp [hasCall, getCall, List.find?_isSome]

end CallGraph

end GraphContracts
