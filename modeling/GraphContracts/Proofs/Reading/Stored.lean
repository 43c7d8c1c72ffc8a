import GraphContracts.Proofs.FirstSeen
import GraphContracts.Proofs.Reading.Calls

namespace GraphContracts

/-- How entries can be looked up by their keys: `index` has the first entry for each key, in the
order in which the keys are first seen. -/
structure Indexes {α : Type} (key : α → String) (entries index : List α)
    (get : String → Option α) (has : String → Bool) : Prop where
  first : ∀ k a, get k = some a ↔ FirstWith key k entries a
  absent : ∀ k, get k = none ↔ ∀ a ∈ entries, key a ≠ k
  unknown : ∀ k, has k = false ↔ get k = none
  keys : FirstSeen (entries.map key) (index.map key)
  looked : ∀ k, index.find? (fun a ↦ key a = k) = get k

theorem indexes_distinctBy {α : Type} (key : α → String) (entries : List α) :
    Indexes key entries (distinctBy key [] entries) (fun k ↦ entries.find? fun a ↦ key a = k)
      fun k ↦ (entries.find? fun a ↦ key a = k).isSome where
  first k a := find?_eq_some_iff_firstWith
  absent k := by simp
  unknown k := by simp
  keys := firstSeen_distinctBy key entries
  looked k := find?_distinctBy List.not_mem_nil

namespace CallGraph

variable {g : CallGraph} {source : String} {d : Datum}

/-- What is warned of where ids of a kind are repeated. -/
def repeatsEvent (source kind : String) (count : Nat) : Event :=
  ⟨logger, .warning, "duplicate_ids",
    [("source", .text source), ("kind", .text kind), ("count", .nat count)]⟩

theorem duplicateEvent_eq (source kind : String) (count : Nat) :
    duplicateEvent source kind count =
      if 0 < count then [repeatsEvent source kind count] else [] := by
  cases count <;> rfl

theorem events_of_ofDatum (h : (ofDatum source d).result = .ok g) :
    (ofDatum source d).events = g.duplicateEvents := by
  rw [ofDatum_result] at h
  rw [ofDatum, h]
  rfl

theorem source_of_ofDatum (h : (ofDatum source d).result = .ok g) : g.source = source := by
  rw [ofDatum_result] at h
  cases d with
  | map es =>
    cases hread : GraphDocument.ofEntries es with
    | valid document =>
      obtain rfl : ⟨document, source⟩ = g := by simpa [decode, hread] using h
      rfl
    | invalid issues => simp [decode, hread] at h
    | aborted cause => simp [decode, hread] at h
  | _ => cases h

theorem resultOf_eq_some_iff {c : Call} {v : Value} : g.resultOf c = some v ↔
    (∃ id, c.resultValueId = some id ∧ FirstWith Value.id id g.values v) ∨
    (c.resultValueId = none ∧ FirstWith Value.id c.id g.values v ∧
      (v.sourceCallId = none ∨ v.sourceCallId = some c.id)) := by
  simp only [← find?_eq_some_iff_firstWith]
  unfold resultOf getValue
  cases c.resultValueId <;> simp [Option.filter_eq_some_iff]

/-- What is kept of any document that is read. Every entry stays, in order. A look-up finds the
first entry with an id, by the index as well as by the entries; the entries beyond those of the
index are counted in a warning for each kind that repeats an id; and the result of a call is the
value that it names, or else the first value with its own id where that does not name another call.
-/
theorem stored_of_ofDatum (h : (ofDatum source d).result = .ok g) :
    List.Forall₂ (fun entry v ↦ Value.ofDatum entry = .valid v) (d.itemsAt ["values"]) g.values ∧
    List.Forall₂ (fun entry c ↦ Call.ofDatum entry = .valid c) (d.itemsAt ["calls"]) g.calls ∧
    Indexes Value.id g.values g.valuesById g.getValue g.hasValue ∧
    Indexes Call.id g.calls g.callsById g.getCall g.hasCall ∧
    (∃ repeatedValues repeatedCalls : Nat,
      g.values.length = g.valuesById.length + repeatedValues ∧
      g.calls.length = g.callsById.length + repeatedCalls ∧
      (ofDatum source d).events =
        (if 0 < repeatedValues then [repeatsEvent source "value" repeatedValues] else []) ++
        if 0 < repeatedCalls then [repeatsEvent source "call" repeatedCalls] else []) ∧
    ∀ c v, g.resultOf c = some v ↔
      (∃ id, c.resultValueId = some id ∧ FirstWith Value.id id g.values v) ∨
      (c.resultValueId = none ∧ FirstWith Value.id c.id g.values v ∧
        (v.sourceCallId = none ∨ v.sourceCallId = some c.id)) := by
  obtain ⟨hvalues, hcalls⟩ := nodes_of_decode ((ofDatum_result source d).symm.trans h)
  refine ⟨hvalues, hcalls, indexes_distinctBy Value.id g.values, indexes_distinctBy Call.id g.calls,
    ⟨countRepeats Value.id [] g.values, countRepeats Call.id [] g.calls, ?_, ?_, ?_⟩,
    fun c v ↦ resultOf_eq_some_iff⟩
  · exact (length_distinctBy_add_countRepeats _ _ _).symm
  · exact (length_distinctBy_add_countRepeats _ _ _).symm
  · rw [events_of_ofDatum h, duplicateEvents, source_of_ofDatum h, duplicateEvent_eq,
      duplicateEvent_eq]

end CallGraph

namespace RepeatedIds

def valueEntry (id kind : String) : Datum :=
  .object [("id", .text id), ("kind", .text kind)]

def callEntry (more : List (String × Datum)) : Datum :=
  .object ([("id", .text "s"), ("kind", .text "function"),
    ("caller", .text "App/Service#run().")] ++ more)

def document : Datum :=
  .object [
    ("values", .list [valueEntry "s" "result", valueEntry "t" "local", valueEntry "s" "local",
      valueEntry "t" "local"]),
    ("calls", .list [callEntry [], callEntry [("result_value_id", .text "t")]])]

def value (id : String) (kind : ValueKind) : Value :=
  ⟨id, kind, some "value", none, none, none, none, none, none, none⟩

def call (result : Option String) : Call :=
  ⟨"s", .function, some .invocation, "App/Service#run().", none, none, none, result, none, []⟩

def graph : CallGraph :=
  ⟨⟨"0.0", [value "s" .result, value "t" .localVariable, value "s" .localVariable,
    value "t" .localVariable], [call none, call (some "t")]⟩, "<memory>"⟩

theorem stored_of_document : (CallGraph.ofDatum "<memory>" document).result = .ok graph ∧
    FirstWith Value.id "s" graph.values (value "s" .result) ∧
    graph.resultOf (call none) = some (value "s" .result) ∧
    FirstSeen ["s", "t", "s", "t"] (graph.valuesById.map Value.id) ∧
    (CallGraph.ofDatum "<memory>" document).events =
      [CallGraph.repeatsEvent "<memory>" "value" 2,
        CallGraph.repeatsEvent "<memory>" "call" 1] := by
  have hread : (CallGraph.ofDatum "<memory>" document).result = .ok graph := rfl
  obtain ⟨-, -, hvalues, -, ⟨m, n, hm, hn, hevents⟩, hresult⟩ := CallGraph.stored_of_ofDatum hread
  have hfirst : FirstWith Value.id "s" graph.values (value "s" .result) :=
    (hvalues.first _ _).1 rfl
  obtain rfl : m = 2 := by
    have hlengths : graph.values.length = 4 ∧ graph.valuesById.length = 2 := by decide
    omega
  obtain rfl : n = 1 := by
    have hlengths : graph.calls.length = 2 ∧ graph.callsById.length = 1 := by decide
    omega
  exact ⟨hread, hfirst, (hresult _ _).2 (.inr ⟨rfl, hfirst, .inl rfl⟩), hvalues.keys, hevents⟩

end RepeatedIds

end GraphContracts
