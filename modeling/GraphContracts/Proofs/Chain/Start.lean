import GraphContracts.Proofs.Chain.Forward
import GraphContracts.Proofs.Scope

namespace GraphContracts

namespace MethodScope

structure Accesses (s : MethodScope) (c : Call) : Prop where
  mem : c ∈ s.calls.all
  kind : c.kind = .access
  receiver : c.receiverValueId ≠ none

/-- An access with no other before it in the document. -/
def AccessesFirst (s : MethodScope) (c : Call) : Prop :=
  s.Accesses c ∧ ∃ before after, s.graph.calls = before ++ c :: after ∧ ∀ d ∈ before, ¬s.Accesses d

/-- A parameter or a local of the method has this name. -/
structure HasVariable (s : MethodScope) (name : String) (v : Value) : Prop where
  mem : v ∈ s.values.all
  kind : v.kind = .parameter ∨ v.kind = .localVariable
  name : v.name = some (Symbol.normalizeVariable name)

variable {s : MethodScope} {name : String} {v : Value} {c : Call}

theorem access_accepts_iff (hc : c ∈ s.graph.calls) :
    ((s.calls.kind CallKind.access.name).hasReceiver).accepts c = true ↔ s.Accesses c := by
  simp only [calls, CallGraph.callQuery, NodeQuery.callerInScope, NodeQuery.kind,
    NodeQuery.hasReceiver, NodeQuery.accepts_filtered, Bool.and_eq_true, decide_eq_true_eq,
    Option.isSome_iff_ne_none]
  constructor
  · rintro ⟨⟨⟨-, hcaller⟩, hkind⟩, hreceiver⟩
    exact ⟨mem_calls.2 ⟨hc, hcaller⟩, CallKind.name_injective hkind, hreceiver⟩
  · intro h
    exact ⟨⟨⟨rfl, (mem_calls.1 h.mem).2⟩, congrArg CallKind.name h.kind⟩, h.receiver⟩

theorem startOf_this : s.startOf "$this" = some v ↔ ∃ c id, s.AccessesFirst c ∧
    c.receiverValueId = some id ∧ s.graph.getValue id = some v := by
  have hfirst : ∀ c, ((s.calls.kind CallKind.access.name).hasReceiver).first = some c ↔
      s.AccessesFirst c :=
    fun _ ↦ NodeQuery.first_eq_some_iff_of_accepts fun _ hd ↦ access_accepts_iff hd
  simp only [startOf, if_true, Option.bind_eq_some_iff, hfirst]
  constructor
  · rintro ⟨id, ⟨c, hc, hid⟩, hv⟩
    exact ⟨c, id, hc, hid, hv⟩
  · rintro ⟨c, id, hc, hid, hv⟩
    exact ⟨id, ⟨c, hc, hid⟩, hv⟩

theorem hasVariable_of_first {kind : ValueKind} (hkind : kind = .parameter ∨ kind = .localVariable)
    (h : ((s.values.kind kind.name).named name).first = some v) : s.HasVariable name v := by
  have hmem := NodeQuery.mem_all_of_first h
  simp only [NodeQuery.named, NodeQuery.kind, NodeQuery.all_filtered, List.mem_filter,
    decide_eq_true_eq] at hmem
  obtain ⟨⟨hv, hk⟩, hname⟩ := hmem
  exact ⟨hv, ValueKind.name_injective hk ▸ hkind, hname⟩

theorem hasVariable_of_startOf (hname : name ≠ "$this") (h : s.startOf name = some v) :
    s.HasVariable name v := by
  rw [startOf, if_neg hname] at h
  rcases Option.or_eq_some_iff.1 h with h | ⟨-, h⟩
  · exact hasVariable_of_first (.inl rfl) h
  · exact hasVariable_of_first (.inr rfl) h

end MethodScope

/-- A forward chain from a variable starts at a parameter or local of the method with the name of
the variable. From the object it starts at the receiver of the first access of the method, with a
name of its own or without. -/
theorem root_of_forward_verify {a : ChainContract} {chain : Chain} (hid : a.startValueId = none)
    (h : a.verify = .ok chain) :
    ∃ name, a.startVariable = some name ∧
      (name ≠ "$this" → a.scope.HasVariable name chain.root) ∧
      (name = "$this" → ∃ c id, a.scope.AccessesFirst c ∧ c.receiverValueId = some id ∧
        a.graph.getValue id = some chain.root) := by
  have hwalk := (ChainContract.verify_eq_ok_iff.1 h).1
  obtain ⟨name, hname, -, hchain⟩ := (ChainContract.walk_eq_ok_iff_chainFrom hid).1 hwalk
  obtain ⟨start, path, hstart, -, rfl⟩ := MethodScope.chainFrom_eq_ok_iff.1 hchain
  refine ⟨name, hname, fun hne ↦ MethodScope.hasVariable_of_startOf hne hstart, ?_⟩
  rintro rfl
  exact MethodScope.startOf_this.1 hstart

namespace ParameterFirst

open TwoAccesses (object result)

def order : Value :=
  ⟨"order", .parameter, none, some "App/Service#run().($order)", none, none, none, none, none, none⟩

def read (id property receiver : String) : Call :=
  ⟨id, .access, none, "App/Service#run().", some property, none, some receiver, none, none, []⟩

def readOrder : Call :=
  read "r1" "App/Order#$total." "order"

def readObject : Call :=
  read "r2" "App/Service#$total." "this"

def graph : CallGraph :=
  ⟨⟨"1.0", [order, object, result "r1", result "r2"], [readOrder, readObject]⟩, "<memory>"⟩

def totalOf (name : String) : ChainContract :=
  ((ChainContract.ofGraph graph).startingFrom "App\\Service" "run" name).throughAccess "total"

def chain : Chain :=
  ⟨[.value order, .call readOrder, .value (result "r1")], order, result "r1", 1⟩

theorem roots_of_totalOf :
    ((totalOf "order").startValueId = none ∧ (totalOf "order").verify = .ok chain ∧
      (totalOf "order").scope.HasVariable "order" order) ∧
    ((totalOf "$this").startValueId = none ∧ (totalOf "$this").verify = .ok chain ∧
      ∃ c id, (totalOf "$this").scope.AccessesFirst c ∧ c.receiverValueId = some id ∧
        graph.getValue id = some order) := by
  constructor
  · have h : (totalOf "order").verify = .ok chain := by decide
    obtain ⟨name, hname, hroot, -⟩ := root_of_forward_verify rfl h
    obtain rfl := Option.some.inj hname
    exact ⟨rfl, h, hroot (by decide)⟩
  · have h : (totalOf "$this").verify = .ok chain := by decide
    obtain ⟨name, hname, -, hroot⟩ := root_of_forward_verify rfl h
    exact ⟨rfl, h, hroot (Option.some.inj hname).symm⟩

theorem root_of_this : (totalOf "$this").startValueId = none ∧
    (totalOf "$this").startVariable = some "$this" ∧ (totalOf "$this").verify = .ok chain ∧
    (totalOf "$this").scope.HasVariable "order" chain.root ∧ chain.root.name = some "$order" :=
  ⟨rfl, rfl, by decide, ⟨by decide, .inl rfl, by decide⟩, by decide⟩

end ParameterFirst

end GraphContracts
