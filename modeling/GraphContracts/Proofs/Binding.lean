import GraphContracts.Proofs.Binding.Verdict
import GraphContracts.Proofs.Reference.Verdict

namespace GraphContracts

/-- A call of the method holds the value, as its receiver or in an argument. -/
def MethodScope.Uses (s : MethodScope) (v : Value) : Prop :=
  ∃ c ∈ s.calls.all, ∃ slot id, (slot, id) ∈ c.slots ∧ s.graph.getValue id = some v

namespace BindingContract

variable {a : BindingContract} {s : MethodScope} {v : Value} {position : Int} {expected : ValueKind}

theorem uses_of_verifyIn (hgraph : a.graph = s.graph)
    (h : a.verifyIn s position expected = .ok v) :
    s.Uses v ∧ v.kind = expected ∧ ∀ name, a.expectedName = some name → v.name = some name := by
  obtain ⟨c, hc, ⟨argument, id, hargument, hid, hv⟩, hcheck⟩ := verifyIn_eq_ok_iff.1 h
  obtain ⟨hkind, hname, -⟩ := checkValue_eq_ok_iff.1 hcheck
  have hslot := Call.mem_slots_of_argument (List.mem_of_find?_eq_some hargument) hid
  exact ⟨⟨c, hc.1.mem, _, id, hslot, hgraph ▸ hv⟩, hkind, hname⟩

theorem exists_verifyIn_of_verify {className methodName : String}
    (hclass : a.className = some (Symbol.bareClass className))
    (hmethod : a.methodName = some methodName) (hexpected : a.expectedKind = some expected)
    (h : a.verify = .ok v) :
    ∃ position, a.verifyIn (.ofNames a.graph className methodName) position expected = .ok v := by
  unfold verify at h
  simp only [hclass, hmethod, hexpected] at h
  split at h
  · cases h
  · split at h
    · cases h
    · cases h
    · rename_i position _ hposition hkind
      obtain rfl := Option.some.inj hkind
      refine ⟨position, ?_⟩
      simpa [MethodScope.ofNames] using mapError_eq_ok_iff.1 h

end BindingContract

namespace ReferenceContract

variable {a : ReferenceContract} {s : MethodScope} {name : String} {v : Value}
  {r : ReferenceVerification}

theorem hasSymbol_of_verifyIn (hgraph : a.graph = s.graph)
    (hids : (a.graph.values.map Value.id).Nodup) (h : a.verifyIn s name = .ok r)
    (hv : s.Uses v) (hkind : v.kind = a.variableKind) (hname : v.name = some name) :
    v.symbol = none ∨ s.HasSymbol v := by
  obtain ⟨ds, hds, -, -, hmisuse⟩ := exists_verifyIn_eq_ok_iff.1 ⟨r, h⟩
  obtain ⟨c, hc, slot, id, hslot, hid⟩ := hv
  rw [MethodScope.hasSymbol_iff]
  by_cases hdeclared : id ∈ ds.map fun d ↦ d.2.id
  · obtain ⟨d, hd, rfl⟩ := List.mem_map.1 hdeclared
    obtain ⟨hmem, hdecl, -⟩ := (mem_declarations hds).1 (List.mem_map_of_mem hd)
    have hfound := CallGraph.getValue_eq_of_nodup hids hmem
    rw [hgraph, hid] at hfound
    obtain rfl := Option.some.inj hfound
    simp only [isDeclaration, Bool.and_eq_true] at hdecl
    exact .inr hdecl.1.2
  · have hforeign := isForeign_eq_false_of_misuse? (hmisuse c hc) hslot hdeclared hid
    cases hsymbol : v.symbol with
    | none => exact .inl rfl
    | some symbol => simpa [isForeign, hkind, hname, hsymbol] using hforeign

variable {className methodName : String} {b : BindingContract}

theorem hasSymbol_of_bound (hgraph : b.graph = a.graph)
    (hids : (a.graph.values.map Value.id).Nodup)
    (hname : a.variableName = some name) (hexpected : b.expectedName = some name)
    (hkind : b.expectedKind = some a.variableKind)
    (hr : (a.inMethod className methodName).verify = .ok r)
    (hv : (b.inMethod className methodName).verify = .ok v) :
    v.kind = a.variableKind ∧ v.name = some name ∧
      (v.symbol = none ∨ (MethodScope.ofNames a.graph className methodName).HasSymbol v) := by
  rw [verify_eq_verifyIn (a := a.inMethod className methodName) rfl rfl hname] at hr
  obtain ⟨position, hv⟩ := BindingContract.exists_verifyIn_of_verify
    (a := b.inMethod className methodName) rfl rfl hkind hv
  have hsame : (b.inMethod className methodName).graph = a.graph := hgraph
  obtain ⟨huses, hvkind, hvname⟩ := BindingContract.uses_of_verifyIn rfl hv
  rw [hsame] at huses
  exact ⟨hvkind, hvname name hexpected,
    hasSymbol_of_verifyIn rfl hids hr huses hvkind (hvname name hexpected)⟩

/-- A variable that is used consistently in a method is never bound to a variable of the same name
in another method: whichever call and argument a binding in the method selects, the value that it
finds is declared in the method, or has no symbol at all. -/
theorem hasSymbol_of_verify {g : CallGraph} (hids : (g.values.map Value.id).Nodup)
    (a : ReferenceContract) (b : BindingContract) (ha : a.graph = g) (hb : b.graph = g)
    (className methodName name : String) :
    let s := MethodScope.ofNames g className methodName
    let wanted := Symbol.normalizeVariable name
    (∀ r v, ((a.inMethod className methodName).forLocal name).verify = .ok r →
      ((b.inMethod className methodName).pointsToLocal name).verify = .ok v →
      v.kind = .localVariable ∧ v.name = some wanted ∧ (v.symbol = none ∨ s.HasSymbol v)) ∧
    ∀ r v, ((a.inMethod className methodName).forParameter name).verify = .ok r →
      ((b.inMethod className methodName).pointsToParameter name).verify = .ok v →
      v.kind = .parameter ∧ v.name = some wanted ∧ (v.symbol = none ∨ s.HasSymbol v) := by
  subst ha
  intro s wanted
  constructor
  · intro r v hr hv
    exact hasSymbol_of_bound (a := a.forLocal name) (b := b.pointsToLocal name) hb hids rfl rfl rfl
      hr hv
  · intro r v hr hv
    exact hasSymbol_of_bound (a := a.forParameter name) (b := b.pointsToParameter name) hb hids rfl
      rfl rfl hr hv

end ReferenceContract

namespace PassedOn

open ReferenceContract

def value (id symbol : String) (kind : ValueKind) : Value :=
  ⟨id, kind, none, some symbol, none, none, none, none, none, none⟩

def order : Value :=
  value "p" "App/Service#run().($order)" .parameter

def item : Value :=
  value "l" "App/Service#run().local$item@9" .localVariable

def foreign : Value :=
  value "f" "App/Service#stop().local$item@4" .localVariable

def argument (position : Int) (id : String) : Argument :=
  ⟨position, none, some id, none⟩

def save : Call :=
  ⟨"c", .method, none, "App/Service#run().", some "App/Orders#save().", none, none, none, none,
    [argument 0 "p", argument 1 "l"]⟩

def graph : CallGraph :=
  ⟨⟨"1.0", [foreign, order, item], [save]⟩, "<memory>"⟩

def contract : ReferenceContract :=
  (ofGraph graph).inMethod "App\\Service" "run"

def run : MethodScope :=
  .ofNames graph "App\\Service" "run"

def binding (position : Int) : BindingContract :=
  ((BindingContract.ofGraph graph).atCall "save").position position

theorem exists_verify_forLocal : ∃ r, (contract.forLocal "item").verify = .ok r := by
  have hitem : (contract.forLocal "item").declarations run "$item" = .ok [(some 9, item)] :=
    declarations_of_filter_eq_singleton rfl (by decide) (by decide)
  exact exists_verifyIn_eq_ok_iff.2 ⟨_, hitem, by decide, by decide, by decide⟩

theorem exists_verify_forParameter : ∃ r, (contract.forParameter "order").verify = .ok r := by
  have horder : (contract.forParameter "order").declarations run "$order" = .ok [(none, order)] :=
    declarations_of_filter_eq_singleton rfl (by decide) (by decide)
  exact exists_verifyIn_eq_ok_iff.2 ⟨_, horder, by decide, by decide, by decide⟩

theorem hasSymbol_of_bindings :
    (((binding 1).inMethod "App\\Service" "run").pointsToLocal "item").verify = .ok item ∧
      (item.symbol = none ∨ run.HasSymbol item) ∧
    (((binding 0).inMethod "App\\Service" "run").pointsToParameter "order").verify = .ok order ∧
      (order.symbol = none ∨ run.HasSymbol order) := by
  have hids : (graph.values.map Value.id).Nodup := by decide
  have hitem : (((binding 1).inMethod "App\\Service" "run").pointsToLocal "item").verify =
      .ok item := by decide
  have horder : (((binding 0).inMethod "App\\Service" "run").pointsToParameter "order").verify =
      .ok order := by decide
  obtain ⟨r, hr⟩ := exists_verify_forLocal
  obtain ⟨r', hr'⟩ := exists_verify_forParameter
  obtain ⟨hlocal, -⟩ :=
    hasSymbol_of_verify hids (ofGraph graph) (binding 1) rfl rfl "App\\Service" "run" "item"
  obtain ⟨-, hparameter⟩ :=
    hasSymbol_of_verify hids (ofGraph graph) (binding 0) rfl rfl "App\\Service" "run" "order"
  exact ⟨hitem, (hlocal r item hr hitem).2.2, horder, (hparameter r' order hr' horder).2.2⟩

end PassedOn

end GraphContracts
