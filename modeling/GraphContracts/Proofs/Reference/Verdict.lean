import GraphContracts.Proofs.Reference.Declarations

namespace GraphContracts

namespace ReferenceContract

variable {a : ReferenceContract} {s : MethodScope} {name : String} {v : Value} {c : Call}
  {ds : List (Option Int × Value)} {subject : Subject} {ids : List String}
  {r : ReferenceVerification}

theorem mem_declarations (h : a.declarations s name = .ok ds) :
    v ∈ ds.map Prod.snd ↔ v ∈ a.graph.values ∧ isDeclaration s a.variableKind name v = true ∧
      a.admits v = true := by
  rw [(perm_declarations h).1.mem_iff, List.mem_filter, List.mem_filter, and_assoc]

theorem countP_declarations {p : Value → Prop} [DecidablePred p]
    (h : a.declarations s name = .ok ds)
    (hp : ∀ v ∈ a.graph.values, p v →
      isDeclaration s a.variableKind name v = true ∧ a.admits v = true) :
    ds.countP (fun d ↦ p d.2) = a.graph.values.countP fun v ↦ p v := by
  have hcount := (perm_declarations h).1.countP_eq fun v ↦ p v
  rw [List.countP_map, List.countP_filter, List.countP_filter] at hcount
  refine hcount.trans (List.countP_congr fun v hmem ↦ ?_)
  simp only [Bool.and_eq_true, decide_eq_true_eq]
  exact ⟨fun hv ↦ hv.1.1, fun hv ↦ ⟨⟨hv, (hp v hmem hv).2⟩, (hp v hmem hv).1⟩⟩

theorem declarations_of_filter_eq_singleton {line : Option Int} (hline : a.line = none)
    (hv : a.graph.values.filter (isDeclaration s a.variableKind name) = [v])
    (hread : v.declarationLine = .ok line) : a.declarations s name = .ok [(line, v)] := by
  simp [declarations, hv, withLines, hread, Except.map, hline]

theorem verify_eq_verifyIn {className methodName : String}
    (hclass : a.className = some (Symbol.bareClass className))
    (hmethod : a.methodName = some methodName) (hname : a.variableName = some name) :
    a.verify = a.verifyIn (.ofNames a.graph className methodName) name := by
  simp [verify, hclass, hmethod, hname, MethodScope.ofNames]

theorem exists_violated_of_verifyIn {fault : ReferenceFault}
    (hread : a.declarations s name = .ok ds) (h : a.verifyIn s name = .error fault) :
    ∃ violation, fault = .violated violation := by
  cases ds with
  | nil =>
    simp only [verifyIn, hread, Except.mapError, bind, Except.bind, Except.error.injEq] at h
    exact ⟨_, h.symm⟩
  | cons d ds =>
    rw [verifyIn_of_declarations hread] at h
    split at h
    · exact ⟨_, (Except.error.inj h).symm⟩
    · split at h
      · exact ⟨_, (Except.error.inj h).symm⟩
      · cases h

theorem verifyIn_eq_longLine_iff {l : Symbol.LongLine} :
    a.verifyIn s name = .error (.longLine l) ↔ a.declarations s name = .error l := by
  cases hread : a.declarations s name with
  | error l' => simp [verifyIn, hread, Except.mapError, bind, Except.bind]
  | ok ds =>
    refine iff_of_false (fun h ↦ ?_) (by simp)
    obtain ⟨violation, hviolated⟩ := exists_violated_of_verifyIn hread h
    cases hviolated

theorem verifyIn_of_checkSingle {violation : ReferenceViolation}
    (h : a.declarations s name = .ok ds) (hne : ds ≠ [])
    (hsingle : a.checkSingle ⟨a.variableKind, name, s.label⟩ ds = .error violation) :
    a.verifyIn s name = .error (.violated violation) := by
  obtain ⟨d, ds, rfl⟩ := List.exists_cons_of_ne_nil hne
  rw [verifyIn_of_declarations h, hsingle]

theorem exists_declarations_of_verifyIn (h : a.verifyIn s name = .ok r) :
    ∃ d rest, a.declarations s name = .ok (d :: rest) ∧
      a.checkSingle ⟨a.variableKind, name, s.label⟩ (d :: rest) = .ok () ∧
      (∀ c ∈ s.calls.all, misuse? s ⟨a.variableKind, name, s.label⟩
        ((d :: rest).map fun e ↦ e.2.id) c = none) ∧
      r.valueId = d.2.id ∧ r.valueCount = (d :: rest).length ∧
      r.referenceCount = countReferences ((d :: rest).map fun e ↦ e.2.id) s.calls.all := by
  cases hread : a.declarations s name with
  | error l => simp [verifyIn_eq_longLine_iff.2 hread] at h
  | ok ds =>
    cases ds with
    | nil => simp [verifyIn, hread, Except.mapError, bind, Except.bind] at h
    | cons d ds =>
      rw [verifyIn_of_declarations hread] at h
      split at h
      · cases h
      · rename_i hsingle
        split at h
        · cases h
        · rename_i hnone
          obtain rfl := Except.ok.inj h
          exact ⟨d, ds, rfl, hsingle, List.findSome?_eq_none_iff.1 hnone, rfl, rfl, rfl⟩

/-- A contract is met where its declarations are single and no call misuses the variable. -/
theorem exists_verifyIn_eq_ok_iff : (∃ r, a.verifyIn s name = .ok r) ↔
    ∃ ds, a.declarations s name = .ok ds ∧ ds ≠ [] ∧
      a.checkSingle ⟨a.variableKind, name, s.label⟩ ds = .ok () ∧
      ∀ c ∈ s.calls.all,
        misuse? s ⟨a.variableKind, name, s.label⟩ (ds.map fun d ↦ d.2.id) c = none := by
  constructor
  · rintro ⟨r, h⟩
    obtain ⟨d, rest, hread, hsingle, hmisuse, -⟩ := exists_declarations_of_verifyIn h
    exact ⟨_, hread, List.cons_ne_nil _ _, hsingle, hmisuse⟩
  · rintro ⟨ds, hread, hne, hsingle, hmisuse⟩
    obtain ⟨d, rest, rfl⟩ := List.exists_cons_of_ne_nil hne
    rw [verifyIn_of_declarations hread, hsingle, List.findSome?_eq_none_iff.2 hmisuse]
    exact ⟨_, rfl⟩

theorem foreignSlot?_eq_none_iff : foreignSlot? s subject ids c = none ↔
    ∀ slot id, (slot, id) ∈ c.slots → id ∉ ids → ∀ v, s.graph.getValue id = some v →
      isForeign s subject v = false := by
  simp only [foreignSlot?, List.findSome?_eq_none_iff, List.mem_filter, Option.map_eq_none_iff,
    Option.filter_eq_none_iff]
  constructor
  · intro h slot id hslot hid v hv
    exact Bool.eq_false_iff.2 (h (slot, id) ⟨hslot, by simpa using hid⟩ v hv)
  · intro h ⟨slot, id⟩ ⟨hslot, hid⟩ v hv
    exact Bool.eq_false_iff.1 (h slot id hslot (by simpa using hid) v hv)

theorem unboundArgument?_eq_none_iff : unboundArgument? subject c = none ↔
    ∀ argument ∈ c.arguments, argument.valueId = none →
      argument.valueExpr ≠ some subject.name := by
  simp [unboundArgument?, List.find?_eq_none]

theorem misuse?_eq_none_iff : misuse? s subject ids c = none ↔
    foreignSlot? s subject ids c = none ∧ unboundArgument? subject c = none := by
  unfold misuse?
  cases foreignSlot? s subject ids c <;> cases unboundArgument? subject c <;> simp

/-- No slot of a call that is not misused holds a variable of the same name in another method. -/
theorem isForeign_eq_false_of_misuse? (h : misuse? s subject ids c = none) {slot : Slot}
    {id : String} (hslot : (slot, id) ∈ c.slots) (hid : id ∉ ids)
    (hv : s.graph.getValue id = some v) : isForeign s subject v = false :=
  foreignSlot?_eq_none_iff.1 (misuse?_eq_none_iff.1 h).1 slot id hslot hid v hv

end ReferenceContract

theorem Call.mem_slots_of_argument {c : Call} {argument : Argument} {id : String}
    (h : argument ∈ c.arguments) (hid : argument.valueId = some id) :
    (Slot.argument argument.position, id) ∈ c.slots := by
  refine List.mem_append_right _ (List.mem_filterMap.2 ⟨argument, h, ?_⟩)
  rw [hid, Option.map_some]

end GraphContracts
