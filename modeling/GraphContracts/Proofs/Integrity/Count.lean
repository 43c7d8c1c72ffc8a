import GraphContracts.Proofs.Integrity.Offence

namespace GraphContracts

section Scan

variable {α β : Type} {p : α → Prop} [DecidablePred p]

theorem length_filterMap_eq {found : α → Option β} (h : ∀ a, (found a).isSome = true ↔ p a)
    (l : List α) : (l.filterMap found).length = l.countP fun a ↦ p a := by
  rw [List.length_filterMap_eq_countP]
  refine List.countP_congr fun a _ ↦ ?_
  rw [h, decide_eq_true_iff]

theorem length_filter_eq {test : α → Bool} (h : ∀ a, test a = true ↔ p a) (l : List α) :
    (l.filter test).length = l.countP fun a ↦ p a := by
  rw [← List.countP_eq_length_filter]
  refine List.countP_congr fun a _ ↦ ?_
  rw [h, decide_eq_true_iff]

theorem length_flatMap_eq {γ : Type} {parts : γ → List α} {found : γ → List β}
    (h : ∀ c, (found c).length = (parts c).countP fun a ↦ p a) (cs : List γ) :
    (cs.flatMap found).length = (cs.flatMap parts).countP fun a ↦ p a := by
  rw [List.length_flatMap, List.countP_flatMap]
  exact congrArg List.sum (List.map_congr_left fun c _ ↦ h c)

end Scan

theorem Argument.isWellFormed_iff {a : Argument} : a.isWellFormed = true ↔ a.HasOneForm := by
  have hexpr : (nonEmpty a.valueExpr).isSome = true ↔
      ∃ text, a.valueExpr = some text ∧ text ≠ "" := by
    simp only [Option.isSome_iff_exists, nonEmpty_eq_some]
  have hvalue : a.valueId.isSome = true ↔ a.valueId ≠ none := Option.isSome_iff_ne_none
  rw [isWellFormed, HasOneForm, ← hexpr, ← hvalue]
  cases a.valueId.isSome <;> cases (nonEmpty a.valueExpr).isSome <;> simp [Xor]

namespace CallGraph

variable {g : CallGraph}

theorem isSome_missing?_hasValue {link : Option String} :
    (missing? g.hasValue link).isSome = true ↔ ¬g.LeadsToValue link := by
  cases link with
  | none => simp [missing?, LeadsToValue]
  | some id => simp [missing?, LeadsToValue, exists_mem_valuesById]

theorem isSome_missing?_hasCall {link : Option String} :
    (missing? g.hasCall link).isSome = true ↔ ¬g.LeadsToCall link := by
  cases link with
  | none => simp [missing?, LeadsToCall]
  | some id => simp [missing?, LeadsToCall, exists_mem_callsById]

theorem isSome_typeMismatch? {c : Call} :
    (g.typeMismatch? c).isSome = true ↔ ¬g.TypesAgree c := by
  unfold typeMismatch? TypesAgree
  cases c.returnType with
  | none => simp
  | some expected =>
    cases g.resultOf c with
    | none => simp
    | some v =>
      cases ht : v.type with
      | none => simp [ht]
      | some found => simp [ht, Option.isSome_filter, ne_comm]

theorem countP_scopedValues {kind : ValueKind} {p : (String × String) × Value → Prop}
    {q : Value → Prop} [DecidablePred p] [DecidablePred q]
    (h : ∀ v, q v ↔ v.kind = kind ∧
      ∃ scope name, v.scope = some scope ∧ v.name = some name ∧ p ((scope, name), v)) :
    (g.scopedValues kind).countP (fun e ↦ p e) = g.values.countP fun v ↦ q v := by
  rw [scopedValues, List.countP_filterMap, List.countP_filter]
  refine List.countP_congr fun v _ ↦ ?_
  rw [decide_eq_true_iff, h]
  cases v.scope <;> cases v.name <;> simp [and_comm]

theorem keyedByLine_eq_error_iff (entries : List ((String × String) × Value)) :
    (∃ l, keyedByLine entries = .error l) ↔
      ∃ e ∈ entries, ∃ l, e.2.declarationLine = .error l := by
  induction entries with
  | nil => simp [keyedByLine]
  | cons e entries ih =>
    obtain ⟨⟨scope, name⟩, v⟩ := e
    rw [keyedByLine, List.exists_mem_cons_iff, ← ih]
    cases v.declarationLine with
    | error l => simp
    | ok line => cases keyedByLine entries <;> simp [Except.map]

theorem countP_of_keyedByLine {entries : List ((String × String) × Value)}
    {keyed : List ((String × String × Option Int) × String)} (h : keyedByLine entries = .ok keyed)
    (scope name : String) (line : Option Int) :
    keyed.countP (fun e ↦ e.1 = (scope, name, line)) =
      entries.countP fun e ↦ e.1 = (scope, name) ∧ e.2.declarationLine = .ok line := by
  induction entries generalizing keyed with
  | nil =>
    obtain rfl := Except.ok.inj h
    rfl
  | cons e entries ih =>
    obtain ⟨⟨scope', name'⟩, v⟩ := e
    rw [keyedByLine] at h
    cases hline : v.declarationLine with
    | error l => simp [hline] at h
    | ok line' =>
      cases hrest : keyedByLine entries with
      | error l => simp [hline, hrest, Except.map] at h
      | ok rest =>
        simp only [hline, hrest, Except.map, Except.ok.injEq] at h
        subst h
        rw [List.countP_cons, List.countP_cons, ih hrest]
        simp [hline, and_assoc]

theorem ReadableLines.exists_declarationLine (hg : g.ReadableLines) {v : Value}
    (hv : v ∈ g.values) : ∃ line, v.declarationLine = .ok line := by
  have hdigits := hg v hv
  unfold Value.lineDigits? at hdigits
  unfold Value.declarationLine Symbol.declarationLine
  cases hd : (v.symbol.bind Symbol.shape?).bind Symbol.Shape.lineDigits? with
  | none => exact ⟨_, rfl⟩
  | some digits =>
    have hlen := hdigits digits hd
    simp only [if_neg (Nat.not_lt.2 hlen)]
    exact ⟨_, rfl⟩

theorem mem_values_of_mem_scopedValues {kind : ValueKind} {e : (String × String) × Value}
    (h : e ∈ g.scopedValues kind) : e.2 ∈ g.values := by
  obtain ⟨v, hv, he⟩ := List.mem_filterMap.1 h
  cases hs : v.scope with
  | none => simp [hs] at he
  | some scope =>
    cases hn : v.name with
    | none => simp [hs, hn] at he
    | some name =>
      simp only [hs, hn, Option.some.injEq] at he
      rw [← he]
      exact (List.mem_filter.1 hv).1

theorem findLocalDuplicates_eq_error_iff : (∃ l, g.findLocalDuplicates = .error l) ↔
    ∃ e ∈ g.scopedValues .localVariable, ∃ l, e.2.declarationLine = .error l := by
  rw [← keyedByLine_eq_error_iff, findLocalDuplicates]
  cases keyedByLine (g.scopedValues .localVariable) <;> simp [Except.map]

/-- How many locals of a scope, a name and a line the scan puts into one group. -/
theorem countP_keyedLocals {keyed : List ((String × String × Option Int) × String)}
    (h : keyedByLine (g.scopedValues .localVariable) = .ok keyed) (scope name : String)
    (line : Option Int) [DecidablePred (Value.IsLocal · scope name line)] :
    keyed.countP (fun e ↦ e.1 = (scope, name, line)) =
      g.values.countP (Value.IsLocal · scope name line) := by
  rw [countP_of_keyedByLine h]
  refine countP_scopedValues fun v ↦ ?_
  simp [Value.IsLocal]

theorem countP_keyedParameters (scope name : String)
    [DecidablePred (Value.IsParameter · scope name)] :
    ((g.scopedValues .parameter).map fun (key, v) ↦ (key, v.id)).countP
      (fun e ↦ e.1 = (scope, name)) = g.values.countP (Value.IsParameter · scope name) := by
  rw [List.countP_map]
  refine countP_scopedValues (p := fun e ↦ e.1 = (scope, name)) fun v ↦ ?_
  simp [Value.IsParameter]

theorem length_findParameterDuplicates :
    (g.findParameterDuplicates.length : ℕ∞) = g.offences .parameterDuplicates := by
  classical
  rw [findParameterDuplicates, List.length_map]
  exact length_repeatedKeys_eq_twice fun ⟨scope, name⟩ ↦ countP_keyedParameters scope name

theorem length_findLocalDuplicates {found : List Finding} (h : g.findLocalDuplicates = .ok found) :
    (found.length : ℕ∞) = g.offences .localDuplicates := by
  classical
  rw [findLocalDuplicates] at h
  cases hkeyed : keyedByLine (g.scopedValues .localVariable) with
  | error l => simp [hkeyed, Except.map] at h
  | ok keyed =>
    rw [hkeyed] at h
    obtain rfl := Except.ok.inj h
    rw [List.length_map]
    exact length_repeatedKeys_eq_twice fun ⟨scope, name, line⟩ ↦
      countP_keyedLocals hkeyed scope name line

open scoped Classical in
/-- What a check finds, where it comes to its end, are the offences of its kind. -/
theorem length_of_find {check : Check} {found : List Finding} (h : check.find g = .ok found) :
    (found.length : ℕ∞) = g.offences check := by
  cases check with
  | parameterDuplicates =>
    obtain rfl := Except.ok.inj h
    exact length_findParameterDuplicates
  | localDuplicates => exact length_findLocalDuplicates h
  | receivers =>
    obtain rfl := Except.ok.inj h
    refine congrArg Nat.cast (length_filterMap_eq (fun c ↦ ?_) _)
    rw [Option.isSome_map, isSome_missing?_hasValue]
  | argumentValues =>
    obtain rfl := Except.ok.inj h
    refine congrArg Nat.cast (length_flatMap_eq (fun c ↦ ?_) _)
    refine length_filterMap_eq (fun a ↦ ?_) _
    rw [Option.isSome_map, isSome_missing?_hasValue]
  | sourceCalls =>
    obtain rfl := Except.ok.inj h
    refine congrArg Nat.cast (length_filterMap_eq (fun v ↦ ?_) _)
    rw [Option.isSome_map, isSome_missing?_hasCall]
  | sourceValues =>
    obtain rfl := Except.ok.inj h
    refine congrArg Nat.cast (length_filterMap_eq (fun v ↦ ?_) _)
    rw [Option.isSome_map, isSome_missing?_hasValue]
  | results =>
    obtain rfl := Except.ok.inj h
    refine congrArg Nat.cast ((List.length_map _).trans (length_filter_eq (fun c ↦ ?_) _))
    rw [Option.isNone_iff_eq_none, Option.eq_none_iff_forall_ne_some, not_exists]
  | resultTypes =>
    obtain rfl := Except.ok.inj h
    refine congrArg Nat.cast (length_filterMap_eq (fun c ↦ ?_) _)
    rw [Option.isSome_map, isSome_typeMismatch?]
  | argumentForms =>
    obtain rfl := Except.ok.inj h
    refine congrArg Nat.cast (length_flatMap_eq (fun c ↦ ?_) _)
    refine (List.length_map _).trans (length_filter_eq (fun a ↦ ?_) _)
    rw [Bool.not_eq_true', ← Bool.not_eq_true, Argument.isWellFormed_iff]

theorem find_eq_error_iff {check : Check} : (∃ l, check.find g = .error l) ↔
    check = .localDuplicates ∧
      ∃ e ∈ g.scopedValues .localVariable, ∃ l, e.2.declarationLine = .error l := by
  rw [← findLocalDuplicates_eq_error_iff]
  cases check <;> simp [Check.find]

theorem exists_find_eq_ok (check : Check) (hg : check = .localDuplicates → g.ReadableLines) :
    ∃ found, check.find g = .ok found ∧ (found.length : ℕ∞) = g.offences check := by
  cases h : check.find g with
  | ok found => exact ⟨found, rfl, length_of_find h⟩
  | error l =>
    obtain ⟨hcheck, e, he, l, hl⟩ := find_eq_error_iff.1 ⟨l, h⟩
    obtain ⟨line, hline⟩ := (hg hcheck).exists_declarationLine (mem_values_of_mem_scopedValues he)
    cases hline.symm.trans hl

end CallGraph

end GraphContracts
