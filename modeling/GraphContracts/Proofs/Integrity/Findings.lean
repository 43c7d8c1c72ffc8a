import GraphContracts.Proofs.FirstSeen
import GraphContracts.Proofs.Integrity.Views

namespace GraphContracts

section Pointwise

variable {α β γ : Type} {holds : β → γ → Prop}

theorem forall₂_filterMap {f : α → Option β} {f' : α → Option γ}
    (h : ∀ a, Option.Rel holds (f a) (f' a)) (as : List α) :
    List.Forall₂ holds (as.filterMap f) (as.filterMap f') := by
  refine List.rel_filterMap (R := Eq) ?_ (List.forall₂_same.2 fun _ _ ↦ rfl)
  rintro a _ rfl
  exact h a

theorem forall₂_flatMap {f : α → List β} {f' : α → List γ}
    (h : ∀ a, List.Forall₂ holds (f a) (f' a)) (as : List α) :
    List.Forall₂ holds (as.flatMap f) (as.flatMap f') := by
  refine List.rel_flatMap (R := Eq) (List.forall₂_same.2 fun _ _ ↦ rfl) ?_
  rintro a _ rfl
  exact h a

end Pointwise

/-- An entry refers to another one by its id. -/
structure Link where
  holder : String
  target : String
  deriving DecidableEq, Repr

/-- A finding names the holder of a link and misses its target. -/
def Link.MissedBy (l : Link) (f : Finding) : Prop :=
  f.ids = [l.holder] ∧ f.missingId = some l.target

namespace CallGraph

/-- The links that a check follows, in the order of the document and of the arguments. -/
def links (g : CallGraph) : Check → List Link
  | .receivers => g.calls.filterMap fun c ↦ c.receiverValueId.map (Link.mk c.id)
  | .argumentValues =>
    g.calls.flatMap fun c ↦ c.arguments.filterMap fun a ↦ a.valueId.map (Link.mk c.id)
  | .sourceCalls => g.values.filterMap fun v ↦ v.sourceCallId.map (Link.mk v.id)
  | .sourceValues => g.values.filterMap fun v ↦ v.sourceValueId.map (Link.mk v.id)
  | .results => g.calls.filterMap fun c ↦ c.resultValueId.map (Link.mk c.id)
  | .parameterDuplicates | .localDuplicates | .resultTypes | .argumentForms => []

/-- The ids of the entries that the links of a check lead to: sources of results are calls, all
others are values. -/
def targets (g : CallGraph) : Check → List String
  | .sourceCalls => g.calls.map Call.id
  | _ => g.values.map Value.id

def brokenLinks (g : CallGraph) (check : Check) : List Link :=
  (g.links check).filter fun l ↦ l.target ∉ g.targets check

/-- The findings of a check name entries of the graph. Those that miss an id are the links that lead
nowhere, one by one. -/
structure Accounts (g : CallGraph) (check : Check) (found : List Finding) : Prop where
  listed : ∀ f ∈ found, ∀ id ∈ f.ids, id ∈ g.values.map Value.id ∨ id ∈ g.calls.map Call.id
  absent : ∀ f ∈ found, ∀ id, f.missingId = some id → id ∉ g.targets check
  missed : List.Forall₂ Link.MissedBy (g.brokenLinks check)
    (found.filter fun f ↦ f.missingId.isSome)

variable {g : CallGraph} {check : Check} {found : List Finding}

theorem absent_of_missed (h : List.Forall₂ Link.MissedBy (g.brokenLinks check)
    (found.filter fun f ↦ f.missingId.isSome)) :
    ∀ f ∈ found, ∀ id, f.missingId = some id → id ∉ g.targets check := by
  have hbroken : ∀ l ∈ g.brokenLinks check, l.target ∉ g.targets check := by
    intro l hl
    simpa using (List.mem_filter.1 hl).2
  have hmissed : ∀ f ∈ found.filter fun f ↦ f.missingId.isSome,
      ∀ id, f.missingId = some id → id ∉ g.targets check := by
    refine forall_mem_of_forall₂ ((List.forall₂_and_left _ _).2 ⟨hbroken, h⟩) ?_
    rintro l f ⟨hl, -, htarget⟩ id hid
    obtain rfl := Option.some.inj (hid.symm.trans htarget)
    exact hl
  intro f hf id hid
  exact hmissed f (by simp [hf, hid]) id hid

theorem rel_missing? {known : String → Bool} {targets : List String} {holder : String}
    {finding : String → Finding} (hknown : ∀ id, known id = true ↔ id ∈ targets)
    (hfinding : ∀ id, Link.MissedBy ⟨holder, id⟩ (finding id)) (link : Option String) :
    Option.Rel Link.MissedBy ((link.map (Link.mk holder)).filter fun l ↦ l.target ∉ targets)
      ((missing? known link).map finding) := by
  cases link with
  | none => exact .none
  | some id =>
    by_cases hid : id ∈ targets
    · have hyes : known id = true := (hknown id).2 hid
      simp [missing?, Option.filter_some, hid, hyes]
    · have hno : known id = false := by simpa [hid] using hknown id
      simpa [missing?, Option.filter_some, hid, hno] using hfinding id

theorem forall₂_missing {α : Type} {as : List α} {link : α → Option String} {holder : α → String}
    {finding : α → String → Finding} {known : String → Bool} {targets : List String}
    (hknown : ∀ id, known id = true ↔ id ∈ targets)
    (hfinding : ∀ a id, Link.MissedBy ⟨holder a, id⟩ (finding a id)) :
    List.Forall₂ Link.MissedBy
      ((as.filterMap fun a ↦ (link a).map (Link.mk (holder a))).filter fun l ↦ l.target ∉ targets)
      (as.filterMap fun a ↦ (missing? known (link a)).map (finding a)) := by
  rw [List.filter_filterMap]
  exact forall₂_filterMap (fun a ↦ rel_missing? hknown (hfinding a) (link a)) as

theorem hasValue_iff_mem (id : String) : g.hasValue id = true ↔ id ∈ g.values.map Value.id := by
  rw [hasValue_eq_true, List.mem_map]

theorem hasCall_iff_mem (id : String) : g.hasCall id = true ↔ id ∈ g.calls.map Call.id := by
  rw [hasCall_eq_true, List.mem_map]

theorem missed_of_forall₂ {ls : List Link} (h : List.Forall₂ Link.MissedBy ls found) :
    List.Forall₂ Link.MissedBy ls (found.filter fun f ↦ f.missingId.isSome) := by
  have hall : ∀ f ∈ found, f.missingId.isSome = true :=
    forall_mem_of_forall₂ h fun _ _ hf ↦ by simp [hf.2]
  rwa [List.filter_eq_self.2 hall]

theorem missed_nil (h : ∀ f ∈ found, f.missingId = none) :
    List.Forall₂ Link.MissedBy [] (found.filter fun f ↦ f.missingId.isSome) := by
  have hnone : (found.filter fun f ↦ f.missingId.isSome) = [] :=
    List.filter_eq_nil_iff.2 fun f hf ↦ by simp [h f hf]
  rw [hnone]
  exact .nil

/-- Calls without a result that name one name a value that is not there. -/
theorem filter_findMissingResults (g : CallGraph) :
    (g.findMissingResults.filter fun f ↦ f.missingId.isSome) =
      g.calls.filterMap fun c ↦ (missing? g.hasValue c.resultValueId).map fun id ↦
        ⟨[c.id], s!"Call {c.id} result_value_id references non-existent value {id}", some id⟩ := by
  rw [findMissingResults, List.filter_map, List.filter_filter, ← List.filterMap_eq_filter,
    List.map_filterMap]
  refine List.filterMap_congr fun c _ ↦ ?_
  cases hid : c.resultValueId with
  | none => simp [Option.guard, hid, missing?]
  | some id =>
    cases hv : g.getValue id <;>
      simp [Option.guard, Option.filter_some, hid, missing?, resultOf, hasValue, hv]

theorem missed_of_find (h : check.find g = .ok found) :
    List.Forall₂ Link.MissedBy (g.brokenLinks check)
      (found.filter fun f ↦ f.missingId.isSome) := by
  unfold brokenLinks
  cases check with
  | parameterDuplicates =>
    obtain rfl := Except.ok.inj h
    exact missed_nil (List.forall_mem_map.2 fun _ _ ↦ rfl)
  | localDuplicates =>
    obtain ⟨keyed, -, rfl⟩ := map_eq_ok_iff.1 h
    exact missed_nil (List.forall_mem_map.2 fun _ _ ↦ rfl)
  -- the checks that follow links, one list of entries each
  | receivers =>
    obtain rfl := Except.ok.inj h
    exact missed_of_forall₂ (forall₂_missing hasValue_iff_mem fun _ _ ↦ ⟨rfl, rfl⟩)
  | argumentValues =>
    obtain rfl := Except.ok.inj h
    rw [links, List.filter_flatMap]
    refine missed_of_forall₂ (forall₂_flatMap (fun c ↦ ?_) _)
    exact forall₂_missing hasValue_iff_mem fun _ _ ↦ ⟨rfl, rfl⟩
  | sourceCalls =>
    obtain rfl := Except.ok.inj h
    exact missed_of_forall₂ (forall₂_missing hasCall_iff_mem fun _ _ ↦ ⟨rfl, rfl⟩)
  | sourceValues =>
    obtain rfl := Except.ok.inj h
    exact missed_of_forall₂ (forall₂_missing hasValue_iff_mem fun _ _ ↦ ⟨rfl, rfl⟩)
  | results =>
    obtain rfl := Except.ok.inj h
    rw [filter_findMissingResults]
    exact forall₂_missing hasValue_iff_mem fun _ _ ↦ ⟨rfl, rfl⟩
  | resultTypes =>
    obtain rfl := Except.ok.inj h
    refine missed_nil fun f hf ↦ ?_
    obtain ⟨c, -, hf⟩ := List.mem_filterMap.1 hf
    obtain ⟨_, -, rfl⟩ := Option.map_eq_some_iff.1 hf
    rfl
  | argumentForms =>
    obtain rfl := Except.ok.inj h
    exact missed_nil (List.forall_mem_flatMap.2 fun _ _ ↦ List.forall_mem_map.2 fun _ _ ↦ rfl)

theorem map_snd_keyedByLine {entries : List ((String × String) × Value)}
    {keyed : List ((String × String × Option Int) × String)} (h : keyedByLine entries = .ok keyed) :
    keyed.map Prod.snd = entries.map fun e ↦ e.2.id := by
  induction entries generalizing keyed with
  | nil =>
    obtain rfl := Except.ok.inj h
    rfl
  | cons e entries ih =>
    obtain ⟨⟨scope, name⟩, v⟩ := e
    rw [keyedByLine] at h
    cases hline : v.declarationLine with
    | error l => simp [hline] at h
    | ok line =>
      rw [hline] at h
      obtain ⟨rest, hrest, rfl⟩ := map_eq_ok_iff.1 h
      rw [List.map_cons, List.map_cons, ih hrest]

theorem mem_ids_of_mem_repeatedKeys {κ : Type} [DecidableEq κ] {kind : ValueKind}
    {pairs : List (κ × String)}
    (hpairs : pairs.map Prod.snd = (g.scopedValues kind).map fun e ↦ e.2.id) {k : κ}
    {ids : List String} (hgroup : (k, ids) ∈ repeatedKeys pairs) {id : String} (hid : id ∈ ids) :
    id ∈ g.values.map Value.id := by
  have hpair : (k, id) ∈ pairs := (mem_group (List.mem_filter.1 hgroup).1).1 hid
  have hmem : id ∈ (g.scopedValues kind).map fun e ↦ e.2.id :=
    hpairs ▸ List.mem_map_of_mem (f := Prod.snd) hpair
  obtain ⟨e, he, rfl⟩ := List.mem_map.1 hmem
  exact List.mem_map_of_mem (mem_values_of_mem_scopedValues he)

theorem exists_of_mem_missing {α : Type} {as : List α} {known : String → Bool}
    {link : α → Option String} {finding : α → String → Finding} {f : Finding}
    (h : f ∈ as.filterMap fun a ↦ (missing? known (link a)).map (finding a)) :
    ∃ a ∈ as, ∃ id, f = finding a id := by
  obtain ⟨a, ha, hf⟩ := List.mem_filterMap.1 h
  obtain ⟨id, -, rfl⟩ := Option.map_eq_some_iff.1 hf
  exact ⟨a, ha, id, rfl⟩

theorem resultOf_of_typeMismatch? {c : Call} {v : Value} {expected type : String}
    (h : g.typeMismatch? c = some (v, expected, type)) : g.resultOf c = some v := by
  unfold typeMismatch? at h
  split at h
  · rename_i hresult
    obtain ⟨_, -, he⟩ := Option.map_eq_some_iff.1 h
    obtain ⟨rfl, -⟩ := Prod.mk.inj he
    exact hresult
  · cases h

theorem mem_ids_of_find (h : check.find g = .ok found) : ∀ f ∈ found, ∀ id ∈ f.ids,
    id ∈ g.values.map Value.id ∨ id ∈ g.calls.map Call.id := by
  have hvalue : ∀ v ∈ g.values, ∀ id ∈ [v.id],
      id ∈ g.values.map Value.id ∨ id ∈ g.calls.map Call.id :=
    fun v hv id hid ↦ .inl (List.mem_singleton.1 hid ▸ List.mem_map_of_mem hv)
  have hcall : ∀ c ∈ g.calls, ∀ id ∈ [c.id],
      id ∈ g.values.map Value.id ∨ id ∈ g.calls.map Call.id :=
    fun c hc id hid ↦ .inr (List.mem_singleton.1 hid ▸ List.mem_map_of_mem hc)
  intro f hf
  cases check with
  | parameterDuplicates =>
    obtain rfl := Except.ok.inj h
    obtain ⟨⟨_, ids⟩, hgroup, rfl⟩ := List.mem_map.1 hf
    exact fun id hid ↦ .inl (mem_ids_of_mem_repeatedKeys List.map_map hgroup hid)
  | localDuplicates =>
    obtain ⟨keyed, hkeyed, rfl⟩ := map_eq_ok_iff.1 h
    obtain ⟨⟨_, ids⟩, hgroup, rfl⟩ := List.mem_map.1 hf
    exact fun id hid ↦
      .inl (mem_ids_of_mem_repeatedKeys (map_snd_keyedByLine hkeyed) hgroup hid)
  | receivers =>
    obtain rfl := Except.ok.inj h
    obtain ⟨c, hc, _, rfl⟩ := exists_of_mem_missing hf
    exact hcall c hc
  | argumentValues =>
    obtain rfl := Except.ok.inj h
    obtain ⟨c, hc, hf⟩ := List.mem_flatMap.1 hf
    obtain ⟨_, -, _, rfl⟩ := exists_of_mem_missing hf
    exact hcall c hc
  | sourceCalls =>
    obtain rfl := Except.ok.inj h
    obtain ⟨v, hv, _, rfl⟩ := exists_of_mem_missing hf
    exact hvalue v hv
  | sourceValues =>
    obtain rfl := Except.ok.inj h
    obtain ⟨v, hv, _, rfl⟩ := exists_of_mem_missing hf
    exact hvalue v hv
  | results =>
    obtain rfl := Except.ok.inj h
    obtain ⟨c, hc, rfl⟩ := List.mem_map.1 hf
    exact hcall c (List.mem_filter.1 hc).1
  | resultTypes =>
    obtain rfl := Except.ok.inj h
    obtain ⟨c, hc, hf⟩ := List.mem_filterMap.1 hf
    obtain ⟨⟨v, expected, type⟩, hmismatch, rfl⟩ := Option.map_eq_some_iff.1 hf
    -- the result that was compared is what a look-up found
    have hv := (getValue_mem (resultOf_self (resultOf_of_typeMismatch? hmismatch))).1
    exact List.forall_mem_cons.2 ⟨hcall c hc _ (List.mem_singleton.2 rfl), hvalue v hv⟩
  | argumentForms =>
    obtain rfl := Except.ok.inj h
    obtain ⟨c, hc, hf⟩ := List.mem_flatMap.1 hf
    obtain ⟨_, -, rfl⟩ := List.mem_map.1 hf
    exact hcall c hc

theorem accounts_of_find (h : check.find g = .ok found) : g.Accounts check found where
  listed := mem_ids_of_find h
  absent := absent_of_missed (missed_of_find h)
  missed := missed_of_find h

end CallGraph

namespace IntegrityContract

/-- What every report says about the graph. An entry that was asked for holds findings on entries
that are there, and on links of which just the broken ones are found; no other entry holds any. The
offending ids of an entry are the ids that it names, as they are first seen. There is a report
unless the line of some local is asked for and cannot be read. -/
theorem accounts_of_report (a : IntegrityContract) :
    (∀ report, a.report.result = .ok report → ∀ check : Check, ∃ e,
      report.get? check.name = some e ∧ (e.enabled = true ↔ check ∈ a.enabled) ∧
      (check ∈ a.enabled → a.graph.Accounts check e.findings) ∧
      (check ∉ a.enabled → e.findings = []) ∧
      FirstSeen (e.findings.flatMap Finding.ids) e.offendingIds) ∧
    ((∃ fault, a.report.result = .error fault) ↔ .localDuplicates ∈ a.enabled ∧
      ∃ e ∈ a.graph.scopedValues .localVariable, ∃ l, e.2.declarationLine = .error l) := by
  constructor
  · intro report h check
    obtain ⟨e, he, hrun⟩ := get?_of_report h check
    refine ⟨e, he, ?_, fun hcheck ↦ ?_, fun hcheck ↦ ?_, firstSeen_eraseDups _⟩
    · by_cases hcheck : check ∈ a.enabled
      · rw [run_of_mem hcheck] at hrun
        obtain ⟨_, -, rfl⟩ := map_eq_ok_iff.1 hrun
        simp [hcheck]
      · rw [run_of_not_mem hcheck] at hrun
        obtain rfl := Except.ok.inj hrun
        simp [hcheck]
    · rw [run_of_mem hcheck] at hrun
      obtain ⟨found, hfound, rfl⟩ := map_eq_ok_iff.1 hrun
      exact CallGraph.accounts_of_find hfound
    · rw [run_of_not_mem hcheck] at hrun
      obtain rfl := Except.ok.inj hrun
      rfl
  · rw [exists_report_eq_error_iff]
    simp only [CallGraph.find_eq_error_iff]
    constructor
    · rintro ⟨_, hc, rfl, he⟩
      exact ⟨hc, he⟩
    · rintro ⟨hc, he⟩
      exact ⟨_, hc, rfl, he⟩

end IntegrityContract

namespace SharedId

def kept (sourceCall : Option String) : Value :=
  ⟨"s", .result, none, none, none, none, sourceCall, none, none, none⟩

def argument (position : Int) (id : String) : Argument :=
  ⟨position, none, some id, none⟩

def save : Call :=
  ⟨"s", .method, none, "App/Service#run().", none, none, none, some "lost", none,
    [argument 0 "lost", argument 1 "s", argument 2 "lost"]⟩

def graph : CallGraph :=
  ⟨⟨"1.0", [kept (some "s"), kept (some "gone")], [save]⟩, "<memory>"⟩

def contract : IntegrityContract :=
  (IntegrityContract.ofGraph graph).allChecks

theorem accounts_of_lost : ∃ report e,
    contract.report.result = .ok report ∧
    report.get? "all_argument_value_ids_exist" = some e ∧
    List.Forall₂ Link.MissedBy [⟨"s", "lost"⟩, ⟨"s", "lost"⟩]
      (e.findings.filter fun f ↦ f.missingId.isSome) ∧
    FirstSeen (e.findings.flatMap Finding.ids) e.offendingIds := by
  obtain ⟨hreports, hfaults⟩ := IntegrityContract.accounts_of_report contract
  have hlocals : contract.graph.scopedValues .localVariable = [] := by decide
  have hresult : ∃ report, contract.report.result = .ok report := by
    by_contra hnone
    obtain ⟨-, e, he, -⟩ := hfaults.1 (not_exists_ok_iff.1 hnone)
    simp [hlocals] at he
  obtain ⟨report, hreport⟩ := hresult
  obtain ⟨e, he, -, haccounts, -, hids⟩ := hreports report hreport .argumentValues
  have hbroken : graph.brokenLinks .argumentValues = [⟨"s", "lost"⟩, ⟨"s", "lost"⟩] := by decide
  have hmissed := (haccounts (Check.mem_all _)).missed
  exact ⟨report, e, hreport, he, hbroken ▸ hmissed, hids⟩

end SharedId

end GraphContracts
