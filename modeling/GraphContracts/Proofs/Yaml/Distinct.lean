import GraphContracts.Proofs.Config.Overlay
import GraphContracts.Proofs.Outcome
import GraphContracts.Yaml.Value

namespace GraphContracts

/-- A mapping that holds each key once, as do the mappings that are values in it; or no mapping. -/
inductive Datum.Distinct : Datum → Prop
  | map {es : Entries} : es.Apart → (∀ e ∈ es, e.2.Distinct) → Distinct (.map es)
  | plain {d : Datum} : (∀ es, d ≠ .map es) → Distinct d

namespace Datum.Distinct

theorem map_nil : (Datum.map []).Distinct :=
  .map .nil nofun

variable {es : Entries}

theorem apart (h : (Datum.map es).Distinct) : es.Apart := by
  cases h with
  | map hapart _ => exact hapart
  | plain h => exact absurd rfl (h es)

theorem values (h : (Datum.map es).Distinct) : ∀ e ∈ es, e.2.Distinct := by
  cases h with
  | map _ hvalues => exact hvalues
  | plain h => exact absurd rfl (h es)

theorem of_get? {name : String} {d : Datum} (h : (Datum.map es).Distinct)
    (hd : es.get? name = some d) : d.Distinct :=
  h.values _ (Entries.mem_of_get? hd)

theorem of_at? {name key : String} {d : Datum} (h : (Datum.map es).Distinct)
    (hd : es.at? name key = some d) : d.Distinct := by
  rw [Entries.at?] at hd
  split at hd
  · rename_i hinner
    exact (h.of_get? hinner).of_get? hd
  · cases hd

theorem layer (h : (Datum.map es).Distinct) (hes : es.Sectioned) : es.Layer := by
  refine ⟨h.apart, fun name d hd ↦ ?_⟩
  obtain ⟨inner, rfl⟩ := hes name d hd
  exact ⟨inner, rfl, (h.of_get? hd).apart⟩

end Datum.Distinct

namespace Entries

variable {k v : Datum} {es : Entries}

theorem distinct_set (hes : ∀ e ∈ es, e.2.Distinct) (hv : v.Distinct) :
    ∀ e ∈ es.set k v, e.2.Distinct := by
  induction es with
  | nil => exact List.forall_mem_singleton.2 hv
  | cons entry es ih =>
    obtain ⟨l, w⟩ := entry
    obtain ⟨hw, hes⟩ := List.forall_mem_cons.1 hes
    rw [set]
    split
    · exact List.forall_mem_cons.2 ⟨hv, hes⟩
    · exact List.forall_mem_cons.2 ⟨hw, ih hes⟩

theorem distinct_ofPairs {pairs : List (Datum × Datum)} (h : ∀ p ∈ pairs, p.2.Distinct) :
    (Datum.map (ofPairs pairs)).Distinct := by
  refine .map (apart_ofPairs pairs) ?_
  induction pairs using List.reverseRecOn with
  | nil => exact nofun
  | append_singleton pairs pair ih =>
    obtain ⟨hpairs, hpair⟩ := List.forall_mem_append.1 h
    obtain ⟨k, v⟩ := pair
    rw [ofPairs_concat]
    exact distinct_set (ih hpairs) (hpair _ (List.mem_singleton_self _))

end Entries

namespace Yaml

theorem not_map_of_check {stamp : Stamp} {es : Entries} : stamp.check ≠ .ok (.map es) := by
  intro h
  cases stamp with
  | day day =>
    obtain ⟨_, -, hday⟩ := map_eq_ok_iff.1 h
    cases hday
  | time moment =>
    simp only [Stamp.check] at h
    split at h
    · cases h
    · obtain ⟨_, -, hmoment⟩ := map_eq_ok_iff.1 h
      cases hmoment

theorem distinct_of_scalarValue {kind : Kind} {s : String} {d : Datum}
    (h : scalarValue kind s = .ok d) : d.Distinct := by
  refine .plain fun es hes ↦ ?_
  subst hes
  cases kind with
  | bool | int | float =>
    simp only [scalarValue, map_eq_ok_iff] at h
    obtain ⟨_, -, hvalue⟩ := h
    cases hvalue
  | binary =>
    simp only [scalarValue] at h
    split at h <;> cases h
  | timestamp =>
    simp only [scalarValue] at h
    split at h
    · exact not_map_of_check h
    · cases h
  | _ => simp [scalarValue, malformed] at h

mutual

theorem distinct_of_valueOf : ∀ {n : Node} {d : Datum}, valueOf n = .ok d → d.Distinct
  | .scalar tag s, d, h => by
    rw [valueOf] at h
    split at h
    · exact distinct_of_scalarValue h
    · cases h
  | .sequence tag items, d, h => by
    rw [valueOf] at h
    split at h
    · obtain ⟨_, -, rfl⟩ := map_eq_ok_iff.1 h
      exact .plain nofun
    · obtain ⟨_, -, rfl⟩ := map_eq_ok_iff.1 h
      exact .plain nofun
    · obtain ⟨_, -, rfl⟩ := map_eq_ok_iff.1 h
      exact .plain nofun
    · cases h
  | .mapping tag entries, d, h => by
    rw [valueOf] at h
    split at h
    · -- only a mapping that is read as one has keys
      obtain ⟨es, hes, rfl⟩ := map_eq_ok_iff.1 h
      exact Entries.distinct_ofPairs (distinct_of_mergedEntries hes)
    · obtain ⟨_, -, rfl⟩ := map_eq_ok_iff.1 h
      exact .plain nofun
    · split at h
      · exact distinct_of_scalarValue h
      · cases h
    · cases h

theorem distinct_of_mergedEntries : ∀ {entries : List (Node × Node)} {es : Entries},
    mergedEntries entries = .ok es → ∀ e ∈ es, e.2.Distinct
  | entries, es, h => by
    rw [mergedEntries] at h
    obtain ⟨⟨merged, own⟩, hsplit, heq⟩ := bind_eq_ok_iff.1 h
    cases heq
    obtain ⟨hmerged, hown⟩ := distinct_of_splitEntries hsplit
    exact List.forall_mem_append.2 ⟨hmerged, hown⟩

theorem distinct_of_splitEntries : ∀ {entries : List (Node × Node)} {merged own : Entries},
    splitEntries entries = .ok (merged, own) →
      (∀ e ∈ merged, e.2.Distinct) ∧ ∀ e ∈ own, e.2.Distinct
  | [], merged, own, h => by
    rw [splitEntries] at h
    cases h
    exact ⟨nofun, nofun⟩
  | (k, v) :: entries, merged, own, h => by
    rw [splitEntries] at h
    split at h
    · obtain ⟨here, hhere, h⟩ := bind_eq_ok_iff.1 h
      obtain ⟨⟨rest, own⟩, hsplit, heq⟩ := bind_eq_ok_iff.1 h
      cases heq
      obtain ⟨hrest, hown⟩ := distinct_of_splitEntries hsplit
      exact ⟨List.forall_mem_append.2 ⟨distinct_of_mergeSource hhere, hrest⟩, hown⟩
    · obtain ⟨key, -, h⟩ := bind_eq_ok_iff.1 h
      obtain ⟨value, hvalue, h⟩ := bind_eq_ok_iff.1 h
      obtain ⟨⟨merged, rest⟩, hsplit, heq⟩ := bind_eq_ok_iff.1 h
      cases heq
      obtain ⟨hmerged, hrest⟩ := distinct_of_splitEntries hsplit
      exact ⟨hmerged, List.forall_mem_cons.2 ⟨distinct_of_valueOf hvalue, hrest⟩⟩

theorem distinct_of_mergeSource : ∀ {n : Node} {es : Entries},
    mergeSource n = .ok es → ∀ e ∈ es, e.2.Distinct
  | .scalar _ _, es, h => by
    rw [mergeSource] at h
    cases h
  | .mapping _ entries, es, h => by
    rw [mergeSource] at h
    exact distinct_of_mergedEntries h
  | .sequence _ items, es, h => by
    rw [mergeSource] at h
    exact distinct_of_mergeSources h

theorem distinct_of_mergeSources : ∀ {ns : List Node} {es : Entries},
    mergeSources ns = .ok es → ∀ e ∈ es, e.2.Distinct
  | [], es, h => by
    rw [mergeSources] at h
    cases h
    exact nofun
  | .mapping _ entries :: ns, es, h => by
    rw [mergeSources] at h
    obtain ⟨here, hhere, h⟩ := bind_eq_ok_iff.1 h
    obtain ⟨later, hlater, heq⟩ := bind_eq_ok_iff.1 h
    cases heq
    exact List.forall_mem_append.2
      ⟨distinct_of_mergeSources hlater, distinct_of_mergedEntries hhere⟩
  | .scalar _ _ :: _, es, h => by
    rw [mergeSources] at h
    · cases h
    · exact nofun
  | .sequence _ _ :: _, es, h => by
    rw [mergeSources] at h
    · cases h
    · exact nofun

end

theorem distinct_of_read {text : List Char} {d : Datum} (h : read text = .ok d) : d.Distinct := by
  rw [read] at h
  obtain ⟨tokens, -, h⟩ := bind_eq_ok_iff.1 h
  obtain ⟨tree, -, h⟩ := bind_eq_ok_iff.1 h
  cases tree with
  | none =>
    cases h
    exact .plain nofun
  | some node => exact distinct_of_valueOf h

end Yaml

end GraphContracts
