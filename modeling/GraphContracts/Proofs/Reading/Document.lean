import GraphContracts.Documents
import GraphContracts.Proofs.Outcome
import GraphContracts.Proofs.Reading.Json
import Mathlib.Data.List.Induction
import Mathlib.Data.List.Nodup

namespace GraphContracts

/-- A value that a JSON text can be read as. -/
inductive Datum.IsDocument : Datum → Prop
  | null : IsDocument .null
  | bool (b : Bool) : IsDocument (.bool b)
  | int (n : Int) : IsDocument (.int n)
  | float (x : Binary64) : IsDocument (.float x)
  | text (s : String) : IsDocument (.text s)
  | list {ds : List Datum} : (∀ d ∈ ds, IsDocument d) → IsDocument (.list ds)
  | map {es : Entries} : (es.map Prod.fst).Nodup → (∀ e ∈ es, e.1.isText) →
      (∀ e ∈ es, IsDocument e.2) → IsDocument (.map es)

theorem Datum.IsDocument.map_nil : (Datum.map []).IsDocument :=
  .map .nil nofun nofun

theorem Datum.IsDocument.object {fields : List (String × Datum)}
    (hkeys : (fields.map Prod.fst).Nodup) (hvalues : ∀ f ∈ fields, f.2.IsDocument) :
    (Datum.object fields).IsDocument := by
  refine .map ?_ ?_ ?_
  · rw [List.map_map]
    have hmapped := List.Nodup.map (fun _ _ ↦ Datum.text.inj) hkeys
    rwa [List.map_map] at hmapped
  · intro e he
    obtain ⟨f, -, rfl⟩ := List.mem_map.1 he
    rfl
  · intro e he
    obtain ⟨f, hf, rfl⟩ := List.mem_map.1 he
    exact hvalues f hf

theorem Datum.IsDocument.isJson {d : Datum} (h : d.IsDocument) : d.isJson := by
  induction h with
  | list _ ih => exact Datum.isJson_list.2 ih
  | map _ htexts _ ih => exact Datum.isJson_map.2 fun e he ↦ ⟨htexts e he, ih e he⟩
  | _ => rfl

theorem Datum.IsDocument.nodup_keys {es : Entries} (h : (Datum.map es).IsDocument) :
    (es.map Prod.fst).Nodup := by
  cases h
  assumption

theorem Datum.IsDocument.isText_key {es : Entries} (h : (Datum.map es).IsDocument)
    {e : Datum × Datum} (he : e ∈ es) : e.1.isText := by
  cases h with
  | map _ htexts _ => exact htexts e he

theorem Datum.IsDocument.getD {es : Entries} {default : Datum} (h : (Datum.map es).IsDocument)
    (hdefault : default.IsDocument) (name : String) : ((es.get? name).getD default).IsDocument := by
  cases hget : es.get? name with
  | none => exact hdefault
  | some d =>
    cases h with
    | map _ _ hvalues => exact hvalues _ (Entries.mem_of_get? hget)

namespace Entries

variable {es : Entries} {name : String} {v : Datum}

theorem sameKey_text_iff {k : Datum} (hk : k.isText) : k.sameKey (.text name) ↔ k = .text name := by
  obtain ⟨s, rfl⟩ := Datum.isText_iff.1 hk
  simp [Datum.sameKey]

theorem map_fst_set (htexts : ∀ e ∈ es, e.1.isText) (name : String) (v : Datum) :
    (es.set (.text name) v).map Prod.fst = es.map Prod.fst ∨
      .text name ∉ es.map Prod.fst ∧
        (es.set (.text name) v).map Prod.fst = es.map Prod.fst ++ [.text name] := by
  induction es with
  | nil => exact .inr ⟨List.not_mem_nil, rfl⟩
  | cons e es ih =>
    obtain ⟨k, w⟩ := e
    obtain ⟨hk, htexts⟩ := List.forall_mem_cons.1 htexts
    by_cases hsame : k.sameKey (.text name)
    · exact .inl (by simp [set, hsame])
    · have hne : .text name ≠ k := fun h ↦ hsame ((sameKey_text_iff hk).2 h.symm)
      have hset : (set (.text name) v ((k, w) :: es)).map Prod.fst =
          k :: (set (.text name) v es).map Prod.fst := by simp [set, hsame]
      rw [hset, List.map_cons]
      obtain heq | ⟨hnew, heq⟩ := ih htexts
      · exact .inl (by rw [heq])
      · exact .inr ⟨by simp [hne, hnew], by rw [heq, List.cons_append]⟩

theorem mem_set {e : Datum × Datum} (he : e ∈ es.set (.text name) v) :
    e ∈ es ∨ e.1.isText ∧ e.2 = v := by
  induction es with
  | nil =>
    obtain rfl := List.mem_singleton.1 he
    exact .inr ⟨rfl, rfl⟩
  | cons f es ih =>
    obtain ⟨k, w⟩ := f
    rw [set] at he
    split at he
    · rename_i hsame
      obtain rfl | he := List.mem_cons.1 he
      · refine .inr ⟨?_, rfl⟩
        cases k with
        | text s => rfl
        | _ => simp [Datum.sameKey_text] at hsame
      · exact .inl (.tail _ he)
    · obtain rfl | he := List.mem_cons.1 he
      · exact .inl (.head _)
      · exact (ih he).imp_left (.tail _)

theorem isDocument_set (h : (Datum.map es).IsDocument) (hv : v.IsDocument) :
    (Datum.map (es.set (.text name) v)).IsDocument := by
  cases h with
  | map hnodup htexts hvalues =>
    refine .map ?_ ?_ ?_
    · obtain heq | ⟨hnew, heq⟩ := map_fst_set htexts name v
      · rwa [heq]
      · rw [heq]
        exact List.Nodup.append hnodup (List.nodup_singleton _) (List.disjoint_singleton.2 hnew)
    · intro e he
      obtain he | ⟨htext, -⟩ := mem_set he
      · exact htexts e he
      · exact htext
    · intro e he
      obtain he | ⟨-, hvalue⟩ := mem_set he
      · exact hvalues e he
      · exact hvalue ▸ hv

theorem isDocument_ofPairs {pairs : List (Datum × Datum)}
    (h : ∀ p ∈ pairs, p.1.isText ∧ p.2.IsDocument) : (Datum.map (ofPairs pairs)).IsDocument := by
  induction pairs using List.reverseRecOn with
  | nil => exact .map_nil
  | append_singleton pairs p ih =>
    obtain ⟨hpairs, hp⟩ := List.forall_mem_append.1 h
    obtain ⟨hkey, hvalue⟩ := hp p (List.mem_singleton_self p)
    obtain ⟨k, v⟩ := p
    obtain ⟨name, rfl⟩ := Datum.isText_iff.1 hkey
    rw [ofPairs_concat]
    exact isDocument_set (ih hpairs) hvalue

end Entries

namespace Json

theorem isDocument_of_readNumber {start : Nat} {negative : Bool} {cs rest : List Char} {d : Datum}
    (h : readNumber start negative cs = .ok (d, rest)) : d.IsDocument := by
  simp only [readNumber] at h
  split at h
  · cases h
  · split at h
    · split at h
      · cases h
      · cases h
        exact .int _
    · cases h
      exact .float _
    · cases h
      exact .float _

theorem isDocument_of_mem_words {p : List Char × Datum} (h : p ∈ words) : p.2.IsDocument := by
  simp only [words, List.mem_cons, List.not_mem_nil, or_false] at h
  obtain rfl | rfl | rfl | rfl | rfl | rfl := h
  exacts [.null, .bool _, .bool _, .float _, .float _, .float _]

theorem isDocument_of_readScalar {cs rest : List Char} {d : Datum}
    (h : readScalar cs = .ok (d, rest)) : d.IsDocument := by
  simp only [readScalar] at h
  split at h
  · rename_i w d' hword
    cases h
    exact isDocument_of_mem_words (List.mem_of_find?_eq_some hword)
  · split at h
    · rename_i tail
      obtain ⟨read, -, hread⟩ := map_eq_ok_iff.1 h
      cases hread
      exact .text _
    · exact isDocument_of_readNumber h
    · exact isDocument_of_readNumber h

/-- Whatever is read in nested readings, their number aside. -/
structure ReadsDocuments (fuel : Nat) : Prop where
  value : ∀ {cs d rest}, readValue fuel cs = .ok (d, rest) → d.IsDocument
  items : ∀ {cs ds rest}, readItems fuel cs = .ok (ds, rest) → ∀ d ∈ ds, d.IsDocument
  members : ∀ {cs ms rest}, readMembers fuel cs = .ok (ms, rest) →
    ∀ m ∈ ms, m.1.isText ∧ m.2.IsDocument

theorem isDocument_of_readValue {fuel : Nat} (ih : ReadsDocuments fuel) {cs rest : List Char}
    {d : Datum} (h : readValue (fuel + 1) cs = .ok (d, rest)) : d.IsDocument := by
  rw [readValue.eq_def] at h
  simp only at h
  split at h
  · split at h
    · cases h
      exact .list nofun
    · obtain ⟨read, hread, heq⟩ := map_eq_ok_iff.1 h
      cases heq
      exact .list (ih.items hread)
  · split at h
    · cases h
      exact .map_nil
    · obtain ⟨read, hread, heq⟩ := map_eq_ok_iff.1 h
      cases heq
      exact Entries.isDocument_ofPairs (ih.members hread)
  · exact isDocument_of_readScalar h

theorem isDocument_of_readItems {fuel : Nat} (ih : ReadsDocuments fuel) {cs rest : List Char}
    {ds : List Datum} (h : readItems (fuel + 1) cs = .ok (ds, rest)) : ∀ d ∈ ds, d.IsDocument := by
  rw [readItems.eq_def] at h
  simp only at h
  split at h
  · cases h
  · rename_i d after hvalue
    have hd := ih.value hvalue
    split at h
    · cases h
      simpa using hd
    · obtain ⟨read, hread, heq⟩ := map_eq_ok_iff.1 h
      cases heq
      exact List.forall_mem_cons.2 ⟨hd, ih.items hread⟩
    · cases h

theorem isDocument_of_readMembers {fuel : Nat} (ih : ReadsDocuments fuel) {cs rest : List Char}
    {ms : List (Datum × Datum)} (h : readMembers (fuel + 1) cs = .ok (ms, rest)) :
    ∀ m ∈ ms, m.1.isText ∧ m.2.IsDocument := by
  rw [readMembers.eq_def] at h
  simp only at h
  split at h
  · split at h
    · cases h
    · split at h
      · split at h
        · cases h
        · rename_i d after hvalue
          have hd := ih.value hvalue
          split at h
          · cases h
            simpa [Datum.isText] using hd
          · obtain ⟨read, hread, heq⟩ := map_eq_ok_iff.1 h
            cases heq
            exact List.forall_mem_cons.2 ⟨⟨rfl, hd⟩, ih.members hread⟩
          · cases h
      · cases h
  · cases h

theorem readsDocuments (fuel : Nat) : ReadsDocuments fuel := by
  induction fuel with
  | zero =>
    constructor
    · intro cs d rest h
      simp [readValue] at h
    · intro cs ds rest h
      simp [readItems] at h
    · intro cs ms rest h
      simp [readMembers] at h
  | succ fuel ih =>
    exact ⟨isDocument_of_readValue ih, isDocument_of_readItems ih, isDocument_of_readMembers ih⟩

theorem isDocument_of_read {cs : List Char} {d : Datum} (h : read cs = .ok d) : d.IsDocument := by
  unfold read at h
  split at h
  · cases h
  · split at h
    · cases h
    · rename_i read after hvalue
      split at h
      · cases h
        exact (readsDocuments _).value hvalue
      · cases h

end Json

theorem Documents.isDocument_of_readJson {files : FileTree} {path : Path} {what : String}
    {d : Datum} (h : readJson files path what = .ok d) : d.IsDocument := by
  unfold readJson at h
  split at h
  · cases h
  · cases h
  · rename_i content hcontent
    unfold parseJson at h
    split at h
    · rename_i read hread
      cases h
      exact Json.isDocument_of_read hread
    · split at h <;> cases h

end GraphContracts
