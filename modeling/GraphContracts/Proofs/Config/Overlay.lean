import GraphContracts.Config.Overlay
import Mathlib.Data.List.Induction

namespace GraphContracts

/-- What two layers hold together, where each may hold nothing. -/
def Datum.overlaid : Option Datum → Option Datum → Option Datum
  | low, none => low
  | none, some v => some v
  | some w, some v => some (w.over v)

namespace Datum

variable {low high : Option Datum} {v : Datum}

@[simp] theorem overlaid_none (low : Option Datum) : overlaid low none = low := by
  cases low <;> rfl

@[simp] theorem none_overlaid (high : Option Datum) : overlaid none high = high := by
  cases high <;> rfl

theorem over_of_not_map (h : ∀ es, v ≠ .map es) (w : Datum) : w.over v = v := by
  cases v with
  | map es => exact absurd rfl (h es)
  | _ => rfl

theorem overlaid_of_not_map (h : ∀ es, v ≠ .map es) : overlaid low (some v) = some v := by
  cases low with
  | none => rfl
  | some w => rw [overlaid, over_of_not_map h]

theorem overlaid_text (s : String) (high : Option Datum) :
    overlaid (some (.text s)) high = high.or (some (.text s)) := by
  cases high with
  | none => rfl
  | some v => cases v <;> rfl

end Datum

namespace Entries

variable {name : String} {k v : Datum} {es low high : Entries}

/-- No two keys name the same entry, as in every mapping that is read or made key by key. -/
def Apart (es : Entries) : Prop :=
  es.Pairwise fun a b ↦ a.1.sameKey b.1 = false

theorem sameKey_text_of_not_text (h : ∀ s, k ≠ .text s) (name : String) :
    (Datum.text name).sameKey k = false := by
  cases k with
  | text s => exact absurd rfl (h s)
  | _ => rfl

theorem get?_set_of_not_text (h : ∀ s, k ≠ .text s) (v : Datum) (es : Entries) :
    (es.set k v).get? name = es.get? name := by
  induction es with
  | nil =>
    cases k with
    | text s => exact absurd rfl (h s)
    | _ => rfl
  | cons entry es ih =>
    obtain ⟨l, w⟩ := entry
    cases l with
    | text s => simp [set, get?, sameKey_text_of_not_text h, ih]
    | _ =>
      rw [set]
      split
      · rfl
      · exact ih

theorem get?_set_of_ne_text (h : k ≠ .text name) (v : Datum) (es : Entries) :
    (es.set k v).get? name = es.get? name := by
  cases k with
  | text s => exact get?_set_of_ne (fun hs ↦ h (congrArg _ hs.symm)) v es
  | _ => exact get?_set_of_not_text (fun s ↦ Datum.noConfusion) v es

theorem get?_cons_of_ne_text (h : k ≠ .text name) (v : Datum) (es : Entries) :
    get? name ((k, v) :: es) = es.get? name := by
  cases k with
  | text s => exact if_neg fun hs ↦ h (congrArg _ hs)
  | _ => rfl

theorem find?_text (name : String) (es : Entries) : find? (.text name) es = es.get? name := by
  induction es with
  | nil => rfl
  | cons entry es ih =>
    obtain ⟨k, v⟩ := entry
    rw [find?] at ih ⊢
    cases k with
    | text s =>
      by_cases hs : s = name
      · simp [get?, Datum.sameKey, hs]
      · simpa [get?, Datum.sameKey, hs] using ih
    | _ => simpa [get?, Datum.sameKey_text] using ih

theorem has_of_mem (h : (.text name, v) ∈ es) : has name es = true := by
  induction es with
  | nil => cases h
  | cons entry es ih =>
    obtain ⟨k, w⟩ := entry
    by_cases hk : k = .text name
    · subst hk
      simp [has, get?]
    · rw [has, get?_cons_of_ne_text hk]
      refine ih ((List.mem_cons.1 h).resolve_left fun heq ↦ hk ?_)
      exact (congrArg Prod.fst heq).symm

theorem get?_eq_none_of_apart (h : Apart ((.text name, v) :: es)) : es.get? name = none := by
  have hhead := (List.pairwise_cons.1 h).1
  rw [Option.eq_none_iff_forall_ne_some]
  intro w hw
  have hsame := hhead _ (mem_of_get? hw)
  simp [Datum.sameKey] at hsame

/-- What stands under a key where one mapping is laid over another. -/
theorem get?_over (h : Apart high) (low : Entries) (name : String) :
    (Entries.over low high).get? name = Datum.overlaid (low.get? name) (high.get? name) := by
  induction high generalizing low with
  | nil => rw [Entries.over, get?_nil, Datum.overlaid_none]
  | cons entry high ih =>
    obtain ⟨k, v⟩ := entry
    have hrest := (List.pairwise_cons.1 h).2
    rw [Entries.over, ih hrest]
    by_cases hk : k = .text name
    · subst hk
      rw [get?_set_self, get?_eq_none_of_apart h, Datum.overlaid_none, find?_text]
      cases hlow : low.get? name <;> simp [get?, Datum.overlaid]
    · rw [get?_set_of_ne_text hk, get?_cons_of_ne_text hk]

theorem forall_mem_set {p : Datum → Prop} (hes : ∀ e ∈ es, p e.1) (hk : p k) (v : Datum) :
    ∀ e ∈ es.set k v, p e.1 := by
  induction es with
  | nil => simpa [set] using hk
  | cons entry es ih =>
    obtain ⟨l, w⟩ := entry
    obtain ⟨hl, hes⟩ := List.forall_mem_cons.1 hes
    rw [set]
    split
    · exact List.forall_mem_cons.2 ⟨hl, hes⟩
    · exact List.forall_mem_cons.2 ⟨hl, ih hes⟩

theorem apart_set (h : Apart es) (k v : Datum) : Apart (es.set k v) := by
  induction es with
  | nil => exact List.pairwise_singleton _ _
  | cons entry es ih =>
    obtain ⟨l, w⟩ := entry
    obtain ⟨hhead, hes⟩ := List.pairwise_cons.1 h
    rw [set]
    split
    · exact List.pairwise_cons.2 ⟨hhead, hes⟩
    · rename_i hdiffer
      have hkeys : ∀ e ∈ set k v es, l.sameKey e.1 = false :=
        forall_mem_set (p := fun key ↦ l.sameKey key = false) hhead (Bool.eq_false_iff.2 hdiffer) v
      exact List.pairwise_cons.2 ⟨hkeys, ih hes⟩

theorem apart_over (h : Apart low) (high : Entries) : Apart (Entries.over low high) := by
  induction high generalizing low with
  | nil => rwa [Entries.over]
  | cons entry high ih =>
    rw [Entries.over]
    exact ih (apart_set h _ _)

theorem forall_mem_over {p : Datum → Prop} (hlow : ∀ e ∈ low, p e.1) (hhigh : ∀ e ∈ high, p e.1) :
    ∀ e ∈ Entries.over low high, p e.1 := by
  induction high generalizing low with
  | nil => rwa [Entries.over]
  | cons entry high ih =>
    obtain ⟨hentry, hhigh⟩ := List.forall_mem_cons.1 hhigh
    rw [Entries.over]
    exact ih (forall_mem_set hlow hentry _) hhigh

theorem apart_ofPairs (pairs : List (Datum × Datum)) : Apart (ofPairs pairs) := by
  induction pairs using List.reverseRecOn with
  | nil => exact .nil
  | append_singleton pairs pair ih =>
    obtain ⟨k, v⟩ := pair
    rw [ofPairs_concat]
    exact apart_set ih k v

theorem set_of_new (h : ∀ e ∈ es, e.1.sameKey k = false) (v : Datum) :
    es.set k v = es ++ [(k, v)] := by
  induction es with
  | nil => rfl
  | cons entry es ih =>
    obtain ⟨l, w⟩ := entry
    obtain ⟨hl, hes⟩ := List.forall_mem_cons.1 h
    rw [set, if_neg (Bool.eq_false_iff.1 hl), ih hes, List.cons_append]

theorem ofPairs_of_apart (h : Apart es) : ofPairs es = es := by
  induction es using List.reverseRecOn with
  | nil => rfl
  | append_singleton es entry ih =>
    obtain ⟨k, v⟩ := entry
    obtain ⟨hes, -, hnew⟩ := List.pairwise_append.1 h
    rw [ofPairs_concat, ih hes]
    exact set_of_new (fun e he ↦ hnew e he _ (List.mem_singleton_self _)) v

/-- The value of a key in a section. -/
def at? (name key : String) (es : Entries) : Option Datum :=
  match es.get? name with
  | some (.map inner) => get? key inner
  | _ => none

/-- All sections are mappings. -/
def Sectioned (es : Entries) : Prop :=
  ∀ name d, es.get? name = some d → ∃ inner, d = .map inner

/-- Sections that are mappings, with keys apart throughout. -/
structure Layer (es : Entries) : Prop where
  apart : Apart es
  sections : ∀ name d, es.get? name = some d → ∃ inner, d = .map inner ∧ Apart inner

theorem Layer.sectioned (h : Layer es) : es.Sectioned := by
  intro name d hd
  obtain ⟨inner, hinner, -⟩ := h.sections name d hd
  exact ⟨inner, hinner⟩

theorem at?_over (hlow : low.Sectioned) (hhigh : high.Layer) (name key : String) :
    (Entries.over low high).at? name key =
      Datum.overlaid (low.at? name key) (high.at? name key) := by
  rw [at?, at?, at?, get?_over hhigh.apart]
  cases hupper : high.get? name with
  | none => simp only [Datum.overlaid_none]
  | some d =>
    obtain ⟨inner, rfl, hinner⟩ := hhigh.sections name d hupper
    cases hlower : low.get? name with
    | none => simp only [Datum.none_overlaid]
    | some d =>
      obtain ⟨below, rfl⟩ := hlow name d hlower
      exact get?_over hinner below key

theorem Layer.over (hlow : low.Layer) (hhigh : high.Layer) : (Entries.over low high).Layer := by
  refine ⟨apart_over hlow.apart high, fun name d hd ↦ ?_⟩
  rw [get?_over hhigh.apart] at hd
  cases hupper : high.get? name with
  | none =>
    rw [hupper, Datum.overlaid_none] at hd
    exact hlow.sections name d hd
  | some d' =>
    obtain ⟨inner, rfl, hinner⟩ := hhigh.sections name d' hupper
    cases hlower : low.get? name with
    | none =>
      rw [hupper, hlower, Datum.none_overlaid] at hd
      exact ⟨inner, (Option.some.inj hd).symm, hinner⟩
    | some w =>
      obtain ⟨below, rfl, hbelow⟩ := hlow.sections name w hlower
      rw [hupper, hlower] at hd
      exact ⟨_, (Option.some.inj hd).symm, apart_over hbelow inner⟩

end Entries

end GraphContracts
