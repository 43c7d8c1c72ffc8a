import GraphContracts.Config.Model
import GraphContracts.Proofs.Config.Environment
import GraphContracts.Proofs.Reading.Graph

namespace GraphContracts

open Schema

namespace Schema

variable {α : Type} {read : Datum → Checked α} {default a : α}

/-- A field has the validated value of a key that is set, and otherwise its default. -/
def Taken (read : Datum → Checked α) (default : α) (value : Option Datum) (a : α) : Prop :=
  match value with
  | none => a = default
  | some d => read d = .valid a

theorem taken_of_withDefault {key : String} {es : Entries}
    (h : withDefault [key] default read es = .valid a) : Taken read default (es.get? key) a := by
  obtain ⟨hnone, rfl⟩ | ⟨n, d, hd, hread⟩ := withDefault_eq_valid.1 h
  · cases hkey : es.get? key with
    | none => rfl
    | some d => simp [spelled?, hkey] at hnone
  · rw [(spelled?_singleton.1 hd).2]
    exact hread

theorem exists_of_section {name title : String} {readEntries : Entries → Checked α} {es : Entries}
    (hdefault : readEntries [] = .valid default)
    (h : withDefault [name] default (record title readEntries) es = .valid a) :
    ∃ inner, readEntries inner = .valid a ∧ ∀ key, Entries.get? key inner = es.at? name key := by
  obtain ⟨hnone, rfl⟩ | ⟨n, d, hd, hread⟩ := withDefault_eq_valid.1 h
  · refine ⟨[], hdefault, fun key ↦ ?_⟩
    have hmissing : es.get? name = none := by
      cases hname : es.get? name with
      | none => rfl
      | some d => simp [spelled?, hname] at hnone
    rw [Entries.at?, hmissing]
    rfl
  · obtain ⟨-, hget⟩ := spelled?_singleton.1 hd
    cases d with
    | map inner => exact ⟨inner, hread, fun key ↦ by rw [Entries.at?, hget]⟩
    | _ => cases hread

/-- No entry but that under the text itself names it. Octets may name a text, too. -/
def SpelledOnce (es : Entries) (name : String) : Prop :=
  ∀ e ∈ es, text e.1 = .valid name → e.1 = .text name

theorem entries_eq_valid {es : Entries} {pairs : List (String × α)}
    (h : entries read es = .valid pairs) :
    List.Forall₂ (fun e p ↦ text e.1 = .valid p.1 ∧ read e.2 = .valid p.2) es pairs := by
  induction es generalizing pairs with
  | nil =>
    cases h
    exact .nil
  | cons e es ih =>
    simp only [entries, Checked.seq_eq_valid, Checked.map_eq_valid, Checked.within_eq_valid] at h
    obtain ⟨_, more, ⟨p, ⟨_, a, ⟨n, hn, rfl⟩, ha, rfl⟩, rfl⟩, hread, rfl⟩ := h
    exact .cons ⟨hn, ha⟩ (ih hread)

theorem lookup_assign (name other : String) (a : α) (pairs : List (String × α)) :
    (assign name a pairs).lookup other =
      if name = other then some a else pairs.lookup other := by
  induction pairs with
  | nil => rw [assign, lookup_cons_eq_ite]
  | cons p pairs ih =>
    obtain ⟨n, b⟩ := p
    rw [assign]
    by_cases hname : n = name
    · subst hname
      rw [if_pos rfl, lookup_cons_eq_ite, lookup_cons_eq_ite]
      by_cases hother : n = other <;> simp [hother]
    · rw [if_neg hname, lookup_cons_eq_ite, lookup_cons_eq_ite, ih]
      by_cases hother : n = other
      · subst hother
        simp [Ne.symm hname]
      · simp [hother]

theorem taken_foldl {es : Entries} {pairs : List (String × α)} {name : String} (hapart : es.Apart)
    (hname : SpelledOnce es name)
    (hall : List.Forall₂ (fun e p ↦ text e.1 = .valid p.1 ∧ read e.2 = .valid p.2) es pairs)
    (before : List (String × α)) :
    Taken (fun d ↦ (read d).map some) (before.lookup name) (es.get? name)
      ((pairs.foldl (fun es (n, a) ↦ assign n a es) before).lookup name) := by
  induction hall generalizing before with
  | nil => rfl
  | @cons e p es pairs hep _ ih =>
    obtain ⟨k, v⟩ := e
    obtain ⟨n, a⟩ := p
    obtain ⟨hk, hv⟩ := hep
    obtain ⟨hhead, hnames⟩ := List.forall_mem_cons.1 hname
    -- no later entry has the name again, so what was set before it is kept
    have hrest := ih (List.pairwise_cons.1 hapart).2 hnames (assign n a before)
    rw [List.foldl_cons]
    by_cases hn : n = name
    · subst hn
      obtain rfl : k = .text n := hhead hk
      have hself : Entries.get? n ((.text n, v) :: es) = some v := if_pos rfl
      rw [Entries.get?_eq_none_of_apart hapart, Taken, lookup_assign, if_pos rfl] at hrest
      rw [hself]
      exact Checked.map_eq_valid.2 ⟨a, hv, hrest.symm⟩
    · have hne : k ≠ .text name := by
        rintro rfl
        cases hk
        exact hn rfl
      rw [lookup_assign, if_neg hn] at hrest
      rwa [Entries.get?_cons_of_ne_text hne]

theorem taken_lookup {es : Entries} {pairs : List (String × α)} {name : String} (hapart : es.Apart)
    (hname : SpelledOnce es name) (h : mapping read (.map es) = .valid pairs) :
    Taken (fun d ↦ (read d).map some) none (es.get? name) (pairs.lookup name) := by
  obtain ⟨given, hgiven, rfl⟩ := Checked.map_eq_valid.1 h
  exact taken_foldl hapart hname (entries_eq_valid hgiven) []

end Schema

namespace Datum

def inner : Option Datum → Entries
  | some (.map es) => es
  | _ => []

variable {α : Type} {read : Datum → Checked α} {low told high : Option Datum} {default a : α}

/-- A value that is no mapping comes from the first source that has one. -/
theorem taken_first (hmap : ∀ es, read (.map es) ≠ .valid a)
    (htold : ∀ d ∈ told, ∃ s, d = .text s)
    (h : Taken read default (overlaid low (overlaid told high)) a) :
    Taken read default (high.or (told.or low)) a := by
  have hover : ∀ v, Taken read default (overlaid low (some v)) a →
      Taken read default (some v) a := by
    intro v hv
    cases v with
    | map es =>
      cases low with
      | none => exact hv
      | some w => cases w <;> exact absurd hv (hmap _)
    | _ => rwa [overlaid_of_not_map fun es ↦ Datum.noConfusion] at hv
  cases told with
  | none =>
    rw [none_overlaid] at h
    cases high with
    | none => rwa [overlaid_none] at h
    | some v => exact hover v h
  | some t =>
    obtain ⟨s, rfl⟩ := htold t rfl
    rw [overlaid_text] at h
    cases high with
    | none => exact hover _ h
    | some v => exact hover v h

theorem exists_merged {pairs default : List (String × α)} (hset : high.isSome ∨ low.isSome)
    (hapart : (inner low).Apart ∧ (inner high).Apart)
    (h : Taken (mapping read) default (overlaid low high) pairs) :
    ∃ merged : Entries, mapping read (.map merged) = .valid pairs ∧ merged.Apart ∧
      (∀ name, merged.get? name = overlaid ((inner low).get? name) ((inner high).get? name)) ∧
      ∀ name, SpelledOnce (inner low) name → SpelledOnce (inner high) name →
        SpelledOnce merged name := by
  cases high with
  | none =>
    rw [overlaid_none] at h
    cases low with
    | none => simp at hset
    | some d =>
      cases d with
      | map es =>
        exact ⟨es, h, hapart.1, fun name ↦ (overlaid_none _).symm, fun _ hlow _ ↦ hlow⟩
      | _ => cases h
  | some d =>
    cases d with
    -- only a table over a table is merged; anything else leaves one of them as it is
    | map upper =>
      cases low with
      | none => exact ⟨upper, h, hapart.2, fun name ↦ (none_overlaid _).symm, fun _ _ hhigh ↦ hhigh⟩
      | some w =>
        cases w with
        | map lower =>
          exact ⟨_, h, Entries.apart_over hapart.1 upper,
            fun name ↦ Entries.get?_over hapart.2 lower name,
            fun name hlow hhigh ↦ Entries.forall_mem_over
              (p := fun k ↦ Schema.text k = .valid name → k = .text name) hlow hhigh⟩
        | _ => exact ⟨upper, h, hapart.2, fun name ↦ (none_overlaid _).symm, fun _ _ hhigh ↦ hhigh⟩
    | _ =>
      rw [overlaid_of_not_map fun es ↦ Datum.noConfusion] at h
      cases h

/-- A name that is spelled once in each of two tables comes from the upper one that has it. -/
theorem taken_of_tables {pairs default : List (String × α)} {name : String}
    (hset : high.isSome ∨ low.isSome) (hapart : (inner low).Apart ∧ (inner high).Apart)
    (hlow : SpelledOnce (inner low) name) (hhigh : SpelledOnce (inner high) name)
    (hread : ∀ es a, read (.map es) ≠ .valid a)
    (h : Taken (mapping read) default (overlaid low high) pairs) :
    Taken (fun d ↦ (read d).map some) none
      (((inner high).get? name).or ((inner low).get? name)) (pairs.lookup name) := by
  obtain ⟨merged, hmerged, hmergedApart, hget, hkeys⟩ := exists_merged hset hapart h
  have hname := taken_lookup hmergedApart (hkeys name hlow hhigh) hmerged
  rw [hget, ← none_overlaid ((inner high).get? name)] at hname
  refine taken_first (fun es hes ↦ ?_) (by rintro d ⟨⟩) hname
  obtain ⟨a, ha, -⟩ := Checked.map_eq_valid.1 hes
  exact hread es a ha

end Datum

end GraphContracts
