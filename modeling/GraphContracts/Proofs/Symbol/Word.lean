import GraphContracts.Index.Query
import Mathlib.Data.List.DropRight

namespace GraphContracts

namespace Text

/-- A word stands at the end of a text, with nothing but white space behind it. -/
structure EndsInWord (cs w : List Char) : Prop where
  ne_nil : w ≠ []
  unbroken : ∀ c ∈ w, isBlank c = false
  placed : ∃ before after, cs = before ++ w ++ after ∧ (∀ c ∈ after, isBlank c = true) ∧
    (before = [] ∨ ∃ c, before.getLast? = some c ∧ isBlank c = true)

def IsBlankText (cs : List Char) : Prop :=
  ∀ c ∈ cs, isBlank c = true

instance (cs : List Char) : Decidable (IsBlankText cs) :=
  decidable_of_iff (cs.all isBlank = true) List.all_eq_true

variable {cs w : List Char}

theorem wordsFrom_unbroken (hw : ∀ c ∈ w, isBlank c = false) (current : List Char) :
    wordsFrom current w = wordsFrom (w.reverse ++ current) [] := by
  induction w generalizing current with
  | nil => rfl
  | cons c w ih =>
    obtain ⟨hc, hw⟩ := List.forall_mem_cons.1 hw
    simp only [wordsFrom, hc, Bool.false_eq_true, if_false, ih hw]
    simp

theorem words_unbroken (hne : w ≠ []) (hw : ∀ c ∈ w, isBlank c = false) : words w = [w] := by
  rw [words, wordsFrom_unbroken hw]
  simp [wordsFrom, hne]

theorem wordsFrom_append_blank {after : List Char} (hafter : IsBlankText after)
    (current : List Char) : wordsFrom current (cs ++ after) = wordsFrom current cs := by
  induction cs generalizing current with
  | nil =>
    induction after generalizing current with
    | nil => rfl
    | cons c after ih =>
      obtain ⟨hc, hafter⟩ := List.forall_mem_cons.1 hafter
      have hrest : wordsFrom [] after = [] := ih hafter []
      simp [wordsFrom, hc, hrest]
  | cons c cs ih => simp only [List.cons_append, wordsFrom, ih]

theorem wordsFrom_append_cons {b : Char} (hb : isBlank b = true) (before current : List Char) :
    wordsFrom current (before ++ b :: cs) = wordsFrom current before ++ words cs := by
  induction before generalizing current with
  | nil =>
    simp only [List.nil_append, wordsFrom, hb, if_true, words]
    split <;> rfl
  | cons c before ih =>
    simp only [List.cons_append, wordsFrom, ih]
    split
    · split <;> rfl
    · rfl

theorem words_eq_append (h : EndsInWord cs w) : ∃ ws, words cs = ws ++ [w] := by
  obtain ⟨before, after, rfl, hafter, hbefore⟩ := h.placed
  rw [words, wordsFrom_append_blank hafter]
  obtain rfl | ⟨b, hlast, hb⟩ := hbefore
  · exact ⟨[], words_unbroken h.ne_nil h.unbroken⟩
  · obtain ⟨front, rfl⟩ := List.getLast?_eq_some_iff.1 hlast
    refine ⟨words front, ?_⟩
    rw [List.append_assoc, List.singleton_append, wordsFrom_append_cons hb,
      words_unbroken h.ne_nil h.unbroken]
    rfl

theorem exists_endsInWord (h : ¬IsBlankText cs) : ∃ w, EndsInWord cs w := by
  set trimmed := cs.rdropWhile isBlank with htrimmed
  have hne : trimmed ≠ [] := by rwa [htrimmed, ne_eq, List.rdropWhile_eq_nil_iff]
  have hlast : isBlank (trimmed.getLast hne) = false :=
    Bool.eq_false_iff.2 (List.rdropWhile_last_not isBlank cs hne)
  refine ⟨trimmed.rtakeWhile (!isBlank ·), ?_, ?_, trimmed.rdropWhile (!isBlank ·),
    cs.rtakeWhile isBlank, ?_, ?_, ?_⟩
  · intro hnil
    simpa [hlast] using List.rtakeWhile_eq_nil_iff.1 hnil hne
  · intro c hc
    simpa using List.mem_rtakeWhile_imp hc
  · rw [List.rdropWhile_append_rtakeWhile, htrimmed, List.rdropWhile_append_rtakeWhile]
  · exact fun c hc ↦ List.mem_rtakeWhile_imp hc
  · by_cases hfront : trimmed.rdropWhile (!isBlank ·) = []
    · exact .inl hfront
    · refine .inr ⟨_, List.getLast?_eq_getLast_of_ne_nil hfront, ?_⟩
      simpa using List.rdropWhile_last_not _ _ hfront

theorem words_eq_nil_iff : words cs = [] ↔ IsBlankText cs := by
  constructor
  · intro hnil
    by_contra hblank
    obtain ⟨w, hw⟩ := exists_endsInWord hblank
    obtain ⟨ws, hws⟩ := words_eq_append hw
    simp [hws] at hnil
  · intro hblank
    have happend : wordsFrom [] ([] ++ cs) = wordsFrom [] [] := wordsFrom_append_blank hblank []
    simpa [words, wordsFrom] using happend

theorem getLast?_words_eq_some_iff : (words cs).getLast? = some w ↔ EndsInWord cs w := by
  have hlast : ∀ {w'}, EndsInWord cs w' → (words cs).getLast? = some w' := by
    intro w' hw'
    obtain ⟨ws, hws⟩ := words_eq_append hw'
    rw [hws, List.getLast?_concat]
  refine ⟨fun h ↦ ?_, hlast⟩
  have hblank : ¬IsBlankText cs := by
    intro hblank
    rw [words_eq_nil_iff.2 hblank] at h
    cases h
  obtain ⟨w', hw'⟩ := exists_endsInWord hblank
  rw [hlast hw'] at h
  cases h
  exact hw'

end Text

variable {name : String} {e : Fault}

theorem lastWord?_eq_some_iff {w : String} :
    Symbol.lastWord? name = some w ↔ Text.EndsInWord name.toList w.toList := by
  rw [Symbol.lastWord?, Option.map_eq_some_iff, ← Text.getLast?_words_eq_some_iff]
  constructor
  · intro ⟨cs, hcs, hw⟩
    rwa [← hw, String.toList_ofList]
  · intro hlast
    exact ⟨w.toList, hlast, String.ofList_toList⟩

/-- The descriptor of a name is the last word of it, if the name is not empty. -/
theorem descriptor_eq_ok_iff {w : String} : descriptor name = .ok w ↔
    name = "" ∧ w = "" ∨ Text.EndsInWord name.toList w.toList := by
  have hempty : ¬Text.EndsInWord [] w.toList := by
    intro h
    rw [← Text.getLast?_words_eq_some_iff] at h
    cases h
  rw [← lastWord?_eq_some_iff, descriptor]
  split
  · rename_i hname
    subst hname
    rw [lastWord?_eq_some_iff, Except.ok.injEq, eq_comm]
    simp [hempty]
  · rename_i hname
    split <;> simp_all

theorem descriptor_eq_error_iff : descriptor name = .error e ↔
    e = .noWords ∧ name ≠ "" ∧ Text.IsBlankText name.toList := by
  rw [← Text.words_eq_nil_iff, descriptor, Symbol.lastWord?]
  split
  · rename_i hname
    simp [hname]
  · rename_i hname
    cases hlast : (Text.words name.toList).getLast? with
    | none => simp [List.getLast?_eq_none_iff.1 hlast, hname, eq_comm]
    | some w =>
      have hne : Text.words name.toList ≠ [] := by
        intro hnil
        simp [hnil] at hlast
      simp [hne]

end GraphContracts
