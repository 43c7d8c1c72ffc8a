import GraphContracts.Documents
import GraphContracts.Proofs.Outcome
import Mathlib.Data.List.TakeWhile
import Mathlib.Tactic.SplitIfs

namespace GraphContracts.Json

variable {α β : Type} {n fuel : Nat} {cs tail rest : List Char} {x : Step α}

/-- Somewhere in a text stands a run of `n` digits, more than are read as an integer. -/
structure HoldsLong (n : Nat) (cs : List Char) : Prop where
  exceeds : integerLimit < n
  digits : ∃ before digits after, cs = before ++ (digits ++ after) ∧ digits.length = n ∧
    (∀ c ∈ digits, isAsciiDigit c = true) ∧ ∀ c ∈ after.head?, isAsciiDigit c = false

theorem HoldsLong.of_suffix (h : HoldsLong n tail) (hsuffix : tail <:+ cs) : HoldsLong n cs := by
  obtain ⟨more, rfl⟩ := hsuffix
  obtain ⟨hn, before, digits, after, rfl, hdigits⟩ := h
  exact ⟨hn, more ++ before, digits, after, (List.append_assoc _ _ _).symm, hdigits⟩

/-- Reading stays within a text: what is left stands at its end, and an integer that is too long
stands in it. -/
def Within (cs : List Char) (x : Step α) : Prop :=
  match x with
  | .ok (_, rest) => rest <:+ cs
  | .error e => ∀ n, e.cause = .longInteger n → HoldsLong n cs

theorem Within.of_suffix (h : Within tail x) (hsuffix : tail <:+ cs) : Within cs x := by
  cases x with
  | ok r => exact List.IsSuffix.trans h hsuffix
  | error e => exact fun n hn ↦ (h n hn).of_suffix hsuffix

theorem Within.map {f : α × List Char → β × List Char} (h : Within cs x)
    (hf : ∀ r, (f r).2 = r.2) : Within cs (x.map f) := by
  cases x with
  | ok r => 
    show (f r).2 <:+ cs
    rw [hf]
    exact h
  | error e => exact h

theorem within_error {cause : Cause} {place : Nat} (h : ∀ n, cause ≠ .longInteger n) :
    Within cs (.error ⟨cause, place⟩ : Step α) :=
  fun n hn ↦ absurd hn (h n)

theorem skipSpace_suffix (cs : List Char) : skipSpace cs <:+ cs :=
  List.dropWhile_suffix _

theorem cause_of_readLowHalf {e : Fault} (h : readLowHalf cs = .error e) :
    e.cause = .unicodeEscape := by
  unfold readLowHalf at h
  split at h
  · split_ifs at h
    split at h
    · cases h
      rfl
    · cases h
  · cases h

theorem cause_of_readCodePoint {e : Fault} (h : readCodePoint cs = .error e) :
    e.cause = .unicodeEscape := by
  unfold readCodePoint at h
  split at h
  · split at h
    · split_ifs at h
      split at h
      · rename_i hlow
        cases h
        exact cause_of_readLowHalf hlow
      · cases h
      · cases h
    · cases h
      rfl
  · cases h
    rfl

theorem cause_of_readEscape {opening : Nat} {e : Fault} (h : readEscape opening cs = .error e)
    (n : Nat) : e.cause ≠ .longInteger n := by
  unfold readEscape at h
  split at h
  · cases h
    nofun
  · split_ifs at h
    · rw [cause_of_readCodePoint (map_eq_error_iff.1 h)]
      nofun
    · split at h
      · cases h
      · cases h
        nofun

theorem within_readText (opening skip : Nat) (cs : List Char) :
    Within cs (readText opening skip cs) := by
  induction cs generalizing skip with
  | nil => exact within_error nofun
  | cons c tail ih =>
    have htail : tail <:+ c :: tail := List.suffix_cons c tail
    cases skip with
    | succ skip => exact (ih skip).of_suffix htail
    | zero =>
      rw [readText]
      split_ifs
      · exact htail
      · split
        · rename_i e he
          exact within_error (cause_of_readEscape he)
        · rename_i d length _
          exact .of_suffix (.map (ih length) fun _ ↦ rfl) htail
      · exact within_error nofun
      · exact .of_suffix (.map (ih 0) fun _ ↦ rfl) htail

theorem wholeDigits_append (cs : List Char) : ∃ after, cs = wholeDigits cs ++ after ∧
    (∀ c ∈ wholeDigits cs, isAsciiDigit c = true) ∧
    (1 < (wholeDigits cs).length → ∀ c ∈ after.head?, isAsciiDigit c = false) := by
  cases cs with
  | nil => exact ⟨[], rfl, nofun, nofun⟩
  | cons c tail =>
    simp only [wholeDigits]
    split_ifs with hzero hdigit
    · subst hzero
      exact ⟨tail, rfl, by simp [isAsciiDigit], by simp⟩
    · refine ⟨tail.dropWhile isAsciiDigit, ?_, ?_, fun _ d hd ↦ ?_⟩
      · rw [List.cons_append, List.takeWhile_append_dropWhile]
      · exact List.forall_mem_cons.2 ⟨hdigit, fun _ ↦ List.mem_takeWhile_imp⟩
      · have hnot := List.head?_dropWhile_not isAsciiDigit tail
        rw [Option.mem_def.1 hd] at hnot
        exact hnot
    · exact ⟨c :: tail, rfl, nofun, nofun⟩

theorem within_readNumber (start : Nat) (negative : Bool) (cs : List Char) :
    Within cs (readNumber start negative cs) := by
  obtain ⟨after, hcs, hdigits, hafter⟩ := wholeDigits_append cs
  have hwhole : cs.drop (wholeDigits cs).length <:+ cs := List.drop_suffix _ _
  have hfraction : ∀ length, (cs.drop (wholeDigits cs).length).drop length <:+ cs :=
    fun length ↦ (List.drop_suffix _ _).trans hwhole
  simp only [readNumber]
  split
  · exact within_error nofun
  · split
    · split
      · rename_i hlong
        intro n hn
        cases hn
        exact ⟨hlong, [], _, after, hcs, rfl, hdigits, hafter (Nat.lt_trans (by decide) hlong)⟩
      · exact hwhole
    · rename_i hfew
      rw [hfew]
      exact hfraction _
    · refine (List.drop_suffix _ _).trans ?_
      split
      · exact hwhole
      · exact hfraction _

theorem within_readScalar (cs : List Char) : Within cs (readScalar cs) := by
  unfold readScalar
  split
  · exact List.drop_suffix _ _
  · split
    · exact .of_suffix (.map (within_readText _ 0 _) fun _ ↦ rfl) (List.suffix_cons _ _)
    · exact (within_readNumber _ true _).of_suffix (List.suffix_cons _ _)
    · exact within_readNumber _ false _

/-- All three readings that are nested in each other stay within their texts. -/
structure StayWithin (fuel : Nat) : Prop where
  value : ∀ cs, Within cs (readValue fuel cs)
  items : ∀ cs, Within cs (readItems fuel cs)
  members : ∀ cs, Within cs (readMembers fuel cs)

theorem within_readValue (ih : StayWithin fuel) (cs : List Char) :
    Within cs (readValue (fuel + 1) cs) := by
  rw [readValue.eq_def]
  simp only
  split
  · rename_i tail
    have htail := (skipSpace_suffix tail).trans (List.suffix_cons '[' tail)
    split
    · rename_i rest hspace
      exact (List.suffix_cons _ _).trans (hspace ▸ htail)
    · exact .of_suffix (.map (ih.items _) fun _ ↦ rfl) htail
  · rename_i tail
    have htail := (skipSpace_suffix tail).trans (List.suffix_cons '\x7b' tail)
    split
    · rename_i rest hspace
      exact (List.suffix_cons _ _).trans (hspace ▸ htail)
    · exact .of_suffix (.map (ih.members _) fun _ ↦ rfl) htail
  · exact within_readScalar cs

theorem within_readItems (ih : StayWithin fuel) (cs : List Char) :
    Within cs (readItems (fuel + 1) cs) := by
  rw [readItems.eq_def]
  simp only
  have hvalue := ih.value cs
  split
  · rename_i e he
    rw [he] at hvalue
    exact hvalue
  · rename_i d after hd
    rw [hd] at hvalue
    have hafter : skipSpace after <:+ cs := (skipSpace_suffix after).trans hvalue
    split
    · rename_i rest hspace
      exact (List.suffix_cons _ _).trans (hspace ▸ hafter)
    · rename_i more hspace
      have hmore := (List.suffix_cons _ _).trans (hspace ▸ hafter)
      exact .of_suffix (.map (ih.items _) fun _ ↦ rfl) ((skipSpace_suffix more).trans hmore)
    · exact within_error nofun

theorem within_readMembers (ih : StayWithin fuel) (cs : List Char) :
    Within cs (readMembers (fuel + 1) cs) := by
  rw [readMembers.eq_def]
  simp only
  -- in each step what is left is a suffix of what the step before left
  split
  · rename_i tail
    have hkey := (within_readText ('\x22' :: tail).length 0 tail).of_suffix
      (List.suffix_cons '\x22' tail)
    split
    · rename_i e he
      rw [he] at hkey
      exact hkey
    · rename_i key afterKey hread
      rw [hread] at hkey
      have hafterKey := (skipSpace_suffix afterKey).trans hkey
      split
      · rename_i afterColon hcolon
        have hafterColon := (skipSpace_suffix afterColon).trans
          ((List.suffix_cons _ _).trans (hcolon ▸ hafterKey))
        have hvalue := (ih.value (skipSpace afterColon)).of_suffix hafterColon
        split
        · rename_i e he
          rw [he] at hvalue
          exact hvalue
        · rename_i d after hd
          rw [hd] at hvalue
          have hafter := (skipSpace_suffix after).trans hvalue
          split
          · rename_i rest hspace
            exact (List.suffix_cons _ _).trans (hspace ▸ hafter)
          · rename_i more hspace
            have hmore := (List.suffix_cons _ _).trans (hspace ▸ hafter)
            exact .of_suffix (.map (ih.members _) fun _ ↦ rfl)
              ((skipSpace_suffix more).trans hmore)
          · exact within_error nofun
      · exact within_error nofun
  · exact within_error nofun

theorem stayWithin (fuel : Nat) : StayWithin fuel := by
  induction fuel with
  | zero =>
    refine ⟨fun cs ↦ ?_, fun cs ↦ ?_, fun cs ↦ ?_⟩
    · rw [readValue]
      exact within_error nofun
    · rw [readItems]
      exact within_error nofun
    · rw [readMembers]
      exact within_error nofun
  | succ fuel ih => exact ⟨within_readValue ih, within_readItems ih, within_readMembers ih⟩

theorem holdsLong_of_read {e : Fault} (h : read cs = .error e) (hn : e.cause = .longInteger n) :
    HoldsLong n cs := by
  unfold read at h
  split at h
  · cases h
    cases hn
  · have hvalue := ((stayWithin (2 * cs.length + 2)).value (skipSpace cs)).of_suffix
      (skipSpace_suffix cs)
    split at h
    · rename_i he
      rw [he] at hvalue
      cases h
      exact hvalue n hn
    · split at h
      · cases h
      · cases h
        cases hn

end GraphContracts.Json
