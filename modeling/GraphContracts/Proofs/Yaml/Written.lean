import GraphContracts.Yaml.Block

namespace GraphContracts.Yaml

open Styled

/-- All characters are ones that every scalar can hold. -/
def Unescaped (cs : List Char) : Prop :=
  ∀ c ∈ cs, isSpecial c = false

instance (cs : List Char) : Decidable (Unescaped cs) :=
  List.decidableBAll (fun c ↦ isSpecial c = false) cs

namespace Unescaped

@[simp]
theorem nil : Unescaped [] := by
  simp [Unescaped]

@[simp]
theorem cons_iff {c : Char} {cs : List Char} :
    Unescaped (c :: cs) ↔ isSpecial c = false ∧ Unescaped cs := by
  simp [Unescaped]

@[simp]
theorem append_iff {cs ds : List Char} : Unescaped (cs ++ ds) ↔ Unescaped cs ∧ Unescaped ds := by
  simp [Unescaped, or_imp, forall_and]

@[simp]
theorem replicate_space (n : Nat) : Unescaped (List.replicate n ' ') := by
  intro c hc
  rw [List.eq_of_mem_replicate hc]
  decide

theorem ite {p : Prop} [Decidable p] {cs ds : List Char} (hcs : Unescaped cs)
    (hds : Unescaped ds) : Unescaped (if p then cs else ds) := by
  split
  · exact hcs
  · exact hds

@[simp]
theorem newLine (indent : Nat) : Unescaped (newLine indent) := by
  simp [Styled.newLine]
  decide

theorem return_not_mem {cs : List Char} (h : Unescaped cs) : '\r' ∉ cs :=
  fun hmem ↦ absurd (h '\r' hmem) (by decide)

end Unescaped

variable {spot : Spot} {column pending : Nat} {before : Option Char} {isFirst : Bool}
  {cs : List Char}

theorem unescaped_plainFrom (h : Unescaped cs) :
    Unescaped (plainFrom spot column before cs) := by
  induction cs generalizing column before with
  | nil => simp [plainFrom]
  | cons c cs ih =>
    obtain ⟨hc, hcs⟩ := Unescaped.cons_iff.1 h
    rw [plainFrom]
    refine .ite ?_ ?_
    · exact Unescaped.append_iff.2 ⟨.newLine _, ih hcs⟩
    · exact Unescaped.cons_iff.2 ⟨hc, ih hcs⟩

theorem unescaped_singleFrom (h : Unescaped cs) :
    Unescaped (singleFrom spot column before cs) := by
  induction cs generalizing column before with
  | nil => simp [singleFrom]
  | cons c cs ih =>
    obtain ⟨hc, hcs⟩ := Unescaped.cons_iff.1 h
    rw [singleFrom]
    refine .ite ?_ (.ite ?_ (.ite ?_ ?_))
    · have hbreaks : Unescaped (if before = some '\n' then ['\n'] else ['\n', '\n']) :=
        .ite (by decide) (by decide)
      have hmargin : Unescaped (if cs.head? = some '\n' then []
          else List.replicate spot.indent ' ') := .ite .nil (.replicate_space _)
      exact Unescaped.append_iff.2 ⟨Unescaped.append_iff.2 ⟨hbreaks, hmargin⟩, ih hcs⟩
    · exact Unescaped.cons_iff.2 ⟨hc, Unescaped.cons_iff.2 ⟨hc, ih hcs⟩⟩
    · exact Unescaped.append_iff.2 ⟨.newLine _, ih hcs⟩
    · exact Unescaped.cons_iff.2 ⟨hc, ih hcs⟩

theorem isSpecial_toUpper_hexDigit {n : Nat} (h : n < 16) :
    isSpecial (Text.Quoted.hexDigit n).toUpper = false := by
  revert n
  decide

theorem unescaped_hexUpper (width n : Nat) : Unescaped (hexUpper width n) := by
  induction width generalizing n with
  | zero => simp [hexUpper, Text.Quoted.hexDigits]
  | succ width ih =>
    have hlast := isSpecial_toUpper_hexDigit (Nat.mod_lt n (by decide : 0 < 16))
    simpa [hexUpper, Text.Quoted.hexDigits, hlast] using ih (n / 16)

theorem isSpecial_of_mem_escapes : ∀ p ∈ escapes, isSpecial p.2 = false := by
  decide

theorem unescaped_escape (c : Char) : Unescaped (escape c) := by
  have hcode : ∀ letter width, isSpecial letter = false →
      Unescaped ('\\' :: letter :: hexUpper width c.toNat) := by
    intro letter width hletter
    simp +decide [hletter, unescaped_hexUpper]
  rw [escape]
  split
  · rename_i letter hletter
    obtain ⟨before, after, he, -⟩ := List.lookup_eq_some_iff.1 hletter
    have hmem : (c, letter) ∈ escapes := by simp [he]
    simp +decide [isSpecial_of_mem_escapes _ hmem]
  · exact .ite (hcode 'x' 2 (by decide)) (.ite (hcode 'u' 4 (by decide)) (hcode 'U' 8 (by decide)))

theorem unescaped_doubleBreak (next : Option Char) : Unescaped (doubleBreak spot next) := by
  have hslash : Unescaped (if next = some ' ' then ['\\'] else []) := .ite (by decide) .nil
  simp +decide [doubleBreak, hslash]

theorem isSpecial_of_not_needsEscape {c : Char} (h : ¬needsEscape c = true) :
    isSpecial c = false := by
  simp only [needsEscape, Bool.or_eq_true, not_or, Bool.not_eq_true, Bool.not_eq_false'] at h
  simp [isSpecial, h.2]

theorem unescaped_doubleFrom (cs : List Char) :
    Unescaped (doubleFrom spot column pending isFirst cs) := by
  induction cs generalizing column pending isFirst with
  | nil => simp [doubleFrom]
  | cons c cs ih =>
    rw [doubleFrom]
    split
    · -- behind an escape the line may be broken
      have hescape := unescaped_escape c
      refine .ite ?_ ?_
      · exact Unescaped.append_iff.2
          ⟨Unescaped.append_iff.2 ⟨hescape, unescaped_doubleBreak _⟩, ih⟩
      · exact Unescaped.append_iff.2 ⟨hescape, ih⟩
    · rename_i hescape
      have hc := isSpecial_of_not_needsEscape hescape
      refine .ite ?_ ?_
      · exact Unescaped.append_iff.2
          ⟨unescaped_doubleBreak _, Unescaped.cons_iff.2 ⟨hc, ih⟩⟩
      · exact Unescaped.cons_iff.2 ⟨hc, ih⟩

theorem unescaped_of_isPlain (h : isPlain cs = true) : Unescaped cs := by
  cases cs with
  | nil => exact .nil
  | cons c cs =>
    simp only [isPlain, Bool.and_eq_true, Bool.not_eq_true', List.any_eq_false, Bool.or_eq_true,
      not_or, Bool.not_eq_true] at h
    exact fun d hd ↦ (h.1.1.1.1 d hd).2

theorem unescaped_of_isSingleQuotable (h : isSingleQuotable cs = true) : Unescaped cs := by
  simp only [isSingleQuotable, Bool.not_eq_true', Bool.or_eq_false_iff, List.any_eq_false,
    Bool.not_eq_true] at h
  exact h.1.1

theorem unescaped_write (spot : Spot) (s : String) : Unescaped (write spot s) := by
  rw [write]
  split
  · rename_i hplain
    exact unescaped_plainFrom (unescaped_of_isPlain (Bool.and_eq_true_iff.1 hplain).1)
  · split
    · rename_i hsingle
      have hbody := unescaped_of_isSingleQuotable (Bool.and_eq_true_iff.1 hsingle).1
      simp +decide [single, unescaped_singleFrom hbody]
    · simp +decide [double, unescaped_doubleFrom]

namespace Block

theorem unescaped_writeKey (indent : Nat) (key : String) : Unescaped (writeKey indent key).1 := by
  rw [writeKey]
  split <;> simp +decide [unescaped_write]

mutual

theorem unescaped_writeValue (indent column : Nat) (inLine : Bool) :
    (b : Block) → Unescaped (writeValue indent column inLine b)
  | .flag b => by
    rw [writeValue]
    cases b <;> decide
  | .text s => by
    simp +decide [writeValue, unescaped_write]
  | .mapping entries => by
    have hentries := unescaped_writeEntries (indent + 2) entries
    rw [writeValue]
    refine .ite (by decide) ?_
    cases inLine <;> simp +decide [hentries]

theorem unescaped_writeEntries (indent : Nat) :
    (entries : List (String × Block)) → Unescaped (writeEntries indent entries)
  | [] => by simp [writeEntries]
  | (key, value) :: more => by
    have hkey := unescaped_writeKey indent key
    have hvalue := unescaped_writeValue indent (writeKey indent key).2 (!isSimpleKey key) value
    have hline : Unescaped (if more.isEmpty then [] else Styled.newLine indent) :=
      .ite .nil (.newLine _)
    have hmore := unescaped_writeEntries indent more
    simp only [writeEntries, Unescaped.append_iff]
    exact ⟨⟨⟨hkey, hvalue⟩, hline⟩, hmore⟩

end

/-- Every document, whatever texts it holds, is made of line feeds and visible ASCII. -/
theorem unescaped_document (entries : List (String × Block)) :
    Unescaped (document entries).toList := by
  simp +decide [document, unescaped_writeEntries]

end Block

end GraphContracts.Yaml
