import GraphContracts.Text.Glob
import Mathlib.Data.List.Basic

namespace GraphContracts.Text

variable {needle new front rest : List Char} {w : Char}

theorem replace_append_of_not_infix (hfront : ¬['\\', w] <:+: front) (hrest : rest.head? ≠ some w) :
    replace ['\\', w] new (front ++ rest) = front ++ replace ['\\', w] new rest := by
  induction front with
  | nil => rfl
  | cons c front ih =>
    have hno : ¬['\\', w] <+: c :: (front ++ rest) := by
      rintro ⟨after, he⟩
      obtain ⟨rfl, hmore⟩ := List.cons.inj he
      cases front with
      | nil => exact hrest (congrArg List.head? hmore).symm
      | cons d front =>
        obtain ⟨rfl, -⟩ := List.cons.inj hmore
        exact hfront (List.prefix_append ['\\', w] front).isInfix
    rw [List.cons_append, replace_cons_of_not_prefix hno,
      ih fun h ↦ hfront (List.infix_cons h), List.cons_append]

/-- In a text of pieces, the needle is replaced piece by piece, if it is a piece itself and neither
stands in another piece nor reaches from one into the next. -/
theorem replace_flatMap {f : Char → List Char} (hw : f w = ['\\', w])
    (hno : ∀ c ≠ w, ¬['\\', w] <:+: f c) (hhead : ∀ c, ∃ d ds, f c = d :: ds ∧ d ≠ w)
    (p : List Char) :
    replace ['\\', w] new (p.flatMap f) = p.flatMap fun c ↦ if c = w then new else f c := by
  induction p with
  | nil => rfl
  | cons c p ih =>
    rw [List.flatMap_cons, List.flatMap_cons, ← ih]
    split
    · rename_i h
      rw [h, hw, replace_needle_append (List.cons_ne_nil _ _)]
    · rename_i h
      refine replace_append_of_not_infix (hno c h) ?_
      cases p with
      | nil => exact nofun
      | cons e p =>
        obtain ⟨d, ds, he, hd⟩ := hhead e
        simpa [he] using hd

namespace Regex

variable {c : Char}

theorem marked_cases (c : Char) :
    c ∈ specials ∧ marked c = ['\\', c] ∨ c ∉ specials ∧ marked c = [c] := by
  unfold marked
  split
  · rename_i h
    exact .inl ⟨by simpa using h, rfl⟩
  · rename_i h
    exact .inr ⟨by simpa using h, rfl⟩

theorem not_isAlphanum_of_special (h : c ∈ specials) : c.isAlphanum = false := by
  have hall : specials.all (fun d ↦ !d.isAlphanum) = true := by decide
  simpa using List.all_eq_true.1 hall c h

theorem sign?_of_not_special (h : c ∉ specials) : sign? c = some (.atom (.char c)) := by
  have hno : ∀ d ∈ specials, c ≠ d := fun d hd he ↦ h (he ▸ hd)
  unfold sign?
  split
  · exact absurd rfl (hno '.' (by decide))
  · exact absurd rfl (hno '*' (by decide))
  · exact absurd rfl (hno '$' (by decide))
  · refine if_neg fun hc ↦ h ?_
    have hall : "^\\[\x7b()+?|".toList.all specials.contains = true := by decide
    simpa using List.all_eq_true.1 hall c (by simpa using hc)

theorem signs?_cons {cs : List Char} (h : c ≠ '\\') :
    signs? (c :: cs) = (sign? c).bind fun s ↦ (signs? cs).map (s :: ·) := by
  rw [signs?]
  exact fun _ _ hc _ ↦ h hc

theorem not_infix_marked {w : Char} (h : c ≠ w) : ¬['\\', w] <:+: marked c := by
  intro hinfix
  obtain ⟨-, hc⟩ | ⟨-, hc⟩ := marked_cases c
  · rw [hc] at hinfix
    simpa [Ne.symm h] using hinfix.eq_of_length rfl
  · rw [hc] at hinfix
    simpa using hinfix.length_le

theorem head_marked {w : Char} (hw : w ∈ specials) (hne : w ≠ '\\') (c : Char) :
    ∃ d ds, marked c = d :: ds ∧ d ≠ w := by
  obtain ⟨-, hc⟩ | ⟨hplain, hc⟩ := marked_cases c
  · exact ⟨'\\', [c], hc, Ne.symm hne⟩
  · exact ⟨c, [], hc, fun he ↦ hplain (he ▸ hw)⟩

theorem signs?_marked_append (c : Char) (rest : List Char) :
    signs? (marked c ++ rest) = (signs? rest).map (.atom (.char c) :: ·) := by
  obtain ⟨hc, h⟩ | ⟨hc, h⟩ := marked_cases c
  · have hsign : signs? ('\\' :: c :: rest) =
        if c.isAlphanum then none else (signs? rest).map (.atom (.char c) :: ·) := rfl
    rw [h, List.cons_append, List.singleton_append, hsign, not_isAlphanum_of_special hc]
    rfl
  · have hne : c ≠ '\\' := fun he ↦ hc (he ▸ by decide)
    rw [h, List.singleton_append, signs?_cons hne, sign?_of_not_special hc, Option.bind_some]

theorem pieces?_atom {a : Atom} {signs : List Sign} (h : signs.head? ≠ some .star) :
    pieces? (.atom a :: signs) = (pieces? signs).map (.one a :: ·) := by
  rw [pieces?]
  rintro _ rfl
  exact h rfl

end Regex

namespace Glob

open Regex

/-- A pattern stands for a text, or for what is left of it without the line break at its end. -/
def StandsFor (p t : List Char) : Prop :=
  Language p t ∨ ∃ line, t = line ++ ['\n'] ∧ Language p line

variable {p t : List Char} {c : Char}

def written (c : Char) : List Char :=
  if c = '?' then ['.'] else if c = '*' then ['.', '*'] else marked c

def signs (c : Char) : List Sign :=
  if c = '?' then [.atom .any] else if c = '*' then [.atom .any, .star] else [.atom (.char c)]

def piece (c : Char) : Piece :=
  if c = '?' then .one .any else if c = '*' then .many .any else .one (.char c)

/-- The stars of a marked pattern can be replaced first, and then its question marks: no mark of
another character stands before either of them. -/
theorem expression_eq (p : List Char) : expression p = '^' :: p.flatMap written ++ ['$'] := by
  let starred : Char → List Char := fun c ↦ if c = '*' then ['.', '*'] else marked c
  -- no star or question mark of another piece comes into being on the way
  have hstars : replace ['\\', '*'] ['.', '*'] (escape p) = p.flatMap starred :=
    replace_flatMap (by decide) (fun c hc ↦ not_infix_marked hc)
      (head_marked (by decide) (by decide)) p
  have hanys : replace ['\\', '?'] ['.'] (p.flatMap starred) = p.flatMap written := by
    refine replace_flatMap (by decide) (fun c hc ↦ ?_) (fun c ↦ ?_) p
    · simp only [starred]
      split
      · decide
      · exact not_infix_marked hc
    · simp only [starred]
      split
      · exact ⟨'.', ['*'], rfl, by decide⟩
      · exact head_marked (by decide) (by decide) c
  rw [expression, hstars, hanys]

theorem signs?_written_append (c : Char) (rest : List Char) :
    signs? (written c ++ rest) = (signs? rest).map (signs c ++ ·) := by
  unfold written signs
  split
  · rw [List.singleton_append, signs?_cons (by decide)]
    rfl
  · split
    · rw [List.cons_append, List.singleton_append, signs?_cons (by decide),
        signs?_cons (by decide)]
      cases signs? rest <;> rfl
    · exact signs?_marked_append c rest

theorem signs?_expression (p : List Char) :
    signs? (p.flatMap written ++ ['$']) = some (p.flatMap signs ++ [.finish]) := by
  induction p with
  | nil => rfl
  | cons c p ih =>
    rw [List.flatMap_cons, List.append_assoc, signs?_written_append, ih, Option.map_some,
      List.flatMap_cons, List.append_assoc]

theorem head?_signs (p : List Char) : (p.flatMap signs ++ [Sign.finish]).head? ≠ some .star := by
  cases p with
  | nil => exact nofun
  | cons c p =>
    rw [List.flatMap_cons, signs]
    split
    · exact nofun
    · split <;> exact nofun

theorem pieces?_signs (p : List Char) :
    pieces? (p.flatMap signs ++ [.finish]) = some (p.map piece ++ [.finish]) := by
  induction p with
  | nil => rfl
  | cons c p ih =>
    have hhead := head?_signs p
    rw [List.flatMap_cons, List.map_cons, List.append_assoc, signs, piece]
    split
    · rw [List.singleton_append, pieces?_atom hhead, ih]
      rfl
    · split
      · rw [List.cons_append, List.singleton_append, pieces?, ih]
        rfl
      · rw [List.singleton_append, pieces?_atom hhead, ih]
        rfl

theorem compile?_eq (p : List Char) : compile? p = some (p.map piece ++ [.finish]) := by
  rw [compile?, expression_eq, List.cons_append, read?, signs?_expression, Option.bind_some,
    pieces?_signs]

theorem language_nil_iff : Language [] t ↔ t = [] := by
  constructor
  · intro h
    cases h
    rfl
  · rintro rfl
    exact .nil

theorem language_star_iff :
    Language ('*' :: p) t ↔ ∃ run rest, t = run ++ rest ∧ Language p rest := by
  constructor
  · intro h
    cases h with
    | star run h => exact ⟨run, _, rfl, h⟩
    | char hstar => exact absurd rfl hstar
  · rintro ⟨run, rest, rfl, h⟩
    exact .star run h

theorem language_any_iff : Language ('?' :: p) t ↔ ∃ d rest, t = d :: rest ∧ Language p rest := by
  constructor
  · intro h
    cases h with
    | any d h => exact ⟨d, _, rfl, h⟩
    | char _ hany => exact absurd rfl hany
  · rintro ⟨d, rest, rfl, h⟩
    exact .any d h

theorem language_char_iff (hany : c ≠ '?') (hstar : c ≠ '*') :
    Language (c :: p) t ↔ ∃ rest, t = c :: rest ∧ Language p rest := by
  constructor
  · intro h
    cases h with
    | star => exact absurd rfl hstar
    | any => exact absurd rfl hany
    | char _ _ h => exact ⟨_, rfl, h⟩
  · rintro ⟨rest, rfl, h⟩
    exact .char hstar hany h

/-- A pattern fits the front of a text where it stands for some front and what follows the pattern
fits the rest. -/
theorem fits_append_iff {pieces : List Piece} :
    fits (p.map piece ++ pieces) t = true ↔
      ∃ front rest, t = front ++ rest ∧ Language p front ∧ fits pieces rest = true := by
  induction p generalizing t with
  | nil => simp [language_nil_iff]
  | cons c p ih =>
    rw [List.map_cons, List.cons_append, piece]
    split
    · -- a question mark takes one character
      rename_i hany
      subst hany
      simp only [language_any_iff]
      cases t with
      | nil => simp [fits]
      | cons d t =>
        simp only [fits, Atom.admits, Bool.true_and, ih]
        constructor
        · rintro ⟨front, rest, rfl, hp, hrest⟩
          exact ⟨d :: front, rest, rfl, ⟨d, front, rfl, hp⟩, hrest⟩
        · rintro ⟨_, rest, he, ⟨_, front, rfl, hp⟩, hrest⟩
          exact ⟨front, rest, (List.cons.inj he).2, hp, hrest⟩
    · split
      · -- a star takes a run of any length
        rename_i hstar
        subst hstar
        simp only [fits, List.any_eq_true, mem_rests_any, ih, language_star_iff]
        constructor
        · rintro ⟨_, ⟨run, rfl⟩, front, rest, rfl, hp, hrest⟩
          exact ⟨run ++ front, rest, by simp, ⟨run, front, rfl, hp⟩, hrest⟩
        · rintro ⟨_, rest, rfl, ⟨run, front, rfl, hp⟩, hrest⟩
          exact ⟨front ++ rest, ⟨run, by simp⟩, front, rest, rfl, hp, hrest⟩
      · -- any other character takes itself
        rename_i hany hstar
        simp only [language_char_iff hany hstar]
        cases t with
        | nil => simp [fits]
        | cons d t =>
          simp only [fits, Atom.admits, Bool.and_eq_true, decide_eq_true_eq, ih]
          constructor
          · rintro ⟨rfl, front, rest, rfl, hp, hrest⟩
            exact ⟨c :: front, rest, rfl, ⟨front, rfl, hp⟩, hrest⟩
          · rintro ⟨_, rest, he, ⟨front, rfl, hp⟩, hrest⟩
            obtain ⟨rfl, rfl⟩ := List.cons.inj he
            exact ⟨rfl, front, rest, rfl, hp, hrest⟩

theorem fits_finish_iff : fits [.finish] t = true ↔ t = [] ∨ t = ['\n'] := by
  simp [fits]

end Glob

theorem globMatches_some_iff {pattern text : String} :
    globMatches pattern (some text) = true ↔ Glob.StandsFor pattern.toList text.toList := by
  rw [globMatches, Option.any_some, Glob.compile?_eq, Option.any_some, Glob.fits_append_iff,
    Glob.StandsFor]
  simp only [Glob.fits_finish_iff]
  constructor
  · rintro ⟨front, rest, he, hfront, rfl | rfl⟩
    · exact .inl (by simpa [he] using hfront)
    · exact .inr ⟨front, he, hfront⟩
  · rintro (h | ⟨line, he, h⟩)
    · exact ⟨text.toList, [], by simp, h, .inl rfl⟩
    · exact ⟨line, ['\n'], he, h, .inr rfl⟩

/-- Every pattern can be read. It matches a text that is there and that it stands for, and nothing
else. -/
theorem globMatches_iff (pattern : String) :
    (∃ pieces, Glob.compile? pattern.toList = some pieces) ∧ ∀ text : Option String,
      globMatches pattern text = true ↔
        ∃ t, text = some t ∧ Glob.StandsFor pattern.toList t.toList := by
  refine ⟨⟨_, Glob.compile?_eq pattern.toList⟩, fun text ↦ ?_⟩
  cases text with
  | none => simp [globMatches]
  | some t => simp [globMatches_some_iff]

example : globMatches "*\\?\\*." (some "a\n\\b\\.\n") = true := by decide

end GraphContracts.Text
