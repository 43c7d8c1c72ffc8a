import GraphContracts.Proofs.Symbol.Written
import Mathlib.Data.List.Basic

namespace GraphContracts

namespace Text

theorem digitValue?_of_isDigit {c : Char} (h : c.isDigit = true) :
    digitValue? c = some (c.toNat - 48) := by
  have hrange : 48 ≤ c.toNat ∧ c.toNat < 58 := by
    simp only [Char.isDigit, Bool.and_eq_true, decide_eq_true_eq] at h
    exact ⟨h.1, Nat.lt_succ_of_le h.2⟩
  unfold digitValue? digitZeros
  rw [List.find?_cons_of_pos (by simpa using hrange)]
  rfl

theorem isDigit_of_isDigit {c : Char} (h : c.isDigit = true) : isDigit c = true := by
  rw [isDigit, digitValue?_of_isDigit h]
  rfl

theorem digitsValue_toDigits (n : Nat) : digitsValue (Nat.toDigits 10 n) = n := by
  have hsame : ∀ cs : List Char, (∀ c ∈ cs, c.isDigit = true) →
      digitsValue cs = Nat.ofDigitChars 10 cs 0 := by
    intro cs hcs
    refine List.foldl_ext _ _ _ fun m c hc ↦ ?_
    rw [digitValue?_of_isDigit (hcs c hc)]
    rfl
  rw [hsame _ fun c ↦ Nat.isDigit_of_mem_toDigits (by decide) (by decide),
    Nat.ofDigitChars_ten_toDigits]

end Text

namespace Symbol

open Text

/-- A name that a variable can be written with, with or without its dollar sign. -/
structure IsVariableName (x : String) : Prop where
  ne_empty : x ≠ ""
  ne_dollar : x ≠ "$"
  plain : ∀ c ∈ "()@\n".toList, c ∉ x.toList
  no_mark : ¬".local$".toList <:+: x.toList

/-- What a symbol tells: the method, the variable and the line. -/
structure Tells (symbol method name : String) (line : Option Nat) : Prop where
  scope_eq : scope (some symbol) = some method
  variableName_eq : variableName (some symbol) = some name
  declarationLine_eq : declarationLine (some symbol) = .ok line

variable {scope name rest line : List Char} {symbol method x : String}

theorem IsVariableName.exists_name (h : IsVariableName x) : ∃ name,
    (normalizeVariable x).toList = '$' :: name ∧ name ≠ [] ∧
    (∀ c ∈ "()@\n".toList, c ∉ name) ∧ ¬".local$".toList <:+: name := by
  rw [toList_normalizeVariable]
  split
  · rename_i hdollar
    obtain ⟨name, hname⟩ := List.head?_eq_some_iff.1 hdollar
    refine ⟨name, hname, ?_, fun c hc hmem ↦ h.plain c hc ?_, fun hmark ↦ h.no_mark ?_⟩
    · rintro rfl
      exact h.ne_dollar (String.toList_inj.1 hname)
    · simp [hname, hmem]
    · rw [hname]
      exact List.infix_cons hmark
  · exact ⟨x.toList, rfl, by simpa using h.ne_empty, h.plain, h.no_mark⟩

theorem tells_of_shape {shape : Shape} {n : String} {l : Option Nat}
    (h : shape? symbol = some shape) (hscope : shape.scope = method) (hname : shape.name? = some n)
    (hline : declarationLine (some symbol) = .ok l) : Tells symbol method n l := by
  constructor
  · rw [Symbol.scope, Option.bind_some, h, Option.map_some, hscope]
  · rw [variableName, Option.bind_some, h, Option.bind_some, hname]
  · exact hline

theorem declarationLine_of_shape {shape : Shape} (h : shape? symbol = some shape)
    (hline : shape.lineDigits? = none) : declarationLine (some symbol) = .ok none := by
  rw [declarationLine, Option.bind_some, h, Option.bind_some, hline]

theorem readParameter?_written (hscope : oneLine scope = true) (hname : name ≠ [])
    (hplain : ∀ c ∈ name, isParenthesis c = false) :
    readParameter? (scope ++ ".(".toList ++ name ++ [')']) = some (.parameter scope name) := by
  have hline : dropFinalNewline (scope ++ ".(".toList ++ name ++ [')']) =
      scope ++ ".(".toList ++ name ++ [')'] :=
    if_neg (by rw [List.getLast?_append_of_ne_nil _ (List.cons_ne_nil _ _)]; decide)
  have hreverse : (scope ++ ".(".toList ++ name ++ [')']).reverse =
      ')' :: (name.reverse ++ '(' :: '.' :: scope.reverse) := by simp
  have hstop : (name.reverse ++ '(' :: '.' :: scope.reverse).takeWhile
      (fun c ↦ !isParenthesis c) = name.reverse := by
    rw [List.takeWhile_append_of_pos]
    · simp [isParenthesis]
    · intro c hc
      simpa using hplain c (List.mem_reverse.1 hc)
  rw [readParameter?, hline, hreverse]
  simp only [hstop, List.drop_left]
  simp_all [oneLine]

theorem readLocalName?_bare (hname : name ≠ []) (hat : '@' ∉ name) :
    readLocalName? ('$' :: name) = some ('$' :: name, []) := by
  have hstop : name.takeWhile (· ≠ '@') = name := by
    refine List.takeWhile_eq_self_iff.2 fun c hc ↦ ?_
    simpa using fun (he : c = '@') ↦ hat (he ▸ hc)
  rw [readLocalName?]
  dsimp only
  rw [hstop, List.drop_length]
  simp [hname]

theorem oneLine_eq_true {cs : List Char} : oneLine cs = true ↔ '\n' ∉ cs := by
  simp [oneLine]

theorem tells_parameter (hmethod : '\n' ∉ method.toList) (hx : IsVariableName x) :
    Tells (parameterFragment method x) method (normalizeVariable x) none := by
  obtain ⟨name, hname, -, hplain, -⟩ := hx.exists_name
  have hspelled : (parameterFragment method x).toList =
      method.toList ++ ".(".toList ++ (normalizeVariable x).toList ++ [')'] := by
    simp [parameterFragment]
  have hparenthesis : ∀ c ∈ (normalizeVariable x).toList, isParenthesis c = false := by
    intro c hc
    rw [Bool.eq_false_iff, isParenthesis, Ne, Bool.or_eq_true, decide_eq_true_eq,
      decide_eq_true_eq]
    rw [hname] at hc
    rintro (rfl | rfl)
    · exact hplain '(' (by decide) (by simpa using hc)
    · exact hplain ')' (by decide) (by simpa using hc)
  have hshape : shape? (parameterFragment method x) =
      some (.parameter method.toList (normalizeVariable x).toList) := by
    rw [shape?, hspelled,
      readParameter?_written (oneLine_eq_true.2 hmethod) (by simp [hname]) hparenthesis]
    rfl
  refine tells_of_shape hshape ?_ ?_ (declarationLine_of_shape hshape rfl)
  · simp [Shape.scope]
  · simp [Shape.name?]

theorem toList_localFragment (method x : String) : (localFragment method x).toList =
    method.toList ++ (".local".toList ++ (normalizeVariable x).toList) := by
  simp [localFragment]

theorem tells_local (hmethod : '\n' ∉ method.toList) (hx : IsVariableName x) :
    Tells (localFragment method x) method (normalizeVariable x) none := by
  obtain ⟨name, hname, hne, hplain, hmark⟩ := hx.exists_name
  have hlast : ∀ c ∈ "()@\n".toList, ('$' :: name).getLast? ≠ some c := by
    intro c hc h
    rw [List.getLast?_cons_of_ne_nil hne] at h
    exact hplain c hc (List.mem_of_getLast? h)
  have hshape : shape? (localFragment method x) =
      some (.localVariable method.toList ('$' :: name) []) := by
    refine shape?_of_mark (oneLine_eq_true.2 hmethod)
      (readLocalName?_bare hne (hplain _ (by decide))) (fun h ↦ hmark (mark_infix_cons h))
      (hlast _ (by decide)) (hlast _ (by decide)) ?_
    rw [toList_localFragment, hname]
  rw [← hname] at hshape
  refine tells_of_shape hshape ?_ ?_ (declarationLine_of_shape hshape rfl)
  · simp [Shape.scope]
  · simp [Shape.name?]

theorem tells_local_at_line (hmethod : '\n' ∉ method.toList) (hx : IsVariableName x) {n : Nat}
    (hn : (toString n).length ≤ digitLimit) :
    Tells (localFragment method x ++ "@" ++ toString n) method (normalizeVariable x) (some n) := by
  obtain ⟨name, hname, hne, hplain, hmark⟩ := hx.exists_name
  have hdigits : (toString n).toList = Nat.toDigits 10 n := by
    rw [Nat.toString_eq_repr, Nat.toList_repr]
  have hshape : shape? (localFragment method x ++ "@" ++ toString n) =
      some (.localVariable method.toList ('$' :: name) (Nat.toDigits 10 n)) := by
    refine shape?_local_at_line (oneLine_eq_true.2 hmethod) hne (hplain _ (by decide)) hmark
      Nat.toDigits_ne_nil (fun c hc ↦ ?_) ?_
    · exact isDigit_of_isDigit (Nat.isDigit_of_mem_toDigits (by decide) (by decide) hc)
    · simp only [String.toList_append, toList_localFragment, hname, hdigits]
      simp
  rw [← hname] at hshape
  obtain ⟨d, ds, hcons⟩ := List.exists_cons_of_ne_nil (Nat.toDigits_ne_nil (b := 10) (n := n))
  have hlength : (d :: ds).length ≤ digitLimit := by
    rwa [← hcons, ← hdigits, String.length_toList]
  refine tells_of_shape hshape ?_ ?_ ?_
  · simp [Shape.scope]
  · simp [Shape.name?]
  · rw [declarationLine, Option.bind_some, hshape, Option.bind_some, hcons, Shape.lineDigits?]
    dsimp only
    rw [if_neg (Nat.not_lt.2 hlength), ← hcons, digitsValue_toDigits]

theorem readLocalName?_cases {cs : List Char} (hline : '\n' ∉ cs)
    (h : readLocalName? cs = some (name, line)) :
    cs = name ∨ line ≠ [] ∧ (∀ d ∈ line, isDigit d = true) ∧ cs = name ++ '@' :: line := by
  unfold readLocalName? at h
  split at h
  · rename_i rest
    have hrest := takeWhile_append_drop (· ≠ '@') rest
    dsimp only at h
    split at h
    · cases h
    · split at h
      · rename_i hdrop
        cases h
        rw [hdrop, List.append_nil] at hrest
        exact .inl (by rw [hrest])
      · rename_i c tail hdrop
        obtain ⟨hdigits, h⟩ := Option.ite_none_right_eq_some.1 h
        cases h
        -- what stops the name is the sign, since nothing else ends the run
        have hat : c = '@' := by
          have hdropWhile : rest.dropWhile (· ≠ '@') = c :: tail := by
            rw [← hdrop]
            exact (List.append_cancel_left (hrest.trans List.takeWhile_append_dropWhile.symm)).symm
          have hstop := List.head?_dropWhile_not (· ≠ '@') rest
          rw [hdropWhile] at hstop
          simpa using hstop
        have htail : dropFinalNewline tail = tail := by
          refine if_neg fun hlast ↦ hline ?_
          rw [← hrest, hdrop]
          simp [List.mem_of_getLast? hlast]
        rw [htail, Bool.and_eq_true, List.all_eq_true] at hdigits
        rw [htail]
        refine .inr ⟨by simpa using hdigits.1, hdigits.2, ?_⟩
        subst hat
        rw [List.cons_append, ← hdrop, hrest]
  · cases h

theorem toList_of_local (hsymbol : '\n' ∉ symbol.toList)
    (h : shape? symbol = some (.localVariable scope name line)) :
    symbol.toList = scope ++ ".local".toList ++ name ∨ line ≠ [] ∧
      (∀ d ∈ line, isDigit d = true) ∧
      symbol.toList = scope ++ ".local".toList ++ name ++ '@' :: line := by
  obtain ⟨rest, hcs, hname⟩ := exists_of_localVariable h
  have hrest : '\n' ∉ rest := fun hmem ↦ hsymbol (by simp [hcs, hmem])
  obtain rfl | ⟨hne, hdigits, rfl⟩ := readLocalName?_cases hrest hname
  · exact .inl hcs
  · exact .inr ⟨hne, hdigits, by simp [hcs]⟩

theorem toList_of_parameter_line (hsymbol : '\n' ∉ symbol.toList)
    (h : shape? symbol = some (.parameter scope name)) :
    symbol.toList = scope ++ ".(".toList ++ name ++ [')'] := by
  obtain ⟨newline, hcs, -, rfl | rfl⟩ := toList_of_parameter h
  · exact hcs
  · exact absurd (by simp [hcs]) hsymbol

/-- A symbol that names a variable is the fragment of a parameter, with or without the dollar sign,
or that of a local, perhaps with the digits of a line. -/
def IsWritten (symbol method name : String) : Prop :=
  (∃ y, symbol = method ++ ".(" ++ y ++ ")" ∧ normalizeVariable y = name) ∨
    symbol = method ++ ".local" ++ name ∨
    ∃ digits : List Char, digits ≠ [] ∧ (∀ d ∈ digits, isDigit d = true) ∧
      symbol = method ++ ".local" ++ name ++ "@" ++ String.ofList digits

theorem isWritten_of_variableName {n : String} (hsymbol : '\n' ∉ symbol.toList)
    (h : variableName (some symbol) = some n) :
    ∃ method, Symbol.scope (some symbol) = some method ∧ IsWritten symbol method n := by
  rw [variableName, Option.bind_some] at h
  obtain ⟨shape, hshape, hname⟩ := Option.bind_eq_some_iff.1 h
  refine ⟨shape.scope, by rw [Symbol.scope, Option.bind_some, hshape, Option.map_some], ?_⟩
  cases shape with
  | parameter scope name =>
    refine .inl ⟨String.ofList name, String.toList_inj.1 ?_, Option.some.inj hname⟩
    simp [Shape.scope, toList_of_parameter_line hsymbol hshape]
  | localVariable scope name line =>
    obtain rfl := Option.some.inj hname
    obtain hcs | ⟨hne, hdigits, hcs⟩ := toList_of_local hsymbol hshape
    · refine .inr (.inl (String.toList_inj.1 ?_))
      simp [Shape.scope, hcs]
    · refine .inr (.inr ⟨line, hne, hdigits, String.toList_inj.1 ?_⟩)
      simp [Shape.scope, hcs]
  | method scope => cases hname

/-- What is written for a variable of a method is read as it was written, whatever the method
spells: the method, the variable with its dollar sign, and the line if one was written. A symbol
that names a variable is written so. -/
theorem tells_written :
    (∀ method x : String, '\n' ∉ method.toList → IsVariableName x →
      Tells (parameterFragment method x) method (normalizeVariable x) none ∧
      Tells (localFragment method x) method (normalizeVariable x) none ∧
      ∀ n : Nat, (toString n).length ≤ digitLimit →
        Tells (localFragment method x ++ "@" ++ toString n) method (normalizeVariable x) (some n)) ∧
    ∀ symbol n : String, '\n' ∉ symbol.toList → variableName (some symbol) = some n →
      ∃ method, Symbol.scope (some symbol) = some method ∧ IsWritten symbol method n := by
  constructor
  · intro method x hmethod hx
    exact ⟨tells_parameter hmethod hx, tells_local hmethod hx,
      fun n hn ↦ tells_local_at_line hmethod hx hn⟩
  · intro symbol n hsymbol hn
    exact isWritten_of_variableName hsymbol hn

namespace NestedMarks

def inner : String :=
  "App/Service#run().($a).local$b@7"

theorem tells_nested :
    Tells (localFragment inner "order" ++ "@" ++ toString 25) inner "$order" (some 25) ∧
    Tells (parameterFragment inner "order") inner "$order" none ∧
    ∃ outer, Symbol.scope (some inner) = some outer ∧ IsWritten inner outer "$b" := by
  have horder : IsVariableName "order" := ⟨by decide, by decide, by simp, by decide⟩
  obtain ⟨hparameter, -, hline⟩ := tells_written.1 inner "order" (by decide) horder
  exact ⟨hline 25 (by decide), hparameter, tells_written.2 inner "$b" (by decide) (by decide)⟩

end NestedMarks

end Symbol

end GraphContracts
