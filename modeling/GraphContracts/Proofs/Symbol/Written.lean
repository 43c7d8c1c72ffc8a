import GraphContracts.Graph.Node
import GraphContracts.Proofs.Symbol
import GraphContracts.Symbol.Scope

namespace GraphContracts

namespace Text

variable {c : Char} {more before : List Char}

theorem occurrences_cons_of_ne {d : Char} (h : d ≠ c) (cs : List Char) :
    occurrences (c :: more) (d :: cs) =
      (occurrences (c :: more) cs).map fun (front, after) ↦ (d :: front, after) := by
  have hno : (c :: more).isPrefixOf (d :: cs) = false := by
    simp [List.isPrefixOf, Ne.symm h]
  simp [occurrences, hno]

theorem occurrences_append_of_not_mem (h : c ∉ before) (cs : List Char) :
    occurrences (c :: more) (before ++ cs) =
      (occurrences (c :: more) cs).map fun (front, after) ↦ (before ++ front, after) := by
  induction before with
  | nil => simp
  | cons d before ih =>
    rw [List.mem_cons, not_or] at h
    rw [List.cons_append, occurrences_cons_of_ne (Ne.symm h.1), ih h.2, List.map_map]
    rfl

/-- A needle whose first character does not come again stands in a text at places before a given
one, at that one, and at places in the text behind it. -/
theorem occurrences_append_needle (hmore : c ∉ more) (before after : List Char) :
    ∃ earlier, occurrences (c :: more) (before ++ (c :: more ++ after)) =
      earlier ++ (before, after) :: (occurrences (c :: more) after).map fun (front, rest) ↦
        (before ++ (c :: more ++ front), rest) := by
  induction before with
  | nil =>
    have hstart : (c :: more).isPrefixOf (c :: (more ++ after)) = true :=
      List.isPrefixOf_iff_prefix.2 (List.prefix_append (c :: more) after)
    refine ⟨[], ?_⟩
    rw [List.nil_append, List.cons_append, occurrences, hstart,
      occurrences_append_of_not_mem hmore]
    simp
  | cons d before ih =>
    obtain ⟨earlier, he⟩ := ih
    rw [List.cons_append, occurrences, he, List.map_append, List.map_cons, List.map_map]
    dsimp only
    split
    · exact ⟨_ :: _, rfl⟩
    · exact ⟨_, rfl⟩

end Text

namespace Symbol

open Text

variable {scope name digits rest line : List Char} {symbol pattern n : String}

theorem head?_of_readLocalName? {cs : List Char} (h : readLocalName? cs = some (name, line)) :
    name.head? = some '$' := by
  unfold readLocalName? at h
  grind

theorem readLocalName?_eq_none {front after : List Char} (hlast : ¬".local$".toList <:+: rest)
    (hrest : rest = front ++ ".local".toList ++ after) : readLocalName? after = none := by
  cases h : readLocalName? after with
  | none => rfl
  | some read =>
    obtain ⟨name, line⟩ := read
    obtain ⟨tail, rfl⟩ := readLocalName?_eq_some h
    obtain ⟨more, rfl⟩ := List.head?_eq_some_iff.1 (head?_of_readLocalName? h)
    exact absurd ⟨front, more ++ tail, by simp [hrest]⟩ hlast

theorem readLocal?_of_mark (hscope : oneLine scope = true)
    (hname : readLocalName? rest = some (name, line)) (hlast : ¬".local$".toList <:+: rest) :
    readLocal? (scope ++ (".local".toList ++ rest)) = some (.localVariable scope name line) := by
  have hdot : '.' ∉ "local".toList := by decide
  obtain ⟨earlier, he⟩ := occurrences_append_needle hdot scope rest
  have hmark : ".local".toList = '.' :: "local".toList := rfl
  rw [readLocal?, hmark, he, List.reverse_append, List.reverse_cons, List.append_assoc,
    List.findSome?_append, List.findSome?_eq_none_iff.2]
  · simp [hscope, hname]
  · rintro ⟨front, after⟩ hmem
    rw [List.mem_reverse, List.mem_map] at hmem
    obtain ⟨⟨between, _⟩, hlater, heq⟩ := hmem
    obtain ⟨rfl, rfl⟩ := Prod.mk.inj heq
    simp only [readLocalName?_eq_none hlast (mem_occurrences.1 hlater), Option.map_none, ite_self]

theorem getLast?_ne_of_isDigit {c : Char} (hc : isDigit c = false) (hne : digits ≠ [])
    (hdigits : ∀ d ∈ digits, isDigit d = true) (cs : List Char) :
    (cs ++ digits).getLast? ≠ some c := by
  rw [List.getLast?_append_of_ne_nil _ hne]
  intro h
  have hmem := hdigits c (List.mem_of_getLast? h)
  rw [hc] at hmem
  cases hmem

theorem readLocalName?_written (hname : name ≠ []) (hat : '@' ∉ name) (hne : digits ≠ [])
    (hdigits : ∀ d ∈ digits, isDigit d = true) :
    readLocalName? ('$' :: (name ++ '@' :: digits)) = some ('$' :: name, digits) := by
  have hstop : (name ++ '@' :: digits).takeWhile (· ≠ '@') = name := by
    rw [List.takeWhile_append_of_pos]
    · simp
    · intro c hc
      simpa using fun (he : c = '@') ↦ hat (he ▸ hc)
  have hline : dropFinalNewline digits = digits :=
    if_neg (getLast?_ne_of_isDigit (by decide) hne hdigits [])
  rw [readLocalName?]
  dsimp only
  rw [hstop, List.drop_left]
  simp [hname, hline, hne, List.all_eq_true.2 hdigits]

theorem readParameter?_eq_none {cs : List Char} (hend : cs.getLast? ≠ some ')')
    (hline : cs.getLast? ≠ some '\n') : readParameter? cs = none := by
  unfold readParameter?
  rw [dropFinalNewline, if_neg hline]
  split
  · rename_i body hbody
    rw [← List.head?_reverse, hbody] at hend
    exact absurd rfl hend
  · rfl

/-- A local is read as it is written, up to the last mark that a name follows. -/
theorem shape?_of_mark (hscope : oneLine scope = true)
    (hname : readLocalName? rest = some (name, line)) (hlast : ¬".local$".toList <:+: rest)
    (hend : rest.getLast? ≠ some ')') (hline : rest.getLast? ≠ some '\n')
    (hsymbol : symbol.toList = scope ++ (".local".toList ++ rest)) :
    shape? symbol = some (.localVariable scope name line) := by
  have hne : rest ≠ [] := by
    rintro rfl
    cases hname
  have hgetLast : symbol.toList.getLast? = rest.getLast? := by
    rw [hsymbol, ← List.append_assoc, List.getLast?_append_of_ne_nil _ hne]
  have hparameter : readParameter? symbol.toList = none :=
    readParameter?_eq_none (hgetLast ▸ hend) (hgetLast ▸ hline)
  rw [shape?, hparameter, hsymbol, readLocal?_of_mark hscope hname hlast]
  rfl

theorem mark_infix_cons {cs : List Char} (h : ".local$".toList <:+: '$' :: cs) :
    ".local$".toList <:+: cs :=
  (List.infix_cons_iff.1 h).resolve_left fun hprefix ↦
    absurd (List.cons_prefix_cons.1 hprefix).1 (by decide)

theorem not_infix_at_line (hname : ¬".local$".toList <:+: name)
    (hdigits : ∀ d ∈ digits, isDigit d = true) :
    ¬".local$".toList <:+: '$' :: (name ++ '@' :: digits) := by
  have hdot : '.' ∉ digits := fun h ↦ absurd (hdigits _ h) (by decide)
  intro h
  obtain h | h | ⟨front, back, he, hfront, hback⟩ := List.infix_append_iff.1 (mark_infix_cons h)
  · exact hname h
  · have hmem : '.' ∈ '@' :: digits := h.subset (.head _)
    simp [hdot] at hmem
  · cases back with
    | nil => exact hname (by simpa [he] using hfront.isInfix)
    | cons c back =>
      obtain rfl : c = '@' := (List.cons_prefix_cons.1 hback).1
      have hat : '@' ∈ ".local$".toList := by simp [he]
      exact absurd hat (by decide)

theorem shape?_local_at_line (hscope : oneLine scope = true) (hname : name ≠ [])
    (hat : '@' ∉ name) (hmark : ¬".local$".toList <:+: name) (hne : digits ≠ [])
    (hdigits : ∀ d ∈ digits, isDigit d = true)
    (hsymbol : symbol.toList = scope ++ (".local".toList ++ '$' :: (name ++ '@' :: digits))) :
    shape? symbol = some (.localVariable scope ('$' :: name) digits) := by
  have hend : ∀ c, isDigit c = false → ('$' :: (name ++ '@' :: digits)).getLast? ≠ some c :=
    fun c hc ↦ by simpa using getLast?_ne_of_isDigit hc hne hdigits ('$' :: (name ++ ['@']))
  exact shape?_of_mark hscope (readLocalName?_written hname hat hne hdigits)
    (not_infix_at_line hmark hdigits) (hend _ (by decide)) (hend _ (by decide)) hsymbol

theorem head?_of_localVariable (h : shape? symbol = some (.localVariable scope name line)) :
    name.head? = some '$' := by
  obtain ⟨_, -, hname⟩ := exists_of_localVariable h
  exact head?_of_readLocalName? hname

theorem normalizeVariable_of_variableName {o : Option String} (h : variableName o = some n) :
    normalizeVariable n = n := by
  obtain ⟨shape, hshape, hname⟩ := Option.bind_eq_some_iff.1 h
  obtain ⟨symbol, -, hshape⟩ := Option.bind_eq_some_iff.1 hshape
  cases shape with
  | parameter scope name =>
    rw [← Option.some.inj hname, normalizeVariable_normalizeVariable]
  | localVariable scope name line =>
    have hhead := head?_of_localVariable hshape
    rw [← Option.some.inj hname]
    refine String.toList_inj.1 ?_
    rw [toList_normalizeVariable, String.toList_ofList, if_pos hhead]
  | method scope => cases hname

/-- A scope is the one of a method, or ends in it behind a blank or a slash. -/
def EndsIn (pattern scope : String) : Prop :=
  ∃ before, scope.toList = before ++ pattern.toList ∧ opensSegment before = true

theorem EndsIn.inScope {scope : String} (h : EndsIn pattern scope) {rest : List Char}
    (hsymbol : symbol.toList = scope.toList ++ '.' :: rest) :
    inScope pattern (some symbol) = true := by
  obtain ⟨before, hscope, hopens⟩ := h
  refine holdsSegment_eq_true.2 ⟨before, '.' :: rest, ?_, hopens, ?_⟩
  · rw [hsymbol, hscope]
  · simp [closesSegment]

end Symbol

namespace Value

theorem normalizeVariable_of_name {v : Value} {n : String} (h : v.name = some n) :
    Symbol.normalizeVariable n = n := by
  unfold Value.name at h
  split at h
  · rw [← Option.some.inj h, Symbol.normalizeVariable_normalizeVariable]
  · exact Symbol.normalizeVariable_of_variableName h

theorem scope_of_shape {v : Value} {shape : Symbol.Shape}
    (h : v.symbol.bind Symbol.shape? = some shape) : v.scope = some shape.scope := by
  rw [scope, Symbol.scope, h, Option.map_some]

theorem name_of_shape {v : Value} {shape : Symbol.Shape} (hname : nonEmpty v.declaredName = none)
    (h : v.symbol.bind Symbol.shape? = some shape) : v.name = shape.name? := by
  rw [name, hname, Symbol.variableName, h, Option.bind_some]

theorem declarationLine_of_long {v : Value} {scope name digits : List Char}
    (h : v.symbol.bind Symbol.shape? = some (.localVariable scope name digits))
    (hlong : Symbol.digitLimit < digits.length) :
    v.declarationLine = .error ⟨digits.length⟩ := by
  obtain ⟨d, ds, rfl⟩ := List.exists_cons_of_length_pos (Nat.zero_lt_of_lt hlong)
  rw [declarationLine, Symbol.declarationLine, h, Option.bind_some]
  simp only [Symbol.Shape.lineDigits?, if_pos hlong]

end Value

end GraphContracts
