import GraphContracts.Symbol.Name
import Mathlib.Data.List.DropRight

namespace GraphContracts

namespace Text

theorem exists_eq_dropFinalNewline_append (cs : List Char) :
    ∃ newline, (newline = [] ∨ newline = ['\n']) ∧ cs = dropFinalNewline cs ++ newline := by
  unfold dropFinalNewline
  split
  · rename_i h
    obtain ⟨ds, rfl⟩ := List.getLast?_eq_some_iff.1 h
    exact ⟨['\n'], .inr rfl, by simp⟩
  · exact ⟨[], .inl rfl, by simp⟩

theorem takeWhile_append_drop (p : Char → Bool) (cs : List Char) :
    cs.takeWhile p ++ cs.drop (cs.takeWhile p).length = cs := by
  induction cs with
  | nil => rfl
  | cons c cs ih => by_cases h : p c <;> simp [h, ih]

variable {c : Char}

theorem append_cons_inj {as bs as' bs' : List Char} (h : c ∉ bs) (h' : c ∉ bs')
    (he : as ++ c :: bs = as' ++ c :: bs') : as = as' ∧ bs = bs' := by
  obtain ⟨d, hd, hd'⟩ | ⟨d, hd, hd'⟩ := List.append_eq_append_iff.1 he
  · cases d with
    | nil => simpa [hd] using hd'
    | cons _ d =>
      obtain ⟨rfl, rfl⟩ := List.cons.inj hd'
      simp at h
  · cases d with
    | nil => simpa [hd, eq_comm] using hd'
    | cons _ d =>
      obtain ⟨rfl, rfl⟩ := List.cons.inj hd'
      simp at h'

theorem exists_eq_append_last {as : List Char} (h : c ∈ as) :
    ∃ before after, as = before ++ c :: after ∧ c ∉ after := by
  obtain ⟨bs, ds, he, hno⟩ := List.eq_append_cons_of_mem (List.mem_reverse.2 h)
  refine ⟨ds.reverse, bs.reverse, ?_, by simpa using hno⟩
  rw [← List.reverse_reverse as, he]
  simp

/-- What ends in `c` and stands somewhere in a text either ends at the last `c` or stands before
whatever part has no `c` in front of that. -/
theorem append_cons_cases {before needle after front back rest : List Char} (hback : c ∉ back)
    (hrest : c ∉ rest) (h : before ++ needle ++ c :: after = front ++ back ++ c :: rest) :
    before ++ needle = front ++ back ∨ needle ++ [c] <:+: front := by
  by_cases hafter : c ∈ after
  · obtain ⟨middle, last, rfl, hlast⟩ := exists_eq_append_last hafter
    have he : before ++ needle ++ c :: middle = front ++ back :=
      (append_cons_inj hlast hrest (by simpa using h)).1
    obtain ⟨d, hd, hd'⟩ | ⟨d, -, hd⟩ := List.append_eq_append_iff.1 he
    · cases d with
      | nil => simp [show back = c :: middle from hd'.symm] at hback
      | cons _ d =>
        obtain ⟨rfl, -⟩ := List.cons.inj hd'
        exact .inr ⟨before, d, by simp [hd]⟩
    · simp [hd] at hback
  · exact .inl (append_cons_inj hafter hrest h).1

end Text

namespace Symbol

open Text

@[simp] theorem bareClass_bareClass (name : String) :
    bareClass (bareClass name) = bareClass name := by
  simp only [bareClass, String.toList_ofList, List.dropWhile_idempotent]

theorem toList_normalizeVariable (name : String) :
    (normalizeVariable name).toList =
      if name.toList.head? = some '$' then name.toList else '$' :: name.toList := by
  have hstart : startsWith "$" name = true ↔ name.toList.head? = some '$' := by
    rw [startsWith, show "$".toList = ['$'] from rfl]
    cases name.toList with
    | nil => simp
    | cons c cs => simpa using eq_comm
  simp only [normalizeVariable, hstart]
  split <;> simp

@[simp] theorem normalizeVariable_normalizeVariable (name : String) :
    normalizeVariable (normalizeVariable name) = normalizeVariable name := by
  refine String.toList_inj.1 ?_
  rw [toList_normalizeVariable, if_pos]
  rw [toList_normalizeVariable]
  split
  · assumption
  · rfl

variable {symbol : String} {scope name line : List Char}

theorem readParameter?_eq_some {cs : List Char} {shape : Shape}
    (h : readParameter? cs = some shape) :
    ∃ scope name newline, shape = .parameter scope name ∧
      cs = scope ++ ".(".toList ++ name ++ ')' :: newline ∧
      (∀ c ∈ name, isParenthesis c = false) ∧ (newline = [] ∨ newline = ['\n']) := by
  obtain ⟨newline, hnewline, hcs⟩ := exists_eq_dropFinalNewline_append cs
  unfold readParameter? at h
  split at h
  · rename_i body hbody
    have hname := takeWhile_append_drop (fun c ↦ !isParenthesis c) body
    dsimp only at h
    split at h
    · rename_i scope hscope
      obtain ⟨-, h⟩ := Option.ite_none_right_eq_some.1 h
      rw [hscope] at hname
      refine ⟨_, _, newline, (Option.some.inj h).symm, ?_, ?_, hnewline⟩
      · rw [hcs, ← List.reverse_reverse (dropFinalNewline cs), hbody]
        conv_lhs => rw [← hname]
        simp
      · intro c hc
        simpa using List.mem_takeWhile_imp (List.mem_reverse.1 hc)
    · cases h
  · cases h

theorem readLocalName?_eq_some {cs name line : List Char}
    (h : readLocalName? cs = some (name, line)) : name <+: cs := by
  unfold readLocalName? at h
  split at h
  · rename_i rest
    have hprefix : '$' :: rest.takeWhile (· ≠ '@') <+: '$' :: rest :=
      List.cons_prefix_cons.2 ⟨rfl, List.takeWhile_prefix _⟩
    dsimp only at h
    split at h
    · cases h
    · split at h
      · cases h
        exact hprefix
      · cases (Option.ite_none_right_eq_some.1 h).2
        exact hprefix
  · cases h

theorem readLocal?_eq_some {cs : List Char} {shape : Shape} (h : readLocal? cs = some shape) :
    ∃ scope name line rest, shape = .localVariable scope name line ∧
      cs = scope ++ ".local".toList ++ rest ∧ readLocalName? rest = some (name, line) := by
  obtain ⟨⟨scope, rest⟩, hmem, h⟩ := List.exists_of_findSome?_eq_some h
  obtain ⟨-, h⟩ := Option.ite_none_right_eq_some.1 h
  obtain ⟨⟨name, line⟩, hname, rfl⟩ := Option.map_eq_some_iff.1 h
  exact ⟨scope, name, line, rest, rfl, mem_occurrences.1 (List.mem_reverse.1 hmem), hname⟩

theorem readMethod?_eq_some {cs : List Char} {shape : Shape} (h : readMethod? cs = some shape) :
    ∃ scope, shape = .method scope := by
  unfold readMethod? at h
  grind

theorem shape?_cases {shape : Shape} (h : shape? symbol = some shape) :
    readParameter? symbol.toList = some shape ∨ readLocal? symbol.toList = some shape ∨
      readMethod? symbol.toList = some shape := by
  unfold shape? at h
  cases hparameter : readParameter? symbol.toList with
  | some _ => exact .inl (by simpa [hparameter] using h)
  | none =>
    cases hlocal : readLocal? symbol.toList with
    | some _ => exact .inr (.inl (by simpa [hparameter, hlocal] using h))
    | none => exact .inr (.inr (by simpa [hparameter, hlocal] using h))

theorem toList_of_parameter (h : shape? symbol = some (.parameter scope name)) :
    ∃ newline, symbol.toList = scope ++ ".(".toList ++ name ++ ')' :: newline ∧
      (∀ c ∈ name, isParenthesis c = false) ∧ (newline = [] ∨ newline = ['\n']) := by
  obtain h | h | h := shape?_cases h
  · obtain ⟨_, _, newline, hshape, hcs⟩ := readParameter?_eq_some h
    obtain ⟨rfl, rfl⟩ := Shape.parameter.inj hshape
    exact ⟨newline, hcs⟩
  · obtain ⟨_, _, _, _, hshape, -⟩ := readLocal?_eq_some h
    cases hshape
  · obtain ⟨_, hshape⟩ := readMethod?_eq_some h
    cases hshape

theorem exists_of_localVariable (h : shape? symbol = some (.localVariable scope name line)) :
    ∃ rest, symbol.toList = scope ++ ".local".toList ++ rest ∧
      readLocalName? rest = some (name, line) := by
  obtain h | h | h := shape?_cases h
  · obtain ⟨_, _, _, hshape, -⟩ := readParameter?_eq_some h
    cases hshape
  · obtain ⟨_, _, _, rest, hshape, hcs⟩ := readLocal?_eq_some h
    obtain ⟨rfl, rfl, rfl⟩ := Shape.localVariable.inj hshape
    exact ⟨rest, hcs⟩
  · obtain ⟨_, hshape⟩ := readMethod?_eq_some h
    cases hshape

theorem toList_of_localVariable (h : shape? symbol = some (.localVariable scope name line)) :
    ∃ tail, symbol.toList = scope ++ ".local".toList ++ name ++ tail := by
  obtain ⟨rest, hcs, hname⟩ := exists_of_localVariable h
  obtain ⟨tail, rfl⟩ := readLocalName?_eq_some hname
  exact ⟨tail, by simp [hcs]⟩

variable {pattern wanted : String}

/-- The symbol of a parameter carries the fragment for its name where the name is written with its
dollar sign directly behind the method, or where its scope carries the fragment already. -/
theorem contains_parameterFragment_iff (h : shape? symbol = some (.parameter scope name))
    (hname : normalizeVariable (String.ofList name) = normalizeVariable wanted) :
    contains (parameterFragment pattern wanted) symbol = true ↔
      name.head? = some '$' ∧ pattern.toList <:+ scope ∨
        (parameterFragment pattern wanted).toList <:+: scope := by
  obtain ⟨newline, hcs, hplain, hnewline⟩ := toList_of_parameter h
  have hspelled : (normalizeVariable wanted).toList =
      if name.head? = some '$' then name else '$' :: name := by
    rw [← hname, toList_normalizeVariable, String.toList_ofList]
  have hfragment : (parameterFragment pattern wanted).toList =
      pattern.toList ++ '.' :: '(' :: (normalizeVariable wanted).toList ++ [')'] := by
    simp [parameterFragment]
  have hclosed : ')' ∉ '.' :: '(' :: name := by
    simpa using fun hmem ↦ absurd (hplain _ hmem) (by decide)
  have hrest : ')' ∉ newline := by rcases hnewline with rfl | rfl <;> simp
  have hopened : '(' ∉ name := fun hmem ↦ absurd (hplain _ hmem) (by decide)
  rw [contains_eq_true, hfragment, hcs]
  constructor
  · rintro ⟨before, after, he⟩
    -- The parenthesis that closes the fragment is the last one of the symbol or is in the scope.
    obtain hend | hinside := append_cons_cases hclosed hrest (show
      before ++ (pattern.toList ++ '.' :: '(' :: (normalizeVariable wanted).toList) ++
        ')' :: after = scope ++ '.' :: '(' :: name ++ ')' :: newline by simpa using he.symm)
    · have hopened' : '(' ∉ (normalizeVariable wanted).toList := by
        rw [hspelled]
        split <;> simp [hopened]
      obtain ⟨hscope, hsame⟩ := append_cons_inj hopened' hopened (show
        (before ++ pattern.toList ++ ['.']) ++ '(' :: (normalizeVariable wanted).toList =
          (scope ++ ['.']) ++ '(' :: name by simpa using hend)
      refine .inl ⟨?_, before, List.append_cancel_right hscope⟩
      by_contra hhead
      rw [hspelled, if_neg hhead] at hsame
      simp at hsame
    · exact .inr hinside
  · rintro (⟨hhead, before, rfl⟩ | ⟨before, after, rfl⟩)
    · exact ⟨before, newline, by simp [hspelled, hhead]⟩
    · exact ⟨before, after ++ ".(".toList ++ name ++ ')' :: newline, by simp⟩

theorem contains_localFragment (h : shape? symbol = some (.localVariable scope name line))
    (hname : String.ofList name = normalizeVariable wanted) (hscope : pattern.toList <:+ scope) :
    contains (localFragment pattern wanted) symbol = true := by
  obtain ⟨tail, hcs⟩ := toList_of_localVariable h
  obtain ⟨before, rfl⟩ := hscope
  refine contains_eq_true.2 ⟨before, tail, ?_⟩
  rw [hcs, localFragment, ← hname]
  simp

end Symbol

end GraphContracts
