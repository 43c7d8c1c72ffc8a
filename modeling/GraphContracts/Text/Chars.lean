namespace GraphContracts.Text

/-- Every place where `needle` stands in a text, first place first: what comes before it and what
comes after it. -/
def occurrences (needle : List Char) : List Char → List (List Char × List Char)
  | [] => if needle.isEmpty then [([], [])] else []
  | c :: cs =>
    let later := (occurrences needle cs).map fun (before, after) => (c :: before, after)
    if needle.isPrefixOf (c :: cs) then ([], (c :: cs).drop needle.length) :: later else later

theorem mem_occurrences {needle text before after : List Char} :
    (before, after) ∈ occurrences needle text ↔ text = before ++ needle ++ after := by
  induction text generalizing before with
  | nil =>
    cases needle <;> simp [occurrences]
  | cons c cs ih =>
    have here : needle.isPrefixOf (c :: cs) = true → ∃ t, c :: cs = needle ++ t := fun h => by
      obtain ⟨t, ht⟩ := List.isPrefixOf_iff_prefix.1 h
      exact ⟨t, ht.symm⟩
    have later : (before, after) ∈ ((occurrences needle cs).map fun (b, a) => (c :: b, a)) ↔
        ∃ b, before = c :: b ∧ cs = b ++ needle ++ after := by
      simp only [List.mem_map, Prod.exists, Prod.mk.injEq]
      constructor
      · rintro ⟨b, a, hm, rfl, rfl⟩
        exact ⟨b, rfl, ih.1 hm⟩
      · rintro ⟨b, rfl, h⟩
        exact ⟨b, after, ih.2 h, rfl, rfl⟩
    by_cases hp : needle.isPrefixOf (c :: cs) = true
    · obtain ⟨t, ht⟩ := here hp
      simp only [occurrences, hp, if_true, List.mem_cons, later, Prod.mk.injEq]
      constructor
      · rintro (⟨rfl, rfl⟩ | ⟨b, rfl, h⟩)
        · simp [ht]
        · simp [h]
      · intro h
        cases before with
        | nil =>
          refine .inl ⟨rfl, ?_⟩
          simp only [List.nil_append] at h
          simp [h]
        | cons d b =>
          simp only [List.cons_append, List.cons.injEq] at h
          exact .inr ⟨b, by simp [h.1], by simpa using h.2⟩
    · simp only [occurrences, if_neg hp, later]
      constructor
      · rintro ⟨b, rfl, h⟩
        simp [h]
      · intro h
        cases before with
        | nil =>
          exact absurd (List.isPrefixOf_iff_prefix.2 ⟨after, by simpa using h.symm⟩) hp
        | cons d b =>
          simp only [List.cons_append, List.cons.injEq] at h
          exact ⟨b, by simp [h.1], by simpa using h.2⟩

def occursIn (needle text : List Char) : Bool :=
  !(occurrences needle text).isEmpty

theorem occursIn_eq_true {needle text : List Char} :
    occursIn needle text = true ↔ ∃ before after, text = before ++ needle ++ after := by
  simp only [occursIn, Bool.not_eq_true', List.isEmpty_eq_false_iff_exists_mem, Prod.exists,
    mem_occurrences]

def dropFinalNewline (cs : List Char) : List Char :=
  if cs.getLast? = some '\n' then cs.dropLast else cs

/-- A text after `skip` characters, with `new` in every place of `needle`. Places do not overlap:
the first one counts. -/
def replaceFrom (needle new : List Char) (skip : Nat) : List Char → List Char
  | [] => []
  | c :: cs =>
    match skip with
    | skip + 1 => replaceFrom needle new skip cs
    | 0 =>
      if needle.isPrefixOf (c :: cs) then new ++ replaceFrom needle new (needle.length - 1) cs
      else c :: replaceFrom needle new 0 cs

def replace (needle new text : List Char) : List Char :=
  replaceFrom needle new 0 text

theorem replaceFrom_length_append {needle new : List Char} (front rest : List Char) :
    replaceFrom needle new front.length (front ++ rest) = replace needle new rest := by
  induction front with
  | nil => rfl
  | cons c front ih => exact ih

theorem replace_needle_append {needle new : List Char} (h : needle ≠ []) (rest : List Char) :
    replace needle new (needle ++ rest) = new ++ replace needle new rest := by
  obtain ⟨c, more, rfl⟩ := List.exists_cons_of_ne_nil h
  have hstart : (c :: more).isPrefixOf (c :: (more ++ rest)) = true :=
    List.isPrefixOf_iff_prefix.2 (List.prefix_append (c :: more) rest)
  rw [replace, List.cons_append, replaceFrom, if_pos hstart, List.length_cons,
    Nat.add_sub_cancel, replaceFrom_length_append]

theorem replace_cons_of_not_prefix {needle new cs : List Char} {c : Char}
    (h : ¬needle <+: c :: cs) : replace needle new (c :: cs) = c :: replace needle new cs := by
  have hno : ¬needle.isPrefixOf (c :: cs) = true := fun hp ↦ h (List.isPrefixOf_iff_prefix.1 hp)
  rw [replace, replaceFrom, if_neg hno, replace]

def splitOn (sep : Char) : List Char → List (List Char)
  | [] => [[]]
  | c :: cs =>
    if c = sep then [] :: splitOn sep cs
    else
      match splitOn sep cs with
      | [] => [[c]]
      | piece :: pieces => (c :: piece) :: pieces

/-- The lines of a text; a final line break ends the last line and opens no new one. -/
def lines (cs : List Char) : List (List Char) :=
  let pieces := splitOn '\n' cs
  if pieces.getLast? = some [] then pieces.dropLast else pieces

def afterLast (sep : Char) (cs : List Char) : List Char :=
  (cs.reverse.takeWhile (· ≠ sep)).reverse

def joinWith (sep : String) (parts : List String) : String :=
  sep.intercalate parts

def padRight (width : Nat) (s : String) : String :=
  s ++ String.ofList (List.replicate (width - s.length) ' ')

def padLeft (fill : Char) (width : Nat) (s : String) : String :=
  String.ofList (List.replicate (width - s.length) fill) ++ s

def contains (needle text : String) : Bool :=
  occursIn needle.toList text.toList

theorem contains_eq_true {needle text : String} :
    contains needle text = true ↔
      ∃ before after, text.toList = before ++ needle.toList ++ after :=
  occursIn_eq_true

def startsWith (start text : String) : Bool :=
  start.toList.isPrefixOf text.toList

def endsWith (ending text : String) : Bool :=
  ending.toList.isSuffixOf text.toList

end GraphContracts.Text
