import GraphContracts.Proofs.Symbol
import GraphContracts.Symbol.Scope
import Mathlib.Data.List.Basic

namespace GraphContracts

namespace Text

variable {c : Char}

theorem append_cons_inj_first {as bs as' bs' : List Char} (h : c ∉ as) (h' : c ∉ as')
    (he : as ++ c :: bs = as' ++ c :: bs') : as = as' ∧ bs = bs' := by
  have hreverse : bs.reverse ++ c :: as.reverse = bs'.reverse ++ c :: as'.reverse := by
    simpa using congrArg List.reverse he
  obtain ⟨hbs, has⟩ := append_cons_inj (by simpa using h) (by simpa using h') hreverse
  exact ⟨List.reverse_inj.1 has, List.reverse_inj.1 hbs⟩

end Text

namespace Symbol

open Text

/-- A fragment stands in a text as a whole segment: behind the start of the text, a blank or a
slash, and in front of a dot or the end. -/
def StandsIn (fragment text : String) : Prop :=
  ∃ before after : List Char, text.toList = before ++ fragment.toList ++ after ∧
    (before = [] ∨ before.getLast? = some ' ' ∨ before.getLast? = some '/') ∧
    (after = [] ∨ after.head? = some '.')

/-- The symbol of something inside a method, in parts. -/
structure MemberSymbol where
  lead : String
  className : String
  methodName : String
  rest : String
  lead_opens : lead = "" ∨ lead.toList.getLast? = some ' '
  plain : ∀ part ∈ [lead, className, methodName, rest], '#' ∉ part.toList ∧ '\n' ∉ part.toList
  className_plain : ' ' ∉ className.toList
  methodName_plain : '(' ∉ methodName.toList

def MemberSymbol.text (s : MemberSymbol) : String :=
  s.lead ++ s.className ++ "#" ++ s.methodName ++ "()." ++ s.rest

/-- A class is another one or its last part. -/
def IsClassOf (name className : String) : Prop :=
  className = name ∨ ∃ outer, className = outer ++ "/" ++ name

variable {before after lead name wanted method called rest : List Char}

theorem opensSegment_eq_true_iff : opensSegment before = true ↔
    before = [] ∨ before.getLast? = some ' ' ∨ before.getLast? = some '/' := by
  unfold opensSegment
  cases h : before.getLast? with
  | none => simpa using h
  | some c =>
    have hne : before ≠ [] := by
      rintro rfl
      cases h
    simp [hne]

theorem closesSegment_eq_true_iff (h : '\n' ∉ after) :
    closesSegment after = true ↔ after = [] ∨ after.head? = some '.' := by
  have hline : after ≠ ['\n'] := by
    rintro rfl
    exact h (.head _)
  simp [closesSegment, hline]

theorem inScope_iff_standsIn {fragment text : String} (h : '\n' ∉ text.toList) :
    inScope fragment (some text) = true ↔ StandsIn fragment text := by
  rw [inScope, Option.any_some, holdsSegment_eq_true]
  refine exists₂_congr fun before after ↦ and_congr_right fun he ↦ ?_
  have hafter : '\n' ∉ after := fun hmem ↦ h (by simp [he, hmem])
  rw [opensSegment_eq_true_iff, closesSegment_eq_true_iff hafter]

theorem exists_opens_iff (hlead : lead = [] ∨ lead.getLast? = some ' ') (hname : ' ' ∉ name)
    (hwanted : ' ' ∉ wanted) :
    (∃ before, before ++ wanted = lead ++ name ∧ opensSegment before = true) ↔
      name = wanted ∨ ∃ outer, name = outer ++ '/' :: wanted := by
  simp only [opensSegment_eq_true_iff]
  constructor
  · rintro ⟨before, he, hopens⟩
    obtain ⟨d, rfl, rfl⟩ | ⟨d, rfl, rfl⟩ := List.append_eq_append_iff.1 he
    · -- The class that is asked for would begin in the lead, which ends in a blank.
      rcases List.eq_nil_or_concat d with rfl | ⟨ds, c, rfl⟩
      · exact .inl rfl
      · exfalso
        rcases hlead with hlead | hlead
        · simp at hlead
        · refine hwanted ?_
          simp_all
    · rcases List.eq_nil_or_concat d with rfl | ⟨outer, c, rfl⟩
      · exact .inl rfl
      · have hc : c ≠ ' ' := by
          rintro rfl
          simp at hname
        refine .inr ⟨outer, ?_⟩
        rcases hopens with hopens | hopens | hopens <;> simp_all
  · rintro (rfl | ⟨outer, rfl⟩)
    · exact ⟨lead, rfl, hlead.imp_right .inl⟩
    · exact ⟨lead ++ outer ++ ['/'], by simp, .inr (.inr (by simp))⟩

/-- There is one place in a symbol where a class and a method can stand: at its only `#`. -/
theorem holdsSegment_member_iff (hlead : lead = [] ∨ lead.getLast? = some ' ')
    (hname : ' ' ∉ name) (hwanted : ' ' ∉ wanted) (hmethod : '(' ∉ method) (hcalled : '(' ∉ called)
    (hfront : '#' ∉ lead ++ name) (hback : '#' ∉ method ++ "().".toList ++ rest) :
    holdsSegment (wanted ++ '#' :: called ++ "()".toList)
        (lead ++ name ++ '#' :: (method ++ "().".toList ++ rest)) = true ↔
      called = method ∧ (name = wanted ∨ ∃ outer, name = outer ++ '/' :: wanted) := by
  rw [holdsSegment_eq_true, ← exists_opens_iff hlead hname hwanted]
  constructor
  · rintro ⟨before, after, he, hopens, -⟩
    -- the only `#` of the symbol is the one of the fragment
    have hsplit : before ++ wanted ++ '#' :: (called ++ "()".toList ++ after) =
        lead ++ name ++ '#' :: (method ++ "().".toList ++ rest) := by
      simpa using he.symm
    obtain ⟨hbefore, -, hmember⟩ := (List.append_cons_inj_of_notMem hfront hback).1 hsplit.symm
    have hends : method ++ '(' :: (").".toList ++ rest) = called ++ '(' :: ')' :: after := by
      simpa using hmember
    obtain ⟨rfl, -⟩ := append_cons_inj_first hmethod hcalled hends
    exact ⟨rfl, before, hbefore.symm, hopens⟩
  · rintro ⟨rfl, before, he, hopens⟩
    exact ⟨before, '.' :: rest, by simp [← he], hopens, rfl⟩

variable {s : MemberSymbol} {className methodName : String}

theorem isClassOf_iff {wanted name : String} : IsClassOf wanted name ↔
    name.toList = wanted.toList ∨ ∃ outer, name.toList = outer ++ '/' :: wanted.toList := by
  refine or_congr String.toList_inj.symm ⟨?_, ?_⟩
  · rintro ⟨outer, rfl⟩
    exact ⟨outer.toList, by simp⟩
  · rintro ⟨outer, h⟩
    exact ⟨String.ofList outer, String.toList_inj.1 (by simp [h])⟩

theorem toList_scopePattern (className methodName : String) :
    (scopePattern className methodName).toList =
      (normalizeClass className).toList ++ '#' :: methodName.toList ++ "()".toList := by
  have h : scopePattern className methodName =
      normalizeClass className ++ "#" ++ methodName ++ "()" := rfl
  simp [h]

theorem MemberSymbol.toList_text (s : MemberSymbol) : s.text.toList =
    s.lead.toList ++ s.className.toList ++
      '#' :: (s.methodName.toList ++ "().".toList ++ s.rest.toList) := by
  simp [text]

theorem inScope_member_iff (hblank : ' ' ∉ (normalizeClass className).toList)
    (hcalled : '(' ∉ methodName.toList) :
    inScope (scopePattern className methodName) (some s.text) = true ↔
      methodName = s.methodName ∧ IsClassOf (normalizeClass className) s.className := by
  have hplain : ∀ part ∈ [s.lead, s.className, s.methodName, s.rest], '#' ∉ part.toList :=
    fun part hpart ↦ (s.plain part hpart).1
  simp only [List.forall_mem_cons] at hplain
  obtain ⟨hl, hc, hm, hr, -⟩ := hplain
  have hlead : s.lead.toList = [] ∨ s.lead.toList.getLast? = some ' ' :=
    s.lead_opens.imp_left fun h ↦ by simp [h]
  rw [inScope, Option.any_some, toList_scopePattern, s.toList_text, isClassOf_iff,
    ← String.toList_inj]
  refine holdsSegment_member_iff hlead s.className_plain hblank s.methodName_plain hcalled ?_ ?_
  · simp [hl, hc]
  · simp [hm, hr]

theorem not_isClassOf {outer wanted name : String} {c : Char} (hc : c ≠ '/')
    (h : name = outer ++ String.singleton c ++ wanted) : ¬IsClassOf wanted name := by
  have hname : name.toList = outer.toList ++ [c] ++ wanted.toList := by simp [h]
  rw [isClassOf_iff, hname]
  rintro (hsame | ⟨outer', hsame⟩)
  · have hlength := congrArg List.length hsame
    simp only [List.length_append, List.length_singleton] at hlength
    omega
  · have hfront : outer.toList ++ [c] = outer' ++ ['/'] := by
      refine (List.append_left_inj wanted.toList).1 ?_
      simpa using hsame
    exact hc (List.singleton_inj.1 (List.append_inj_right' hfront rfl))

theorem ne_of_part {whole part more : String} (hmore : more ≠ "")
    (h : whole = part ++ more ∨ whole = more ++ part) : part ≠ whole := by
  rintro rfl
  have hlength : more.length = 0 := by
    rcases h with h | h
    all_goals
      have := congrArg String.length h
      rw [String.length_append] at this
      omega
  exact hmore (String.length_eq_zero_iff.1 hlength)

/-- A fragment is found exactly where it stands as a whole segment. So a symbol inside a method lies
in the method that is asked for exactly where the methods are the same and the class is that of the
symbol or its last part; the mere end of the class or a mere part of the method does not do. -/
theorem inScope_exact :
    (∀ fragment text : String, '\n' ∉ text.toList →
      (inScope fragment (some text) = true ↔ StandsIn fragment text)) ∧
    ∀ (s : MemberSymbol) (className methodName : String),
      ' ' ∉ (normalizeClass className).toList → '(' ∉ methodName.toList →
      let found := inScope (scopePattern className methodName) (some s.text)
      (found = true ↔
        methodName = s.methodName ∧ IsClassOf (normalizeClass className) s.className) ∧
      (∀ outer c, s.className = outer ++ String.singleton c ++ normalizeClass className →
        c ≠ '/' → found = false) ∧
      ∀ more, more ≠ "" →
        s.methodName = methodName ++ more ∨ s.methodName = more ++ methodName →
        found = false := by
  refine ⟨fun fragment text ↦ inScope_iff_standsIn, ?_⟩
  intro s className methodName hblank hcalled found
  have hfound : found = true ↔
      methodName = s.methodName ∧ IsClassOf (normalizeClass className) s.className :=
    inScope_member_iff hblank hcalled
  refine ⟨hfound, ?_, ?_⟩
  · intro outer c hend hc
    exact Bool.eq_false_iff.2 fun h ↦ not_isClassOf hc hend (hfound.1 h).2
  · intro more hmore hpart
    exact Bool.eq_false_iff.2 fun h ↦ ne_of_part hmore hpart (hfound.1 h).1

namespace ProcessedOrder

def order : MemberSymbol where
  lead := "pkg "
  className := "App/Service/OrderProcessor"
  methodName := "process"
  rest := "($order)"
  lead_opens := .inr (by decide)
  plain := by decide
  className_plain := by decide
  methodName_plain := by decide

theorem inScope_order :
    inScope (scopePattern "\\Service\\OrderProcessor" "process") (some order.text) = true ∧
    inScope (scopePattern "Processor" "process") (some order.text) = false ∧
    inScope (scopePattern "OrderProcessor" "proc") (some order.text) = false ∧
    ¬StandsIn "Processor#process()" order.text := by
  obtain ⟨hfound, -, -⟩ := inScope_exact.2 order "\\Service\\OrderProcessor" "process"
    (by decide) (by decide)
  obtain ⟨-, hclass, -⟩ := inScope_exact.2 order "Processor" "process" (by decide) (by decide)
  obtain ⟨-, -, hmethod⟩ := inScope_exact.2 order "OrderProcessor" "proc" (by decide) (by decide)
  have hend := hclass "App/Service/Orde" 'r' (by decide) (by decide)
  refine ⟨hfound.2 ⟨rfl, .inr ⟨"App", by decide⟩⟩, hend, ?_, ?_⟩
  · exact hmethod "ess" (by decide) (.inl (by decide))
  · intro h
    have hno := (inScope_exact.1 _ _ (by decide)).2 h
    rw [show "Processor#process()" = scopePattern "Processor" "process" by decide, hend] at hno
    cases hno

end ProcessedOrder

end Symbol

end GraphContracts
