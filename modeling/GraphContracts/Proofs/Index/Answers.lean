import GraphContracts.Proofs.Index.Filter

namespace GraphContracts

namespace Decides

variable {α : Type} {test : α → Except Fault Bool} {asks halts : α → Prop} {a : α} {as : List α}

theorem not_halts_of_eq_ok (h : Decides test asks halts) {keep : Bool} (htest : test a = .ok keep) :
    ¬halts a := by
  intro hhalts
  cases htest.symm.trans ((h.fails a .noWords).2 ⟨rfl, hhalts⟩)

theorem eq_false_iff (h : Decides test asks halts) :
    test a = .ok false ↔ ¬asks a ∧ ¬halts a := by
  cases htest : test a with
  | error e =>
    have hhalts : halts a := ((h.fails a e).1 htest).2
    simp [hhalts]
  | ok keep =>
    rw [← h.passes, htest]
    cases keep <;> simp [h.not_halts_of_eq_ok htest]

theorem eq_decide (h : Decides test asks halts) [DecidablePred asks] (hno : ¬halts a) :
    test a = .ok (decide (asks a)) := by
  by_cases hasks : asks a
  · rw [decide_eq_true hasks]
    exact (h.passes a).2 hasks
  · rw [decide_eq_false hasks]
    exact h.eq_false_iff.2 ⟨hasks, hno⟩

theorem keepPassing_eq_ok (h : Decides test asks halts) [DecidablePred asks]
    (hno : ∀ a ∈ as, ¬halts a) : keepPassing test as = .ok (as.filter fun a ↦ asks a) :=
  keepPassing_total fun a ha ↦ h.eq_decide (hno a ha)

theorem keepPassing_eq_error (h : Decides test asks halts) (hhalts : ∃ a ∈ as, halts a) :
    keepPassing test as = .error .noWords := by
  induction as with
  | nil => simp at hhalts
  | cons a as ih =>
    rw [keepPassing]
    cases htest : test a with
    | error e =>
      obtain rfl := ((h.fails a e).1 htest).1
      rfl
    | ok keep =>
      have hrest : ∃ b ∈ as, halts b := by
        simpa [h.not_halts_of_eq_ok htest] using hhalts
      rw [ih hrest]
      rfl

theorem firstPassing_append (h : Decides test asks halts) {before : List α}
    (hbefore : ∀ b ∈ before, ¬asks b ∧ ¬halts b) :
    firstPassing test (before ++ as) = firstPassing test as := by
  induction before with
  | nil => rfl
  | cons b before ih =>
    obtain ⟨hb, hbefore⟩ := List.forall_mem_cons.1 hbefore
    rw [List.cons_append, firstPassing, h.eq_false_iff.2 hb]
    exact ih hbefore

theorem firstPassing_cons (h : Decides test asks halts) :
    (asks a → firstPassing test (a :: as) = .ok (some a)) ∧
      (halts a → firstPassing test (a :: as) = .error .noWords) := by
  constructor
  · intro hasks
    rw [firstPassing, (h.passes a).2 hasks]
    rfl
  · intro hhalts
    rw [firstPassing, (h.fails a .noWords).2 ⟨rfl, hhalts⟩]
    rfl

/-- Going over the items ends at the first that passes or halts, if there is one. -/
theorem firstPassing_cases (h : Decides test asks halts) (as : List α) :
    ((∀ a ∈ as, ¬asks a ∧ ¬halts a) ∧ firstPassing test as = .ok none) ∨
      ∃ before a after, as = before ++ a :: after ∧ (∀ b ∈ before, ¬asks b ∧ ¬halts b) ∧
        (asks a ∧ firstPassing test as = .ok (some a) ∨
          halts a ∧ firstPassing test as = .error .noWords) := by
  classical
  cases hfind : as.find? fun a ↦ asks a ∨ halts a with
  | none =>
    have hnone : ∀ a ∈ as, ¬asks a ∧ ¬halts a := by simpa using hfind
    have hgone : firstPassing test (as ++ []) = firstPassing test [] :=
      h.firstPassing_append hnone
    rw [List.append_nil] at hgone
    exact .inl ⟨hnone, hgone⟩
  | some a =>
    rw [List.find?_eq_some_iff_append] at hfind
    obtain ⟨ha, before, after, rfl, hno⟩ := hfind
    have hbefore : ∀ b ∈ before, ¬asks b ∧ ¬halts b := by simpa using hno
    refine .inr ⟨before, a, after, rfl, hbefore, ?_⟩
    rw [h.firstPassing_append hbefore]
    obtain hasks | hhalts := of_decide_eq_true ha
    · exact .inl ⟨hasks, h.firstPassing_cons.1 hasks⟩
    · exact .inr ⟨hhalts, h.firstPassing_cons.2 hhalts⟩

theorem firstPassing_eq_error_iff (h : Decides test asks halts) {e : Fault} :
    firstPassing test as = .error e ↔ e = .noWords ∧ ∃ before a after, as = before ++ a :: after ∧
      halts a ∧ ∀ b ∈ before, ¬asks b ∧ ¬halts b := by
  constructor
  · intro herror
    obtain ⟨-, hfirst⟩ | ⟨before, a, after, has, hbefore, ⟨-, hfirst⟩ | ⟨ha, hfirst⟩⟩ :=
      h.firstPassing_cases as
    · cases herror.symm.trans hfirst
    · cases herror.symm.trans hfirst
    · exact ⟨Except.error.inj (herror.symm.trans hfirst), before, a, after, has, ha, hbefore⟩
  · intro ⟨he, before, a, after, has, ha, hbefore⟩
    rw [he, has, h.firstPassing_append hbefore]
    exact h.firstPassing_cons.2 ha

theorem firstPassing_eq_some_iff (h : Decides test asks halts) :
    firstPassing test as = .ok (some a) ↔ ∃ before after, as = before ++ a :: after ∧
      asks a ∧ ∀ b ∈ before, ¬asks b ∧ ¬halts b := by
  constructor
  · intro hsome
    obtain ⟨-, hfirst⟩ | ⟨before, b, after, has, hbefore, ⟨hb, hfirst⟩ | ⟨-, hfirst⟩⟩ :=
      h.firstPassing_cases as
    · cases hsome.symm.trans hfirst
    · obtain rfl := Option.some.inj (Except.ok.inj (hsome.symm.trans hfirst))
      exact ⟨before, after, has, hb, hbefore⟩
    · cases hsome.symm.trans hfirst
  · intro ⟨before, after, has, ha, hbefore⟩
    rw [has, h.firstPassing_append hbefore]
    exact h.firstPassing_cons.1 ha

end Decides

namespace SymbolQuery

variable {q : SymbolQuery} {x : SymbolIndex} {labels : List String}
  {asks stuck : SymbolEntry → Prop}

/-- A query gives an answer by every one of its ends: the matches, their number, the first of them,
their names and their occurrences. -/
structure Finds (q : SymbolQuery) (ss : List SymbolEntry) : Prop where
  all : q.all = .ok ss
  first : q.first = .ok ss.head?
  count : q.count = .ok ss.length
  names : q.names = .ok (ss.map SymbolEntry.name)
  occurrences : q.occurrences =
    .ok (q.index.occurrenceQuery.forSymbols (ss.map SymbolEntry.name))

/-- A query has no answer but for the first match, which it may have. -/
structure Fails (q : SymbolQuery) : Prop where
  all : q.all = .error .noWords
  count : q.count = .error .noWords
  names : q.names = .error .noWords
  occurrences : q.occurrences = .error .noWords

/-- What a query answers that goes through an index, asks for this property and is stuck at these
symbols. -/
structure Answers (q : SymbolQuery) (x : SymbolIndex) (asks stuck : SymbolEntry → Prop) :
    Prop where
  index : q.index = x
  found : ∀ [DecidablePred asks], (∀ s ∈ x.symbols, ¬stuck s) →
    q.Finds (x.symbols.filter fun s ↦ asks s)
  failed : (∃ s ∈ x.symbols, stuck s) → q.Fails
  first : ∀ s, q.first = .ok (some s) ↔ ∃ before after, x.symbols = before ++ s :: after ∧
    asks s ∧ ∀ t ∈ before, ¬asks t ∧ ¬stuck t
  first_failed : ∀ e, q.first = .error e ↔ e = .noWords ∧ ∃ before s after,
    x.symbols = before ++ s :: after ∧ stuck s ∧ ∀ t ∈ before, ¬asks t ∧ ¬stuck t

theorem finds_of_all_eq {ss : List SymbolEntry} (hall : q.all = .ok ss)
    (hfirst : q.first = .ok ss.head?) : q.Finds ss where
  all := hall
  first := hfirst
  count := by
    rw [count, hall]
    rfl
  names := by
    rw [names, hall]
    rfl
  occurrences := by
    rw [occurrences, names, hall]
    rfl

theorem fails_of_all_eq (hall : q.all = .error .noWords) : q.Fails where
  all := hall
  count := by
    rw [count, hall]
    rfl
  names := by
    rw [names, hall]
    rfl
  occurrences := by
    rw [occurrences, names, hall]
    rfl

theorem Narrowed.first_eq_head? (h : q.Narrowed x labels asks stuck) [DecidablePred asks]
    (hno : ∀ s ∈ x.symbols, ¬stuck s) :
    q.first = .ok (x.symbols.filter fun s ↦ asks s).head? := by
  rw [first, h.index]
  obtain ⟨hnone, hfirst⟩ | ⟨before, s, after, hsymbols, hbefore, hcases⟩ :=
    h.accepts.firstPassing_cases x.symbols
  · have hempty : (x.symbols.filter fun s ↦ asks s) = [] := by
      simpa [List.filter_eq_nil_iff] using fun s hs ↦ (hnone s hs).1
    rw [hfirst, hempty]
    rfl
  · obtain ⟨hs, hfirst⟩ | ⟨hs, -⟩ := hcases
    · have hgone : (before.filter fun s ↦ asks s) = [] := by
        simpa [List.filter_eq_nil_iff] using fun t ht ↦ (hbefore t ht).1
      rw [hfirst, hsymbols]
      simp [List.filter_append, hgone, hs]
    · exact absurd hs (hno s (by simp [hsymbols]))

theorem Narrowed.answers (h : q.Narrowed x labels asks stuck) : q.Answers x asks stuck where
  index := h.index
  found hno := by
    refine finds_of_all_eq ?_ (h.first_eq_head? hno)
    rw [all, h.index]
    exact h.accepts.keepPassing_eq_ok hno
  failed hstuck := by
    refine fails_of_all_eq ?_
    rw [all, h.index]
    exact h.accepts.keepPassing_eq_error hstuck
  first s := by
    rw [SymbolQuery.first, h.index]
    exact h.accepts.firstPassing_eq_some_iff
  first_failed e := by
    rw [SymbolQuery.first, h.index]
    exact h.accepts.firstPassing_eq_error_iff

end SymbolQuery

namespace SymbolIndex

/-- A query answers the symbols that every filter asks for, unless a symbol of white space without a
kind comes to a filter for methods or properties. -/
theorem answers_symbolsBy (x : SymbolIndex) (fs : List SymbolFilter) :
    (x.symbolsBy fs).labels = fs.map SymbolFilter.label ∧
      (x.symbolsBy fs).Answers x (SymbolFilter.Selects fs) (SymbolFilter.Stumbles fs) ∧
      ∀ s, SymbolFilter.Stumbles fs s →
        s.Wordless ∧ (SymbolFilter.isMethod ∈ fs ∨ SymbolFilter.isProperty ∈ fs) :=
  ⟨(narrowed_symbolsBy x fs).labels, (narrowed_symbolsBy x fs).answers,
    fun _ ↦ SymbolFilter.wordless_of_stumbles⟩

end SymbolIndex

namespace BlankSymbol

def document : Datum :=
  .object [("symbols", .object [(" ", .map [])]), ("occurrences", .list [])]

def index : SymbolIndex :=
  ⟨[⟨" ", none, [], []⟩], [], .standard, "<memory>"⟩

theorem fails_of_blank :
    SymbolIndex.decode "<memory>" .standard document = .ok index ∧
      (index.symbolsBy [.isMethod]).all = .error .noWords ∧
      (index.symbolsBy [.isMethod]).first = .error .noWords ∧
      (index.symbolsBy [.isMethod]).count = .error .noWords ∧
      (index.symbolsBy [.isProperty]).names = .error .noWords ∧
      (index.symbolsBy [.isProperty]).occurrences = .error .noWords ∧
      (index.symbolsBy [.isClass, .isMethod]).count = .ok 0 :=
  ⟨rfl, rfl, rfl, rfl, rfl, rfl, rfl⟩

end BlankSymbol

end GraphContracts
