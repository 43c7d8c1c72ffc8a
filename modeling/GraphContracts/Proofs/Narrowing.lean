import GraphContracts.Index.Query
import Mathlib.Data.List.Count
import Mathlib.Data.List.Perm.Subperm

namespace GraphContracts

namespace RoleSchema

theorem lookup_of_bit {s : RoleSchema} {role : String} {b : Int} (h : s.bit role = .ok b) :
    s.flags.lookup role = some b := by
  unfold bit at h
  split at h <;> grind

end RoleSchema

namespace SymbolIndex

theorem count_occurrencesFor (x : SymbolIndex) (symbol : String) (o : Occurrence) :
    (x.occurrencesFor symbol).count o = if o.symbol = symbol then x.occurrences.count o else 0 := by
  split
  · rename_i h
    rw [occurrencesFor_eq_filter]
    exact List.count_filter (by simpa using h)
  · rename_i h
    exact List.count_eq_zero.2 fun ho ↦ h (mem_occurrencesFor.1 ho).2

theorem count_flatMap_occurrencesFor (x : SymbolIndex) (names : List String) (o : Occurrence) :
    (names.flatMap x.occurrencesFor).count o = names.count o.symbol * x.occurrences.count o := by
  induction names with
  | nil => simp
  | cons name names ih =>
    rw [List.flatMap_cons, List.count_append, ih, count_occurrencesFor, List.count_cons,
      Nat.add_mul, Nat.add_comm]
    congr 1
    by_cases h : o.symbol = name
    · simp [h]
    · simp [h, Ne.symm h]

end SymbolIndex

namespace OccurrenceQuery

@[simp] theorem accepts_filtered (q : OccurrenceQuery) (label : String) (test : Occurrence → Bool)
    (o : Occurrence) : (q.filtered label test).accepts o = (q.accepts o && test o) := by
  simp [accepts, filtered]

end OccurrenceQuery

/-- A filter of an occurrence query. The shorthands for roles are `hasRole` at their role. -/
inductive OccurrenceFilter where
  | forSymbol (name : String)
  | forSymbols (names : List String)
  | symbolContains (part : String)
  | symbolMatches (pattern : String)
  | inFile (part : String)
  | atLine (line : Int)
  | betweenLines (low high : Int)
  | isDefinition
  | isReference
  | hasRole (name : String)
  | holds (label : String) (test : Occurrence → Bool)

namespace OccurrenceFilter

def apply : OccurrenceFilter → OccurrenceQuery → Except String OccurrenceQuery
  | forSymbol name, q => .ok (q.forSymbol name)
  | forSymbols names, q => .ok (q.forSymbols names)
  | symbolContains part, q => .ok (q.symbolContains part)
  | symbolMatches pattern, q => .ok (q.symbolMatches pattern)
  | inFile part, q => .ok (q.inFile part)
  | atLine line, q => .ok (q.atLine line)
  | betweenLines low high, q => .ok (q.betweenLines low high)
  | isDefinition, q => .ok q.isDefinition
  | isReference, q => .ok q.isReference
  | hasRole name, q => q.hasRole name
  | holds label test, q => .ok (q.filtered label test)

def label : OccurrenceFilter → String
  | forSymbol name => s!"symbol={name}"
  | forSymbols names => s!"symbols[{names.length}]"
  | symbolContains part => s!"symbol~{part}"
  | symbolMatches pattern => s!"symbol={Text.quoted pattern}"
  | inFile part => s!"file~{part}"
  | atLine line => s!"line={line}"
  | betweenLines low high => s!"lines={low}..{high}"
  | isDefinition => "definition"
  | isReference => "reference"
  | hasRole name => s!"role={name}"
  | holds label _ => label

def meets (x : SymbolIndex) : OccurrenceFilter → Occurrence → Bool
  | forSymbol name, o => o.symbol = name
  | forSymbols names, o => names.contains o.symbol
  | symbolContains part, o => Text.contains part o.symbol
  | symbolMatches pattern, o => Text.globMatches pattern (some o.symbol)
  | inFile part, o => Text.contains part o.file
  | atLine line, o => o.line = line
  | betweenLines low high, o => low ≤ o.line && o.line ≤ high
  | isDefinition, o => x.roles.isDefinition o.roles
  | isReference, o => x.roles.isReference o.roles
  | hasRole name, o => (x.roles.flags.lookup name).any (sharesBit o.roles)
  | holds _ test, o => test o

/-- The symbols that the filter chooses; a condition chooses none. -/
def names? : OccurrenceFilter → Option (List String)
  | forSymbol name => some [name]
  | forSymbols names => some names
  | _ => none

/-- The query has these filters, in this order. -/
inductive Built (x : SymbolIndex) : List OccurrenceFilter → OccurrenceQuery → Prop
  | start : Built x [] x.occurrenceQuery
  | further {fs : List OccurrenceFilter} {f : OccurrenceFilter} {q q' : OccurrenceQuery} :
      Built x fs q → f.apply q = .ok q' → Built x (fs ++ [f]) q'

/-- The occurrence meets every condition among the filters. -/
def Admits (x : SymbolIndex) (fs : List OccurrenceFilter) (o : Occurrence) : Prop :=
  ∀ f ∈ fs, f.names? = none → f.meets x o = true

instance (x : SymbolIndex) (fs : List OccurrenceFilter) (o : Occurrence) :
    Decidable (Admits x fs o) :=
  inferInstanceAs (Decidable (∀ f ∈ fs, f.names? = none → f.meets x o = true))

/-- The occurrence is one that every listed filter asks for. -/
def Listed (x : SymbolIndex) (fs : List OccurrenceFilter) (o : Occurrence) : Prop :=
  ∀ f ∈ fs, f.meets x o = true

instance (x : SymbolIndex) (fs : List OccurrenceFilter) (o : Occurrence) :
    Decidable (Listed x fs o) :=
  inferInstanceAs (Decidable (∀ f ∈ fs, f.meets x o = true))

/-- How often the last choice names a symbol. Without a choice every symbol counts once. -/
def timesNamed (fs : List OccurrenceFilter) (symbol : String) : Nat :=
  (fs.filterMap names?).getLast?.elim 1 (List.count symbol)

variable {x : SymbolIndex} {fs : List OccurrenceFilter} {f : OccurrenceFilter}
  {q q' : OccurrenceQuery} {o : Occurrence} {names : List String}

theorem apply_cases (f : OccurrenceFilter) (q : OccurrenceQuery) :
    (∃ role message, f = .hasRole role ∧ q.index.roles.bit role = .error message ∧
        f.apply q = .error message) ∨
      (f.names? = none ∧ f.apply q = .ok (q.filtered f.label (f.meets q.index))) ∨
      ∃ names, f.names? = some names ∧ f.apply q = .ok (q.choose names f.label) := by
  cases f with
  | forSymbol name => exact .inr (.inr ⟨[name], rfl, rfl⟩)
  | forSymbols names => exact .inr (.inr ⟨names, rfl, rfl⟩)
  | hasRole role =>
    have happly : (hasRole role).apply q = q.index.roles.bit role >>= fun bit ↦
        .ok (q.filtered s!"role={role}" fun o ↦ sharesBit o.roles bit) := rfl
    cases hbit : q.index.roles.bit role with
    | error message => exact .inl ⟨role, message, rfl, hbit, by rw [happly, hbit]; rfl⟩
    | ok bit =>
      have hmeets : meets q.index (hasRole role) = fun o ↦ sharesBit o.roles bit := by
        funext o
        rw [meets, RoleSchema.lookup_of_bit hbit, Option.any_some]
      exact .inr (.inl ⟨rfl, by rw [happly, hbit, hmeets]; rfl⟩)
  | _ => exact .inr (.inl ⟨rfl, rfl⟩)

theorem meets_of_choice (h : f.names? = some names) : f.meets x o = true ↔ o.symbol ∈ names := by
  cases f <;> cases h <;> simp [meets]

theorem listed_iff :
    Listed x fs o ↔ Admits x fs o ∧ ∀ names ∈ fs.filterMap names?, o.symbol ∈ names := by
  constructor
  · intro h
    refine ⟨fun f hf _ ↦ h f hf, fun names hnames ↦ ?_⟩
    obtain ⟨f, hf, hchoice⟩ := List.mem_filterMap.1 hnames
    exact (meets_of_choice hchoice).1 (h f hf)
  · rintro ⟨hadmits, hnamed⟩ f hf
    cases hchoice : f.names? with
    | none => exact hadmits f hf hchoice
    | some names =>
      exact (meets_of_choice hchoice).2 (hnamed names (List.mem_filterMap.2 ⟨f, hf, hchoice⟩))

theorem admits_append :
    Admits x (fs ++ [f]) o ↔ Admits x fs o ∧ (f.names? = none → f.meets x o = true) := by
  simp [Admits, or_imp, forall_and]

theorem timesNamed_append_of_choice (h : f.names? = some names) (symbol : String) :
    timesNamed (fs ++ [f]) symbol = names.count symbol := by
  simp [timesNamed, List.filterMap_append, h]

/-- A query draws from the last choice and asks every condition. -/
theorem Built.spec (h : Built x fs q) :
    q.index = x ∧ q.symbols = (fs.filterMap names?).getLast? ∧ q.labels = fs.map label ∧
      ∀ o, q.accepts o = true ↔ Admits x fs o := by
  induction h with
  | start =>
    exact ⟨rfl, rfl, rfl, fun o ↦ by
      simp [Admits, OccurrenceQuery.accepts, SymbolIndex.occurrenceQuery]⟩
  | @further fs f q q' _ happly ih =>
    obtain ⟨rfl, hsymbols, hlabels, haccepts⟩ := ih
    obtain ⟨_, _, -, -, he⟩ | ⟨hnames, he⟩ | ⟨names, hnames, he⟩ := f.apply_cases q
    · cases he.symm.trans happly
    · cases he.symm.trans happly
      refine ⟨rfl, ?_, ?_, fun o ↦ ?_⟩
      · simp [OccurrenceQuery.filtered, hsymbols, List.filterMap_append, hnames]
      · simp [OccurrenceQuery.filtered, hlabels]
      · simp [haccepts, admits_append, hnames]
    -- A choice leaves the conditions before it in force, but not the choices.
    · cases he.symm.trans happly
      refine ⟨rfl, ?_, ?_, fun o ↦ ?_⟩
      · simp [OccurrenceQuery.choose, List.filterMap_append, hnames]
      · simp [OccurrenceQuery.choose, hlabels]
      · simp only [admits_append, hnames, reduceCtorEq, false_imp_iff, and_true, ← haccepts]
        rfl

theorem count_all (h : Built x fs q) (o : Occurrence) :
    q.all.count o =
      if Admits x fs o then timesNamed fs o.symbol * x.occurrences.count o else 0 := by
  obtain ⟨rfl, hsymbols, -, haccepts⟩ := h.spec
  have hcandidates :
      q.candidates.count o = timesNamed fs o.symbol * q.index.occurrences.count o := by
    rw [OccurrenceQuery.candidates, timesNamed, ← hsymbols]
    cases q.symbols with
    | none => simp
    | some names => exact SymbolIndex.count_flatMap_occurrencesFor ..
  split
  · rename_i hadmits
    rw [OccurrenceQuery.all, List.count_filter ((haccepts o).2 hadmits), hcandidates]
  · rename_i hadmits
    exact List.count_eq_zero.2 fun ho ↦ hadmits ((haccepts o).1 (List.mem_filter.1 ho).2)

theorem mem_of_mem_all (h : Built x fs q) (ho : o ∈ q.all) : o ∈ x.occurrences ∧ Admits x fs o := by
  have hpos := List.count_pos_iff.2 ho
  rw [count_all h] at hpos
  split at hpos
  · rename_i hadmits
    exact ⟨List.count_pos_iff.1 (Nat.pos_of_mul_pos_left hpos), hadmits⟩
  · cases hpos

theorem subperm_iff_timesNamed (h : Built x fs q) {os : List Occurrence} (times : Occurrence → Nat)
    (hcount : ∀ o, Admits x fs o → os.count o = times o * x.occurrences.count o) :
    q.all.Subperm os ↔ ∀ o ∈ x.occurrences, Admits x fs o → timesNamed fs o.symbol ≤ times o := by
  constructor
  · intro hsub o ho hadmits
    have hle := hsub.count_le o
    rw [count_all h, if_pos hadmits, hcount o hadmits] at hle
    exact Nat.le_of_mul_le_mul_right hle (List.count_pos_iff.2 ho)
  · intro hle
    refine List.subperm_ext_iff.2 fun o hmem ↦ ?_
    obtain ⟨ho, hadmits⟩ := mem_of_mem_all h hmem
    rw [count_all h, if_pos hadmits, hcount o hadmits]
    exact Nat.mul_le_mul_right _ (hle o ho hadmits)

/-- The filters compose by conjunction exactly where the last choice names once what all choices
name, and nothing else that the conditions admit. -/
theorem perm_listed_iff (h : Built x fs q) :
    q.all.Perm (x.occurrences.filter fun o ↦ Listed x fs o) ↔
      ∀ o ∈ x.occurrences, Admits x fs o →
        timesNamed fs o.symbol = if Listed x fs o then 1 else 0 := by
  have hlisted : ∀ o, (x.occurrences.filter fun o ↦ Listed x fs o).count o =
      (if Listed x fs o then 1 else 0) * x.occurrences.count o := by
    intro o
    split
    · rename_i ho
      rw [List.count_filter (by simpa using ho), Nat.one_mul]
    · rename_i ho
      rw [Nat.zero_mul, List.count_eq_zero]
      exact fun hmem ↦ ho (by simpa using (List.mem_filter.1 hmem).2)
  rw [List.perm_iff_count]
  constructor
  · intro hcounts o ho hadmits
    have hcount := hcounts o
    rw [count_all h, if_pos hadmits, hlisted] at hcount
    exact Nat.eq_of_mul_eq_mul_right (List.count_pos_iff.2 ho) hcount
  · intro htimes o
    rw [count_all h, hlisted]
    by_cases ho : o ∈ x.occurrences
    · split
      · rename_i hadmits
        rw [htimes o ho hadmits]
      · rename_i hno
        rw [if_neg fun hall ↦ hno (listed_iff.1 hall).1, Nat.zero_mul]
    · simp [List.count_eq_zero.2 ho]

theorem all_of_further (h : Built x fs q) (h' : f.apply q = .ok q') :
    (f.names? = none → q'.all = q.all.filter (f.meets x)) ∧
      ∀ names : List String, f.names? = some names → (q'.all.Subperm q.all ↔
        ∀ o ∈ x.occurrences, Admits x fs o → names.count o.symbol ≤ timesNamed fs o.symbol) := by
  constructor
  · intro hnames
    obtain ⟨_, _, -, -, he⟩ | ⟨-, he⟩ | ⟨names, hsome, -⟩ := f.apply_cases q
    · cases he.symm.trans h'
    · cases he.symm.trans h'
      rw [OccurrenceQuery.all_filtered, h.spec.1]
    · cases hnames.symm.trans hsome
  · intro names hnames
    have hadmits : ∀ o, Admits x (fs ++ [f]) o ↔ Admits x fs o := by simp [admits_append, hnames]
    rw [subperm_iff_timesNamed (h.further h') fun o ↦ timesNamed fs o.symbol]
    · simp only [hadmits, timesNamed_append_of_choice hnames]
    · intro o ho
      rw [count_all h, if_pos ((hadmits o).1 ho)]

/-- What a query lists, how often it answers what is stored, when it answers nothing more often than
it is stored, when its filters compose by conjunction, and what a further filter leaves of it. -/
theorem all_of_built (h : Built x fs q) :
    q.labels = fs.map label ∧
      (∀ o, q.all.count o =
        if Admits x fs o then timesNamed fs o.symbol * x.occurrences.count o else 0) ∧
      (q.all.Subperm x.occurrences ↔
        ∀ o ∈ x.occurrences, Admits x fs o → timesNamed fs o.symbol ≤ 1) ∧
      (q.all.Perm (x.occurrences.filter fun o ↦ Listed x fs o) ↔
        ∀ o ∈ x.occurrences, Admits x fs o →
          timesNamed fs o.symbol = if Listed x fs o then 1 else 0) ∧
      ∀ f : OccurrenceFilter,
        (∃ role message, f = .hasRole role ∧ x.roles.bit role = .error message ∧
          f.apply q = .error message) ∨
        ∃ q' : OccurrenceQuery, f.apply q = .ok q' ∧
          (f.names? = none → q'.all = q.all.filter (f.meets x)) ∧
          ∀ names : List String, f.names? = some names → (q'.all.Subperm q.all ↔
            ∀ o ∈ x.occurrences, Admits x fs o →
              names.count o.symbol ≤ timesNamed fs o.symbol) := by
  refine ⟨h.spec.2.2.1, count_all h, ?_, perm_listed_iff h, fun f ↦ ?_⟩
  · exact subperm_iff_timesNamed h (fun _ ↦ 1) fun o _ ↦ (Nat.one_mul _).symm
  · obtain ⟨role, message, hf, hbit, he⟩ | ⟨-, he⟩ | ⟨names, -, he⟩ := f.apply_cases q
    · exact .inl ⟨role, message, hf, h.spec.1 ▸ hbit, he⟩
    · exact .inr ⟨_, he, all_of_further h he⟩
    · exact .inr ⟨_, he, all_of_further h he⟩

end OccurrenceFilter

namespace OrderAndService

open OccurrenceFilter

def place (symbol : String) (line : Int) : Datum :=
  .object [("symbol", .text symbol), ("_file", .text "src/Order.php"),
    ("range", .list [.int line, .int 0, .int 5]), ("symbolRoles", .int 1)]

def document : Datum :=
  .object [("occurrences", .list [place "App/Order#" 1, place "App/Service#" 7,
    place "App/Order#" 1])]

def occurrence (symbol : String) (line : Int) : Occurrence :=
  ⟨symbol, "src/Order.php", line, 0, line, 5, 1⟩

def order : Occurrence :=
  occurrence "App/Order#" 1

def service : Occurrence :=
  occurrence "App/Service#" 7

def index : SymbolIndex :=
  ⟨[], [order, service, order], .standard, "<memory>"⟩

def orders : OccurrenceQuery :=
  index.occurrenceQuery.forSymbol "App/Order#"

theorem all_of_orders : SymbolIndex.decode "<memory>" .standard document = .ok index ∧
    Built index [forSymbol "App/Order#"] orders ∧ orders.all.count order = 2 ∧
    orders.all.Subperm index.occurrences ∧ (orders.atLine 2).all = [order, order] := by
  have hbuilt : Built index [forSymbol "App/Order#"] orders := .further .start rfl
  obtain ⟨-, hcount, hstored, -, hfurther⟩ := all_of_built hbuilt
  refine ⟨rfl, hbuilt, (hcount order).trans (by decide), hstored.2 (by decide), ?_⟩
  obtain ⟨_, _, ⟨⟩, -⟩ | ⟨q, hq, hcondition, -⟩ := hfurther (atLine 2)
  cases hq
  exact (hcondition rfl).trans (by decide)

theorem not_subperm_of_choices :
    SymbolIndex.decode "<memory>" .standard document = .ok index ∧
      Built index [forSymbol "App/Order#"] orders ∧
      (forSymbol "App/Service#").apply orders = .ok (orders.forSymbol "App/Service#") ∧
      (orders.forSymbol "App/Service#").labels = ["symbol=App/Order#", "symbol=App/Service#"] ∧
      ¬(orders.forSymbol "App/Service#").all.Subperm orders.all ∧
      (index.occurrenceQuery.forSymbols ["App/Order#", "App/Order#"]).all.count order = 4 ∧
      index.occurrences.count order = 2 := by
  refine ⟨rfl, .further .start rfl, rfl, by decide, fun hsub ↦ ?_, by decide, by decide⟩
  have hno : service ∉ orders.all := by decide
  exact hno (hsub.subset (by decide))

end OrderAndService

end GraphContracts
