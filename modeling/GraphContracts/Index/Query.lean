import GraphContracts.Expect
import GraphContracts.Index.Store
import GraphContracts.Symbol.Name
import GraphContracts.Text.Glob

namespace GraphContracts

/-- The last word of a name; the empty name is its own. -/
def descriptor (name : String) : Except Fault String :=
  if name = "" then .ok name
  else
    match Symbol.lastWord? name with
    | some w => .ok w
    | none => .error .noWords

/-- A condition that may have no answer. -/
structure PartialFilter (α : Type) where
  label : String
  test : α → Except Fault Bool

structure SymbolQuery where
  index : SymbolIndex
  filters : List (PartialFilter SymbolEntry)

/-- Whether an item passes every filter, asked in order up to the first that it does not pass. -/
def passesAll {α : Type} (a : α) : List (PartialFilter α) → Except Fault Bool
  | [] => .ok true
  | f :: fs => do if ← f.test a then passesAll a fs else pure false

def keepPassing {α : Type} (passes : α → Except Fault Bool) : List α → Except Fault (List α)
  | [] => .ok []
  | a :: as => do
    let keep ← passes a
    let rest ← keepPassing passes as
    pure (if keep then a :: rest else rest)

def firstPassing {α : Type} (passes : α → Except Fault Bool) : List α → Except Fault (Option α)
  | [] => .ok none
  | a :: as => do if ← passes a then pure (some a) else firstPassing passes as

theorem keepPassing_total {α : Type} {passes : α → Except Fault Bool} {test : α → Bool}
    {as : List α} (h : ∀ a ∈ as, passes a = .ok (test a)) :
    keepPassing passes as = .ok (as.filter test) := by
  induction as with
  | nil => rfl
  | cons a as ih =>
    simp only [keepPassing, h a (.head _), ih fun b hb => h b (.tail _ hb), bind, Except.bind, pure,
      Except.pure, List.filter_cons]

namespace SymbolQuery

def filtered (q : SymbolQuery) (label : String) (test : SymbolEntry → Bool) : SymbolQuery :=
  { q with filters := q.filters ++ [⟨label, fun s => .ok (test s)⟩] }

def filteredPartly (q : SymbolQuery) (label : String) (test : SymbolEntry → Except Fault Bool) :
    SymbolQuery :=
  { q with filters := q.filters ++ [⟨label, test⟩] }

def labels (q : SymbolQuery) : List String :=
  q.filters.map PartialFilter.label

def describeFilters (q : SymbolQuery) : String :=
  Expect.describeFilters q.labels

def accepts (q : SymbolQuery) (s : SymbolEntry) : Except Fault Bool :=
  passesAll s q.filters

def all (q : SymbolQuery) : Except Fault (List SymbolEntry) :=
  keepPassing q.accepts q.index.symbols

def first (q : SymbolQuery) : Except Fault (Option SymbolEntry) :=
  firstPassing q.accepts q.index.symbols

def count (q : SymbolQuery) : Except Fault Nat := do
  pure (← q.all).length

def isInhabited (q : SymbolQuery) : Except Fault Bool := do
  pure (← q.first).isSome

def noun : String :=
  "symbol"

def one (q : SymbolQuery) : Except Fault SymbolEntry := do
  (Expect.one noun q.labels (← q.all)).mapError .failure

def assertCount (q : SymbolQuery) (expected : Int) : Except Fault SymbolQuery := do
  ((Expect.count noun q.labels expected (← q.count)).map fun _ => q).mapError .failure

def assertExists (q : SymbolQuery) : Except Fault SymbolQuery := do
  ((Expect.atLeastOne noun q.labels (← q.isInhabited)).map fun _ => q).mapError .failure

def assertEmpty (q : SymbolQuery) : Except Fault SymbolQuery := do
  ((Expect.noneFound noun q.labels (← q.count)).map fun _ => q).mapError .failure

def symbol (q : SymbolQuery) (name : String) : SymbolQuery :=
  q.filtered s!"symbol={name}" fun s => s.name = name

def symbolContains (q : SymbolQuery) (part : String) : SymbolQuery :=
  q.filtered s!"symbol~{part}" fun s => Text.contains part s.name

def symbolMatches (q : SymbolQuery) (pattern : String) : SymbolQuery :=
  q.filtered s!"symbol={Text.quoted pattern}" fun s => Text.globMatches pattern (some s.name)

def ofKind (q : SymbolQuery) (kind : String) : SymbolQuery :=
  let wanted := Text.lower kind
  q.filtered s!"kind={wanted}" fun s => s.kind = some wanted

def isClass (q : SymbolQuery) : SymbolQuery :=
  q.filtered "is_class" SymbolEntry.isClass

/-- A condition on the kind, or where there is none on the descriptor. -/
def byKindOr (kind : String) (test : String → Bool) (s : SymbolEntry) : Except Fault Bool :=
  match nonEmpty s.kind with
  | some k => .ok (k = kind)
  | none => (descriptor s.name).map test

def isMethod (q : SymbolQuery) : SymbolQuery :=
  q.filteredPartly "is_method" (byKindOr "method" (Text.endsWith "()."))

def isProperty (q : SymbolQuery) : SymbolQuery :=
  q.filteredPartly "is_property" (byKindOr "property" (Text.contains "#$"))

def hasDocumentation (q : SymbolQuery) : SymbolQuery :=
  q.filtered "has_documentation" fun s => s.documentation.any fun d => d ≠ ""

def hasRelationships (q : SymbolQuery) : SymbolQuery :=
  q.filtered "has_relationships" fun s => !s.relationships.isEmpty

def hasRelationshipKind (q : SymbolQuery) (kind : String) : SymbolQuery :=
  q.filtered s!"relationship={kind}" fun s => s.relationships.any fun r => r.hasKind kind

def names (q : SymbolQuery) : Except Fault (List String) := do
  pure ((← q.all).map SymbolEntry.name)

def relationships (q : SymbolQuery) : Except Fault (List Relationship) := do
  pure ((← q.all).flatMap SymbolEntry.relationships)

end SymbolQuery

/-- The occurrences of an index, or of the symbols named by `symbols`, narrowed by conditions. A
choice of symbols leaves a label but no condition. -/
structure OccurrenceQuery where
  index : SymbolIndex
  symbols : Option (List String)
  tests : List (Occurrence → Bool)
  labels : List String

namespace OccurrenceQuery

def filtered (q : OccurrenceQuery) (label : String) (test : Occurrence → Bool) :
    OccurrenceQuery :=
  { q with tests := q.tests ++ [test], labels := q.labels ++ [label] }

/-- The occurrences before any condition; with symbols chosen, those of each symbol in turn. -/
def candidates (q : OccurrenceQuery) : List Occurrence :=
  match q.symbols with
  | none => q.index.occurrences
  | some names => names.flatMap q.index.occurrencesFor

def accepts (q : OccurrenceQuery) (o : Occurrence) : Bool :=
  q.tests.all fun t => t o

def all (q : OccurrenceQuery) : List Occurrence :=
  q.candidates.filter q.accepts

def first (q : OccurrenceQuery) : Option Occurrence :=
  q.all.head?

def count (q : OccurrenceQuery) : Nat :=
  q.all.length

def isInhabited (q : OccurrenceQuery) : Bool :=
  q.first.isSome

def describeFilters (q : OccurrenceQuery) : String :=
  Expect.describeFilters q.labels

def noun : String :=
  "occurrence"

def one (q : OccurrenceQuery) : Except Failure Occurrence :=
  Expect.one noun q.labels q.all

def assertCount (q : OccurrenceQuery) (expected : Int) : Except Failure OccurrenceQuery :=
  (Expect.count noun q.labels expected q.count).map fun _ => q

def assertExists (q : OccurrenceQuery) : Except Failure OccurrenceQuery :=
  (Expect.atLeastOne noun q.labels q.isInhabited).map fun _ => q

def assertEmpty (q : OccurrenceQuery) : Except Failure OccurrenceQuery :=
  (Expect.noneFound noun q.labels q.count).map fun _ => q

def choose (q : OccurrenceQuery) (names : List String) (label : String) : OccurrenceQuery :=
  { q with symbols := some names, labels := q.labels ++ [label] }

def forSymbol (q : OccurrenceQuery) (name : String) : OccurrenceQuery :=
  q.choose [name] s!"symbol={name}"

def forSymbols (q : OccurrenceQuery) (names : List String) : OccurrenceQuery :=
  q.choose names s!"symbols[{names.length}]"

def symbolContains (q : OccurrenceQuery) (part : String) : OccurrenceQuery :=
  q.filtered s!"symbol~{part}" fun o => Text.contains part o.symbol

def symbolMatches (q : OccurrenceQuery) (pattern : String) : OccurrenceQuery :=
  q.filtered s!"symbol={Text.quoted pattern}" fun o => Text.globMatches pattern (some o.symbol)

def inFile (q : OccurrenceQuery) (part : String) : OccurrenceQuery :=
  q.filtered s!"file~{part}" fun o => Text.contains part o.file

def atLine (q : OccurrenceQuery) (line : Int) : OccurrenceQuery :=
  q.filtered s!"line={line}" fun o => o.line = line

def betweenLines (q : OccurrenceQuery) (low high : Int) : OccurrenceQuery :=
  q.filtered s!"lines={low}..{high}" fun o => low ≤ o.line && o.line ≤ high

def isDefinition (q : OccurrenceQuery) : OccurrenceQuery :=
  q.filtered "definition" fun o => q.index.roles.isDefinition o.roles

def isReference (q : OccurrenceQuery) : OccurrenceQuery :=
  q.filtered "reference" fun o => q.index.roles.isReference o.roles

/-- Only roles of the schema can be asked for. -/
def hasRole (q : OccurrenceQuery) (name : String) : Except String OccurrenceQuery := do
  let bit ← q.index.roles.bit name
  pure (q.filtered s!"role={name}" fun o => sharesBit o.roles bit)

def files (q : OccurrenceQuery) : List String :=
  distinctBy id [] (q.all.map Occurrence.file)

theorem all_filtered (q : OccurrenceQuery) (label : String) (test : Occurrence → Bool) :
    (q.filtered label test).all = q.all.filter test := by
  simp only [all, candidates, filtered, List.filter_filter]
  congr 1
  funext o
  simp [accepts, Bool.and_comm]

end OccurrenceQuery

namespace SymbolIndex

def symbolQuery (x : SymbolIndex) : SymbolQuery :=
  ⟨x, []⟩

def occurrenceQuery (x : SymbolIndex) : OccurrenceQuery :=
  ⟨x, none, [], []⟩

def symbolsNamed (x : SymbolIndex) (nameOrPattern : String) : SymbolQuery :=
  let isPlain := !nameOrPattern.toList.contains '/' && !nameOrPattern.toList.contains '#'
  let name := if isPlain then Symbol.normalizeClass nameOrPattern else nameOrPattern
  if Text.isGlob name then x.symbolQuery.symbolMatches name else x.symbolQuery.symbolContains name

def occurrenceAt (x : SymbolIndex) (file : String) (line : Int) : OccurrenceQuery :=
  (x.occurrenceQuery.inFile file).atLine line

def roleNames (x : SymbolIndex) (o : Occurrence) : List String :=
  x.roles.names o.roles

end SymbolIndex

namespace SymbolQuery

def occurrences (q : SymbolQuery) : Except Fault OccurrenceQuery := do
  pure (q.index.occurrenceQuery.forSymbols (← q.names))

end SymbolQuery

end GraphContracts
