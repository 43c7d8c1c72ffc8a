import GraphContracts.Catalog.Table
import GraphContracts.Session
import GraphContracts.Terminal.Page

namespace GraphContracts.CommandLine.Listing

open Terminal

def checkMark : String := "\u2713"

def crossMark : String := "\u2717"

def bullet : String := "\u2022"

def styled (style text : String) : String :=
  s!"[{style}]{text}[/{style}]"

def checkTable (r : IntegrityReport) : Table where
  columns := [⟨"Check", .left⟩, ⟨"Issues", .right⟩]
  rows := r.checks.map fun c =>
    let mark := if c.passed then styled "green" checkMark else styled "red" crossMark
    [mark ++ " " ++ c.check.name, toString c.count]

def findingBlocks (c : CheckResult) : List Block :=
  .text ("\n" ++ styled "red" c.check.name) ::
    c.findings.map fun f => .text ("  " ++ styled "cyan" bullet ++ " " ++ f.message)

def reportPage (path : Path) (g : CallGraph) (r : IntegrityReport) : List Block :=
  let title := styled "bold" (toString path)
  [.text s!"{title}: {g.values.length} values, {g.calls.length} calls", .table (checkTable r)] ++
    (r.checks.filter fun c => !c.passed).flatMap findingBlocks ++
    [.blank, .text (styled (if r.hasIssues then "red" else "green") r.summary)]

structure SymbolRow where
  name : String
  kind : Option String
  occurrences : Nat
  deriving DecidableEq, Repr

def SymbolRow.record (r : SymbolRow) : Datum :=
  .object [("symbol", .text r.name), ("kind", .optional .text r.kind),
    ("occurrences", .nat r.occurrences)]

/-- The symbols that are asked for. An empty pattern asks for all. -/
def symbolRows (x : SymbolIndex) (pattern : Option String) (classes : Bool) :
    Except Fault (List SymbolRow) := do
  let named := match pattern with
    | none | some "" => x.symbolQuery
    | some p => x.symbolsNamed p
  let symbols ← (if classes then named.isClass else named).all
  pure (symbols.map fun s => ⟨s.name, s.kind, (x.occurrencesFor s.name).length⟩)

def absentMark : String := "-"

def orAbsent (s : String) : String :=
  if s.isEmpty then absentMark else s

def tableOr (remark : String) (t : Table) : List Block :=
  if t.rows.isEmpty then [.text (styled "yellow" remark)] else [.table t]

def symbolPage (rows : List SymbolRow) : List Block :=
  tableOr "No matching symbols" {
    columns := [⟨"Symbol", .left⟩, ⟨"Kind", .left⟩, ⟨"Occurrences", .right⟩]
    rows := rows.map fun r => [r.name, orAbsent (r.kind.getD ""), toString r.occurrences] }

def catalogTests (c : Catalog) (category : Option String) : List (String × ContractEntry) :=
  match category with
  | none | some "" => c.entries
  | some name => c.byCategory name

def statusText (e : ContractEntry) : String :=
  e.status.name ++ if e.experimental then " (experimental)" else ""

def catalogPage (tests : List (String × ContractEntry)) : List Block :=
  tableOr "No contract tests registered" {
    columns := ["Test", "Name", "Category", "Status"].map fun title => ⟨title, .left⟩
    rows := tests.map fun (id, e) => [id, e.name, orAbsent e.category, statusText e] }

end GraphContracts.CommandLine.Listing
