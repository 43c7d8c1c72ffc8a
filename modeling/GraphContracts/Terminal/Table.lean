import GraphContracts.Number.Binary64
import GraphContracts.Terminal.Markup
import GraphContracts.Terminal.Wrap

namespace GraphContracts.Terminal

open Text (cells isBlank)

inductive Align where
  | left
  | right
  deriving DecidableEq, Repr

structure Column where
  title : String
  align : Align
  deriving DecidableEq, Repr

structure Table where
  columns : List Column
  rows : List (List String)
  deriving DecidableEq, Repr

namespace Table

def endsLine (c : Char) : Bool :=
  [0x0a, 0x1c, 0x1d, 0x1e, 0x85, 0x2028, 0x2029].contains c.toNat

def widestFrom (width : Nat) : List Char → Nat
  | [] => width
  | c :: cs =>
    if endsLine c then max width (widestFrom 0 cs)
    else widestFrom (width + Text.cellWidth c) cs

def widest (cs : List Char) : Nat :=
  widestFrom 0 cs

structure Margin where
  before : Nat
  behind : Nat

def Margin.total (m : Margin) : Nat :=
  m.before + m.behind

def margin (count index : Nat) : Margin :=
  ⟨if index = 0 then 0 else 1, if index + 1 = count then 0 else 1⟩

def cellMeasure (limit : Nat) (m : Margin) (cs : List Char) : Nat :=
  if limit ≤ m.total then limit else min (min (widest cs) limit + m.total) limit

def measure (limit : Nat) (m : Margin) (contents : List (List Char)) : Nat :=
  ((contents.map (cellMeasure limit m)).max?).getD 0

/-- Takes `excess` from the widths in equal shares, as far as every share may go. A width
without a limit takes no part; `sharers` counts those that do. -/
def takeShares (excess sharers : Nat) : List (Option Nat × Nat) → List Nat
  | [] => []
  | (none, width) :: rest => width :: takeShares excess sharers rest
  | (some limit, width) :: rest =>
    let share := min limit (Binary64.divRound excess sharers)
    (width - share) :: takeShares (excess - share) (sharers - 1) rest

def total (widths : List Nat) : Nat :=
  widths.foldl (· + ·) 0

/-- Makes the widest columns narrower, down to the next width, until all have room. Every round
takes something, so that there are no more rounds than cells. -/
def narrowFor (limit : Nat) : (rounds : Nat) → List Nat → List Nat
  | 0, widths => widths
  | rounds + 1, widths =>
    let excess := total widths - limit
    if excess = 0 then widths
    else
      let most := widths.max?.getD 0
      let next := ((widths.filter (· ≠ most)).max?).getD 0
      let share := min excess (most - next)
      let slots := widths.map fun w => (if w = most then some share else none, w)
      narrowFor limit rounds (takeShares excess (widths.count most) slots)

def narrow (limit : Nat) (widths : List Nat) : List Nat :=
  narrowFor limit (total widths) widths

def laidOut (t : Table) (contents : List (List (List Char))) :
    List (Column × Margin × List (List Char)) :=
  t.columns.zipIdx.map fun (c, i) =>
    (c, margin t.columns.length i, c.title.toList :: contents.map fun row => row[i]?.getD [])

/-- The widths of the columns. Narrowed columns are measured once more, since their contents may
need less now. -/
def widths (limit : Nat) (columns : List (Column × Margin × List (List Char))) : List Nat :=
  let asked := columns.map fun (_, m, contents) => max 1 (measure limit m contents)
  if total asked ≤ limit then asked
  else
    (columns.zip (narrow limit asked)).map fun ((_, m, contents), width) =>
      measure width m contents

def blanks (n : Nat) : List Char :=
  List.replicate n ' '

def align (a : Align) (width : Nat) (line : List Char) : List Char :=
  match a with
  | .left =>
    let shown := Wrap.shorten .ellipsis width line
    shown ++ blanks (width - cells shown)
  | .right =>
    let shown := Wrap.shorten .ellipsis width (Text.dropTrailing isBlank line)
    blanks (width - cells shown) ++ shown

/-- The lines of a cell, each as wide as its column. A column that is not wider than its margins
shows nothing. -/
def cellLines (a : Align) (m : Margin) (width : Nat) (cs : List Char) : List (List Char) :=
  if width ≤ m.total then []
  else
    let inner := width - m.total
    (Wrap.lines .ellipsis inner cs).map fun line =>
      blanks m.before ++ align a inner line ++ blanks m.behind

/-- The lines of a row of cells. Titles stand at the bottom of their row and cells at the top. -/
def rowLines (atBottom : Bool) (row : List (Nat × List (List Char))) : List (List Char) :=
  let height := max 1 ((row.map fun (_, lines) => lines.length).max?.getD 0)
  let filled := row.map fun (width, lines) =>
    let rest := List.replicate (height - lines.length) (blanks width)
    if atBottom then rest ++ lines else lines ++ rest
  (List.range height).map fun i => filled.flatMap fun lines => lines[i]?.getD []

def lines (limit : Nat) (t : Table) (contents : List (List (List Char))) : List (List Char) :=
  let columns := t.laidOut contents
  let sized := columns.zip (widths limit columns)
  (List.range (contents.length + 1)).flatMap fun i =>
    rowLines (i = 0) (sized.map fun ((c, m, cells), width) =>
      (width, cellLines c.align m width (cells[i]?.getD [])))

def render (limit : Nat) (t : Table) : Except Fault (List (List Char)) := do
  let contents ← t.rows.mapM fun row => row.mapM fun cell => Markup.plain cell.toList
  pure (t.lines limit contents)

end Table

end GraphContracts.Terminal
