import GraphContracts.Text.Blank
import GraphContracts.Text.CellWidth

namespace GraphContracts.Terminal

open Text (cells cellWidth isBlank)

inductive Overflow where
  | fold
  | ellipsis
  deriving DecidableEq, Repr

namespace Wrap

def tabWidth : Nat := 8

def expandTabs (position : Nat) : List Char → List Char
  | [] => []
  | c :: cs =>
    if c = '\t' then
      let n := tabWidth - position % tabWidth
      List.replicate n ' ' ++ expandTabs (position + n) cs
    else c :: expandTabs (position + cellWidth c) cs

/-- The words of a line, each with the blanks behind it and the first with those before it.
`current` is the chunk being read, last character first. -/
def chunksFrom (current : List Char) : List Char → List (List Char)
  | [] => [current.reverse]
  | c :: cs =>
    if !isBlank c && current.head?.any isBlank && current.any (fun d => !isBlank d) then
      current.reverse :: chunksFrom [c] cs
    else chunksFrom (c :: current) cs

def chunks (cs : List Char) : List (List Char) :=
  chunksFrom [] cs

def partsFrom (width : Nat) (part : List Char) : List Char → List (List Char)
  | [] => [part.reverse]
  | c :: cs =>
    if width < cells part + cellWidth c then part.reverse :: partsFrom width [c] cs
    else partsFrom width (c :: part) cs

def parts (width : Nat) (cs : List Char) : List (List Char) :=
  partsFrom width [] cs

/-- Lines while they are filled: the finished ones, last first, the current one and the cells that
it takes. -/
structure Filling where
  finished : List (List Char)
  current : List Char
  offset : Nat

namespace Filling

def empty : Filling :=
  ⟨[], [], 0⟩

def lines (f : Filling) : List (List Char) :=
  (f.current :: f.finished).reverse

def add (f : Filling) (cs : List Char) : Filling :=
  { f with current := f.current ++ cs }

def newLine (f : Filling) : Filling :=
  if f.finished.isEmpty && f.current.isEmpty then f else ⟨f.current :: f.finished, [], 0⟩

def begin (f : Filling) (cs : List Char) : Filling :=
  { f.newLine.add cs with offset := cells cs }

def place (o : Overflow) (width : Nat) (f : Filling) (chunk : List Char) : Filling :=
  let length := cells (Text.dropTrailing isBlank chunk)
  if f.offset + length ≤ width then { f.add chunk with offset := f.offset + cells chunk }
  else if width < length then
    match o with
    | .fold => (parts width chunk).foldl begin f
    | .ellipsis => f.begin chunk
  else if f.offset = 0 then f.add chunk
  else f.begin chunk

end Filling

def fill (o : Overflow) (width : Nat) (cs : List Char) : List (List Char) :=
  ((chunks cs).foldl (Filling.place o width) .empty).lines

def dropExcess (width : Nat) (cs : List Char) : List Char :=
  let blanks := cs.length - (Text.dropTrailing isBlank cs).length
  cs.take (cs.length - min blanks (cs.length - width))

/-- The head of a line that takes `width` cells. A wide character that is cut in half leaves a
blank. -/
def cut : (width : Nat) → List Char → List Char
  | _, [] => []
  | width, c :: cs =>
    if cellWidth c ≤ width then c :: cut (width - cellWidth c) cs
    else List.replicate width ' '

def ellipsis : Char := '\u2026'

def shorten (o : Overflow) (width : Nat) (cs : List Char) : List Char :=
  if cells cs ≤ width then cs
  else
    match o with
    | .fold => cut width cs
    | .ellipsis => cut (width - 1) cs ++ [ellipsis]

def lines (o : Overflow) (width : Nat) (cs : List Char) : List (List Char) :=
  (Text.splitOn '\n' cs).flatMap fun line =>
    (fill o width (expandTabs 0 line)).map (dropExcess width)

def shown (o : Overflow) (width : Nat) (cs : List Char) : List (List Char) :=
  (lines o width cs).map (shorten o width)

example : shown .fold 6 "ab cdefghij".toList = ["ab ", "cdefgh", "ij"].map String.toList := by
  decide

end Wrap

end GraphContracts.Terminal
