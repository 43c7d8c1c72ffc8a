import GraphContracts.Text.Quoted
import GraphContracts.Yaml.Kind

namespace GraphContracts.Yaml.Styled

/-- Where a scalar stands: the column of its first character, the indentation of the lines that
follow, and whether there may be any. -/
structure Spot where
  column : Nat
  indent : Nat
  mayBreak : Bool
  deriving DecidableEq, Repr

def lineWidth : Nat := 80

def newLine (indent : Nat) : List Char :=
  '\n' :: List.replicate indent ' '

def isSpecial (c : Char) : Bool :=
  c ≠ '\n' && !(' ' ≤ c && c ≤ '~')

def hasPair (a b : Char) : List Char → Bool
  | c :: d :: cs => (c = a && d = b) || hasPair a b (d :: cs)
  | _ => false

def isLeadingSign (c : Char) : Bool :=
  oneOf "#,[]\x7b\x7d&*!|>'\x22%@\x60" c

def isPlain (cs : List Char) : Bool :=
  match cs with
  | [] => false
  | c :: more =>
    let beforeSpace := more.head?.all (· = ' ')
    !(cs.any fun d => d = '\n' || isSpecial d) &&
      !(c = ' ' || cs.getLast? = some ' ') &&
      !(("---".toList).isPrefixOf cs || ("...".toList).isPrefixOf cs) &&
      !(isLeadingSign c || (oneOf "?:-" c && beforeSpace)) &&
      !(hasPair ':' ' ' cs || hasPair ' ' '#' cs || cs.getLast? = some ':')

def isSingleQuotable (cs : List Char) : Bool :=
  !(cs.any isSpecial || hasPair '\n' ' ' cs || hasPair ' ' '\n' cs)

/-- Whether a line is broken at a space: it has to be full, and the space the only one. -/
def breaksAt (spot : Spot) (column : Nat) (before after : Option Char) : Bool :=
  spot.mayBreak && lineWidth < column && before.any (· ≠ ' ') && after.any (· ≠ ' ')

def plainFrom (spot : Spot) (column : Nat) (before : Option Char) : List Char → List Char
  | [] => []
  | c :: cs =>
    if c = ' ' && breaksAt spot column before cs.head? then
      newLine spot.indent ++ plainFrom spot spot.indent (some c) cs
    else c :: plainFrom spot (column + 1) (some c) cs

/-- The characters between single quotes: a quote is written twice, and the first of the line breaks
in a row as well. -/
def singleFrom (spot : Spot) (column : Nat) (before : Option Char) : List Char → List Char
  | [] => []
  | c :: cs =>
    if c = '\n' then
      let breaks := if before = some '\n' then ['\n'] else ['\n', '\n']
      let margin := if cs.head? = some '\n' then [] else List.replicate spot.indent ' '
      breaks ++ margin ++ singleFrom spot spot.indent (some c) cs
    else if c = '\x27' then c :: c :: singleFrom spot (column + 2) (some c) cs
    else if c = ' ' && breaksAt spot column before cs.head? then
      newLine spot.indent ++ singleFrom spot spot.indent (some c) cs
    else c :: singleFrom spot (column + 1) (some c) cs

def escapes : List (Char × Char) :=
  [('\x00', '0'), ('\x07', 'a'), ('\x08', 'b'), ('\t', 't'), ('\n', 'n'), ('\x0b', 'v'),
    ('\x0c', 'f'), ('\r', 'r'), ('\x1b', 'e'), ('\x22', '\x22'), ('\\', '\\'),
    ('\u0085', 'N'), ('\u00a0', '_'), ('\u2028', 'L'), ('\u2029', 'P')]

def hexUpper (width n : Nat) : List Char :=
  (Text.Quoted.hexDigits width n).map Char.toUpper

def escape (c : Char) : List Char :=
  match escapes.lookup c with
  | some letter => ['\\', letter]
  | none =>
    if c.toNat < 0x100 then '\\' :: 'x' :: hexUpper 2 c.toNat
    else if c.toNat < 0x10000 then '\\' :: 'u' :: hexUpper 4 c.toNat
    else '\\' :: 'U' :: hexUpper 8 c.toNat

def needsEscape (c : Char) : Bool :=
  c = '\x22' || c = '\\' || !(' ' ≤ c && c ≤ '~')

def doubleBreak (spot : Spot) (next : Option Char) : List Char :=
  '\\' :: newLine spot.indent ++ (if next = some ' ' then ['\\'] else [])

/-- The characters between double quotes. `column` is the column behind what has been settled and
`pending` counts the characters since then; `isFirst` marks the first character of all. -/
def doubleFrom (spot : Spot) (column pending : Nat) (isFirst : Bool) : List Char → List Char
  | [] => []
  | c :: cs =>
    let inside := spot.mayBreak && !isFirst && 1 ≤ cs.length
    if needsEscape c then
      let written := escape c
      let column := column + pending + written.length
      if inside && lineWidth + 1 < column then
        let break_ := doubleBreak spot cs.head?
        let after := if cs.head? = some ' ' then spot.indent + 1 else spot.indent
        written ++ break_ ++ doubleFrom spot after 0 false cs
      else written ++ doubleFrom spot column 0 false cs
    else if inside && (c = ' ' || pending = 0) && lineWidth < column + pending then
      let after := if c = ' ' then spot.indent + 1 else spot.indent
      doubleBreak spot (some c) ++ c :: doubleFrom spot after 1 false cs
    else c :: doubleFrom spot column (pending + 1) false cs

def single (spot : Spot) (cs : List Char) : List Char :=
  '\x27' :: singleFrom spot (spot.column + 1) none cs ++ ['\x27']

def double (spot : Spot) (cs : List Char) : List Char :=
  '\x22' :: doubleFrom spot (spot.column + 1) 0 true cs ++ ['\x22']

def write (spot : Spot) (s : String) : List Char :=
  let cs := s.toList
  if isPlain cs && plainKind s = .text then plainFrom spot spot.column none cs
  else if isSingleQuotable cs && (spot.mayBreak || !cs.contains '\n') then single spot cs
  else double spot cs

end GraphContracts.Yaml.Styled
