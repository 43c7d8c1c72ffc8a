import GraphContracts.Datum.Calendar

namespace GraphContracts.Yaml

/-- What can be wrong with a document. All faults of its form count as one; the others are faults
of single values. -/
inductive Fault where
  | malformed
  | value (message : String)
  | unknownWord (word : String)
  | notATime
  | emptyNumber
  deriving DecidableEq, Repr

abbrev Result (α : Type) := Except Fault α

def malformed {α : Type} : Result α :=
  .error .malformed

structure Cursor where
  rest : List Char
  index : Nat
  line : Nat
  column : Nat
  deriving DecidableEq, Repr

def endMark : Char := '\x00'

def isBreak (c : Char) : Bool :=
  c = '\n' || c = '\r' || c = '\u0085' || c = '\u2028' || c = '\u2029'

def endsLine (c : Char) : Bool :=
  c = endMark || isBreak c

def endsWord (c : Char) : Bool :=
  c = ' ' || c = '\t' || endsLine c

def oneOf (set : String) (c : Char) : Bool :=
  set.toList.contains c

def isWordChar (c : Char) : Bool :=
  ('0' ≤ c && c ≤ '9') || ('A' ≤ c && c ≤ 'Z') || ('a' ≤ c && c ≤ 'z') || c = '-' || c = '_'

def isReadable (c : Char) : Bool :=
  let n := c.toNat
  n = 0x09 || n = 0x0a || n = 0x0d || (0x20 ≤ n && n ≤ 0x7e) || n = 0x85 ||
    (0xa0 ≤ n && n ≤ 0xd7ff) || (0xe000 ≤ n && n ≤ 0xfffd) || 0x10000 ≤ n

namespace Cursor

def start (text : List Char) : Cursor :=
  ⟨text, 0, 0, 0⟩

def peek (c : Cursor) : Char :=
  c.rest.headD endMark

def peekAt (c : Cursor) (n : Nat) : Char :=
  (c.rest.drop n).headD endMark

/-- One character on. A carriage return before a line feed does not end the line yet, and a byte
order mark takes no column. -/
def forward (c : Cursor) : Cursor :=
  match c.rest with
  | [] => c
  | ch :: more =>
    if isBreak ch && !(ch = '\r' && more.head? = some '\n') then ⟨more, c.index + 1, c.line + 1, 0⟩
    else ⟨more, c.index + 1, c.line, if ch = '\ufeff' then c.column else c.column + 1⟩

def skip (c : Cursor) : Nat → Cursor
  | 0 => c
  | n + 1 => c.forward.skip n

def takeWhile (c : Cursor) (p : Char → Bool) : List Char × Cursor :=
  let run := c.rest.takeWhile p
  (run, c.skip run.length)

def skipWhile (c : Cursor) (p : Char → Bool) : Cursor :=
  (c.takeWhile p).2

def lineBreak (c : Cursor) : List Char × Cursor :=
  let ch := c.peek
  if ch = '\r' && c.peekAt 1 = '\n' then (['\n'], c.skip 2)
  else if ch = '\r' || ch = '\n' || ch = '\u0085' then (['\n'], c.forward)
  else if isBreak ch then ([ch], c.forward)
  else ([], c)

/-- Whether the marker of a document, three equal signs, stands at the cursor as a word. -/
def atMarker (c : Cursor) (sign : Char) : Bool :=
  c.peek = sign && c.peekAt 1 = sign && c.peekAt 2 = sign && endsWord (c.peekAt 3)

def atDocumentMarker (c : Cursor) : Bool :=
  c.atMarker '-' || c.atMarker '.'

def finishLine (c : Cursor) : Result Cursor :=
  let c := c.skipWhile (· = ' ')
  let c := if c.peek = '#' then c.skipWhile fun ch => !endsLine ch else c
  if endsLine c.peek then .ok c.lineBreak.2 else malformed

end Cursor

end GraphContracts.Yaml
