import GraphContracts.Json.Reader
import GraphContracts.Yaml.Cursor

namespace GraphContracts.Yaml.Scalar

abbrev Scanned := List Char × Cursor

def joinLines (first more : List Char) : List Char :=
  if first ≠ ['\n'] then first ++ more else if more.isEmpty then [' '] else more

/-- Spaces and line breaks up to the next other character: the breaks, the cursor, and whether the
marker of a document came at the start of a line. -/
def plainBreaks : (fuel : Nat) → Cursor → List Char × Cursor × Bool
  | 0, c => ([], c, false)
  | fuel + 1, c =>
    if c.peek = ' ' then plainBreaks fuel c.forward
    else if isBreak c.peek then
      let (br, c) := c.lineBreak
      if c.atDocumentMarker then (br, c, true)
      else
        let (more, c, stop) := plainBreaks fuel c
        (br ++ more, c, stop)
    else ([], c, false)

/-- The space behind a part of a plain scalar: how it reads, the cursor, and whether a line ended.
Nothing goes on behind the marker of a document. -/
def plainSpaces (c : Cursor) : List Char × Cursor × Bool :=
  let (blanks, c) := c.takeWhile (· = ' ')
  if isBreak c.peek then
    let (br, c) := c.lineBreak
    if c.atDocumentMarker then ([], c, true)
    else
      let (more, c, stop) := plainBreaks (c.rest.length + 1) c
      (if stop then [] else joinLines br more, c, true)
  else (blanks, c, false)

def plainLength (inFlow : Bool) : List Char → Nat
  | [] => 0
  | ch :: more =>
    let next := more.headD endMark
    let ends := endsWord ch ||
      (ch = ':' && (endsWord next || (inFlow && oneOf ",[]{}" next))) ||
      (inFlow && oneOf ",?[]{}" ch)
    if ends then 0 else plainLength inFlow more + 1

/-- The parts of a plain scalar. `pending` is the space before the next part; the last component
tells whether the scalar ended behind the end of a line. -/
def plainParts (inFlow : Bool) (indent : Int) :
    (fuel : Nat) → (pending : List Char) → (afterBreak : Bool) → Cursor →
      List Char × Cursor × Bool
  | 0, _, afterBreak, c => ([], c, afterBreak)
  | fuel + 1, pending, afterBreak, c =>
    let n := plainLength inFlow c.rest
    if c.peek = '#' || n = 0 then ([], c, afterBreak)
    else
      let part := pending ++ c.rest.take n
      let (spaces, c, broke) := plainSpaces (c.skip n)
      if spaces.isEmpty || c.peek = '#' || (!inFlow && (c.column : Int) < indent) then
        (part, c, broke)
      else
        let (more, c, broke) := plainParts inFlow indent fuel spaces broke c
        (part ++ more, c, broke)

def plain (inFlow : Bool) (indent : Int) (c : Cursor) : List Char × Cursor × Bool :=
  plainParts inFlow indent (c.rest.length + 1) [] false c

def quotedBreaks : (fuel : Nat) → Cursor → Result Scanned
  | 0, c => .ok ([], c)
  | fuel + 1, c =>
    if c.atDocumentMarker then malformed
    else
      let c := c.skipWhile fun ch => ch = ' ' || ch = '\t'
      if isBreak c.peek then do
        let (br, c) := c.lineBreak
        let (more, c) ← quotedBreaks fuel c
        pure (br ++ more, c)
      else pure ([], c)

def quotedSpaces (c : Cursor) : Result Scanned := do
  let (blanks, c) := c.takeWhile fun ch => ch = ' ' || ch = '\t'
  if c.peek = endMark then malformed
  else if isBreak c.peek then
    let (br, c) := c.lineBreak
    let (more, c) ← quotedBreaks (c.rest.length + 1) c
    pure (joinLines br more, c)
  else pure (blanks, c)

def escapes : List (Char × Char) :=
  [('0', '\x00'), ('a', '\x07'), ('b', '\x08'), ('t', '\t'), ('\t', '\t'), ('n', '\n'),
    ('v', '\x0b'), ('f', '\x0c'), ('r', '\r'), ('e', '\x1b'), (' ', ' '), ('\x22', '\x22'),
    ('\\', '\\'), ('/', '/'), ('N', '\u0085'), ('_', '\u00a0'), ('L', '\u2028'), ('P', '\u2029')]

def codeEscapes : List (Char × Nat) :=
  [('x', 2), ('u', 4), ('U', 8)]

def readEscape (c : Cursor) : Result Scanned :=
  match escapes.lookup c.peek, codeEscapes.lookup c.peek with
  | some ch, _ => .ok ([ch], c.forward)
  | none, some n =>
    let digits := c.forward.rest.take n
    match Text.hexNumber? digits with
    | some code =>
      if digits.length < n then malformed
      else if 0x10ffff < code then .error (.value "chr() arg not in range(0x110000)")
      else .ok ([Json.charOf code], c.forward.skip n)
    | none => malformed
  | none, none =>
    if isBreak c.peek then quotedBreaks (c.rest.length + 1) c.lineBreak.2 else malformed

def quotedRun (double : Bool) : (fuel : Nat) → Cursor → Result Scanned
  | 0, c => .ok ([], c)
  | fuel + 1, c => do
    let (run, c) := c.takeWhile fun ch => !endsWord ch && !oneOf "'\x22\\" ch
    let ch := c.peek
    if !double && ch = '\x27' && c.peekAt 1 = '\x27' then
      let (more, c) ← quotedRun double fuel (c.skip 2)
      pure (run ++ '\x27' :: more, c)
    else if (double && ch = '\x27') || (!double && (ch = '\x22' || ch = '\\')) then
      let (more, c) ← quotedRun double fuel c.forward
      pure (run ++ ch :: more, c)
    else if double && ch = '\\' then
      let (escaped, c) ← readEscape c.forward
      let (more, c) ← quotedRun double fuel c
      pure (run ++ escaped ++ more, c)
    else pure (run, c)

def quotedRest (double : Bool) : (fuel : Nat) → Cursor → Result Scanned
  | 0, _ => malformed
  | fuel + 1, c => do
    let (run, c) ← quotedRun double (c.rest.length + 1) c
    if c.peek = (if double then '\x22' else '\x27') then pure (run, c.forward)
    else
      let (spaces, c) ← quotedSpaces c
      let (more, c) ← quotedRest double fuel c
      pure (run ++ spaces ++ more, c)

def quoted (double : Bool) (c : Cursor) : Result Scanned :=
  quotedRest double (c.rest.length + 1) c.forward

/-- What happens to the line breaks at the end of a block: by default the last one is kept. -/
inductive Chomping where
  | clip
  | strip
  | keep
  deriving DecidableEq, Repr

def chomping? (ch : Char) : Option Chomping :=
  if ch = '+' then some .keep else if ch = '-' then some .strip else none

def increment? (ch : Char) : Option Nat :=
  if '0' ≤ ch && ch ≤ '9' then some (ch.toNat - 0x30) else none

def blockHeader (c : Cursor) : Result (Chomping × Option Nat × Cursor) := do
  let (chomping, increment, c) :=
    match chomping? c.peek, increment? c.peek with
    | some k, _ =>
      match increment? c.forward.peek with
      | some n => (k, some n, c.skip 2)
      | none => (k, none, c.forward)
    | none, some n =>
      match chomping? c.forward.peek with
      | some k => (k, some n, c.skip 2)
      | none => (.clip, some n, c.forward)
    | none, none => (.clip, none, c)
  if increment = some 0 then malformed
  else if c.peek = ' ' || endsLine c.peek then pure (chomping, increment, c)
  else malformed

/-- The blank lines at the start of a block, and the greatest column reached in them. -/
def blockIndentation : (fuel : Nat) → (widest : Nat) → Cursor → List Char × Nat × Cursor
  | 0, widest, c => ([], widest, c)
  | fuel + 1, widest, c =>
    if c.peek = ' ' then blockIndentation fuel (max widest c.forward.column) c.forward
    else if isBreak c.peek then
      let (br, c) := c.lineBreak
      let (more, widest, c) := blockIndentation fuel widest c
      (br ++ more, widest, c)
    else ([], widest, c)

def skipIndent (indent : Int) : (fuel : Nat) → Cursor → Cursor
  | 0, c => c
  | fuel + 1, c =>
    if (c.column : Int) < indent && c.peek = ' ' then skipIndent indent fuel c.forward else c

def blockBreaks (indent : Int) : (fuel : Nat) → Cursor → Scanned
  | 0, c => ([], c)
  | fuel + 1, c =>
    let c := skipIndent indent (c.rest.length + 1) c
    if isBreak c.peek then
      let (br, c) := c.lineBreak
      let (more, c) := blockBreaks indent fuel c
      (br ++ more, c)
    else ([], c)

/-- The lines of a block. The last two components are the break behind the last line and the blank
lines that follow it. -/
def blockLines (folded : Bool) (indent : Int) :
    (fuel : Nat) → (before : List Char) → Cursor → List Char × List Char × List Char × Cursor
  | 0, before, c => ([], [], before, c)
  | fuel + 1, before, c =>
    if (c.column : Int) = indent && c.peek ≠ endMark then
      let leading := c.peek
      let (line, c) := c.takeWhile fun ch => !endsLine ch
      let (br, c) := c.lineBreak
      let (blank, c) := blockBreaks indent (c.rest.length + 1) c
      if (c.column : Int) = indent && c.peek ≠ endMark then
        let folds := folded && br = ['\n'] && !oneOf " \t" leading && !oneOf " \t" c.peek
        let between := if folds then (if blank.isEmpty then [' '] else []) else br
        let (more, last, tail, c) := blockLines folded indent fuel blank c
        (before ++ line ++ between ++ more, last, tail, c)
      else (before ++ line, br, blank, c)
    else ([], [], before, c)

def block (folded : Bool) (parent : Int) (c : Cursor) : Result Scanned := do
  let (chomping, increment, c) ← blockHeader c.forward
  let c ← c.finishLine
  let least := max 1 (parent + 1)
  let (blank, indent, c) :=
    match increment with
    | some n =>
      let indent := least + n - 1
      let (blank, c) := blockBreaks indent (c.rest.length + 1) c
      (blank, indent, c)
    | none =>
      let (blank, widest, c) := blockIndentation (c.rest.length + 1) 0 c
      (blank, max least (widest : Int), c)
  let (text, last, tail, c) := blockLines folded indent (c.rest.length + 1) blank c
  let ending := match chomping with
    | .clip => last
    | .strip => []
    | .keep => last ++ tail
  pure (text ++ ending, c)

end GraphContracts.Yaml.Scalar
