import GraphContracts.Text.Utf8
import GraphContracts.Yaml.Scalar

namespace GraphContracts.Yaml

inductive Directive where
  | version (major : Nat)
  | tag (handle start : String)
  | other
  deriving DecidableEq, Repr

inductive Token where
  | directive (d : Directive)
  | documentStart
  | documentEnd
  | streamEnd
  | blockSequenceStart
  | blockMappingStart
  | blockEnd
  | flowSequenceStart
  | flowSequenceEnd
  | flowMappingStart
  | flowMappingEnd
  | key
  | value
  | blockEntry
  | flowEntry
  | alias (name : String)
  | anchor (name : String)
  | tag (handle : Option String) (suffix : String)
  | scalar (text : String) (isPlain : Bool)
  deriving DecidableEq, Repr

/-- What may turn out to be a key: where it stands, how many tokens came before it, and whether it
has to be one. -/
structure PossibleKey where
  flow : Nat
  required : Bool
  tokens : Nat
  index : Nat
  line : Nat
  column : Nat
  deriving DecidableEq, Repr

/-- A scan under way. `indents` holds the columns of the open blocks, innermost first, and `flow`
counts the open flow collections. -/
structure Scan where
  cursor : Cursor
  tokens : List Token
  indents : List Nat
  flow : Nat
  allowKey : Bool
  keys : List PossibleKey

namespace Scan

def start (text : List Char) : Scan :=
  ⟨.start text, [], [], 0, true, []⟩

/-- The column of the innermost block; outside all blocks it lies before the first column. -/
def indent (s : Scan) : Int :=
  match s.indents with
  | [] => -1
  | n :: _ => n

def push (s : Scan) (t : Token) : Scan :=
  { s with tokens := s.tokens ++ [t] }

def moveTo (s : Scan) (c : Cursor) : Scan :=
  { s with cursor := c }

def keyLimit : Nat := 1024

/-- Drops the keys that can no longer be completed, since a key stays on one line. -/
def dropStaleKeys (s : Scan) : Result Scan :=
  let isStale := fun (k : PossibleKey) =>
    k.line ≠ s.cursor.line || keyLimit < s.cursor.index - k.index
  if s.keys.any fun k => isStale k && k.required then malformed
  else .ok { s with keys := s.keys.filter fun k => !isStale k }

def dropKey (s : Scan) : Result Scan :=
  if s.keys.any fun k => k.flow = s.flow && k.required then malformed
  else .ok { s with keys := s.keys.filter fun k => k.flow ≠ s.flow }

def saveKey (s : Scan) : Result Scan :=
  if s.allowKey then do
    let required := s.flow = 0 && s.indent = s.cursor.column
    let s ← s.dropKey
    let key := ⟨s.flow, required, s.tokens.length, s.cursor.index, s.cursor.line, s.cursor.column⟩
    pure { s with keys := key :: s.keys }
  else .ok s

def unwind (s : Scan) (column : Int) : Scan :=
  if s.flow ≠ 0 then s
  else
    let closed := s.indents.takeWhile fun (n : Nat) => column < n
    { s with
      indents := s.indents.drop closed.length
      tokens := s.tokens ++ closed.map fun _ => .blockEnd }

/-- Opens a block at a column that lies further right than the innermost block. The token stands
before the token at `position`. -/
def openBlock (s : Scan) (column : Nat) (t : Token) (position : Nat) : Scan :=
  if s.indent < column then
    { s with indents := column :: s.indents, tokens := s.tokens.insertIdx position t }
  else s

/-- Passes over white space, comments and line breaks. In a block a new line may start a key. -/
def skipToToken : (fuel : Nat) → Scan → Scan
  | 0, s => s
  | fuel + 1, s =>
    let c := s.cursor.skipWhile (· = ' ')
    let c := if c.peek = '#' then c.skipWhile fun ch => !endsLine ch else c
    if isBreak c.peek then
      skipToToken fuel { s with
        cursor := c.lineBreak.2, allowKey := s.allowKey || s.flow = 0 }
    else s.moveTo c

def readName (c : Cursor) : Result (String × Cursor) :=
  let (name, c) := c.forward.takeWhile isWordChar
  if name.isEmpty then malformed
  else if endsWord c.peek || oneOf "?:,]\x7d%@\x60" c.peek then .ok (String.ofList name, c)
  else malformed

def isTagChar (c : Char) : Bool :=
  (isWordChar c && c ≠ '_') || oneOf "-;/?:@&=+$,_.!~*'()[]%" c

def readEscapedOctets : (fuel : Nat) → Cursor → Result (List UInt8 × Cursor)
  | 0, c => .ok ([], c)
  | fuel + 1, c =>
    if c.peek = '%' then
      match Text.hexValue? (c.peekAt 1), Text.hexValue? (c.peekAt 2) with
      | some a, some b => do
        let (more, c) ← readEscapedOctets fuel (c.skip 3)
        pure (UInt8.ofNat (a * 16 + b) :: more, c)
      | _, _ => malformed
    else .ok ([], c)

def readTagChars : (fuel : Nat) → Cursor → Result (List Char × Cursor)
  | 0, c => .ok ([], c)
  | fuel + 1, c =>
    if c.peek = '%' then do
      let (octets, c) ← readEscapedOctets (c.rest.length + 1) c
      match Text.Utf8.decode octets with
      | .error _ => malformed
      | .ok text =>
        let (more, c) ← readTagChars fuel c
        pure (text ++ more, c)
    else if isTagChar c.peek then do
      let (more, rest) ← readTagChars fuel c.forward
      pure (c.peek :: more, rest)
    else .ok ([], c)

def readTagText (c : Cursor) : Result (String × Cursor) := do
  let (text, c) ← readTagChars (c.rest.length + 1) c
  if text.isEmpty then malformed else pure (String.ofList text, c)

def readHandle (c : Cursor) : Result (String × Cursor) :=
  if c.peek ≠ '!' then malformed
  else if c.peekAt 1 = ' ' then .ok ("!", c.forward)
  else
    let (name, after) := c.forward.takeWhile isWordChar
    if after.peek = '!' then .ok ("!" ++ String.ofList name ++ "!", after.forward) else malformed

def hasHandle : List Char → Bool
  | [] => false
  | ch :: more => if ch = ' ' || endsLine ch then false else ch = '!' || hasHandle more

def readTag (c : Cursor) : Result (Token × Cursor) := do
  let next := c.peekAt 1
  let (token, c) ←
    if next = '<' then do
      let (suffix, c) ← readTagText (c.skip 2)
      if c.peek = '>' then pure (Token.tag none suffix, c.forward) else malformed
    else if endsWord next then pure (Token.tag none "!", c.forward)
    else do
      let (handle, c) ← if hasHandle (c.rest.drop 1) then readHandle c else pure ("!", c.forward)
      let (suffix, c) ← readTagText c
      pure (Token.tag (some handle) suffix, c)
  if c.peek = ' ' || endsLine c.peek then pure (token, c) else malformed

def readNumber (c : Cursor) : Result (Nat × Cursor) :=
  let (digits, c) := c.takeWhile Json.isAsciiDigit
  if digits.isEmpty then malformed else .ok (Json.asciiValue digits, c)

def readVersion (c : Cursor) : Result (Directive × Cursor) := do
  let (major, c) ← readNumber (c.skipWhile (· = ' '))
  if c.peek ≠ '.' then malformed
  else
    let (_, c) ← readNumber c.forward
    if c.peek = ' ' || endsLine c.peek then pure (.version major, c) else malformed

def readTagDirective (c : Cursor) : Result (Directive × Cursor) := do
  let (handle, c) ← readHandle (c.skipWhile (· = ' '))
  if c.peek ≠ ' ' then malformed
  else
    let (start, c) ← readTagText (c.skipWhile (· = ' '))
    if c.peek = ' ' || endsLine c.peek then pure (.tag handle start, c) else malformed

def readDirective (c : Cursor) : Result (Token × Cursor) := do
  let (name, c) := c.forward.takeWhile isWordChar
  if name.isEmpty || !(c.peek = ' ' || endsLine c.peek) then malformed
  else
    let (directive, c) ←
      if name = "YAML".toList then readVersion c
      else if name = "TAG".toList then readTagDirective c
      else pure (.other, c.skipWhile fun ch => !endsLine ch)
    let c ← c.finishLine
    pure (.directive directive, c)

def startsPlain (s : Scan) : Bool :=
  let ch := s.cursor.peek
  !(endsWord ch || oneOf "-?:,[]\x7b\x7d#&*!|>'\x22%@\x60" ch) ||
    (!endsWord (s.cursor.peekAt 1) && (ch = '-' || (s.flow = 0 && oneOf "?:" ch)))

def atSign (s : Scan) (sign : Char) : Bool :=
  s.cursor.peek = sign && (s.flow ≠ 0 || endsWord (s.cursor.peekAt 1))

def closeAll (s : Scan) : Result Scan := do
  let s ← (s.unwind (-1)).dropKey
  pure { s with allowKey := false }

def fetchMarker (s : Scan) (t : Token) : Result Scan := do
  let s ← s.closeAll
  pure ((s.moveTo (s.cursor.skip 3)).push t)

def fetchDirective (s : Scan) : Result Scan := do
  let s ← s.closeAll
  let (t, c) ← readDirective s.cursor
  pure ((s.moveTo c).push t)

def openFlow (s : Scan) (t : Token) : Result Scan := do
  let s ← s.saveKey
  pure ({ s with cursor := s.cursor.forward, flow := s.flow + 1, allowKey := true }.push t)

def closeFlow (s : Scan) (t : Token) : Result Scan := do
  let s ← s.dropKey
  if s.flow = 0 then malformed
  else pure ({ s with cursor := s.cursor.forward, flow := s.flow - 1, allowKey := false }.push t)

def fetchFlowEntry (s : Scan) : Result Scan := do
  let s ← s.dropKey
  pure ({ s with cursor := s.cursor.forward, allowKey := true }.push .flowEntry)

def fetchBlockEntry (s : Scan) : Result Scan := do
  if s.flow = 0 && !s.allowKey then malformed
  else
    let s := if s.flow = 0 then
        s.openBlock s.cursor.column .blockSequenceStart s.tokens.length
      else s
    let s ← s.dropKey
    pure ({ s with cursor := s.cursor.forward, allowKey := true }.push .blockEntry)

def fetchKey (s : Scan) : Result Scan := do
  if s.flow = 0 && !s.allowKey then malformed
  else
    let s := if s.flow = 0 then
        s.openBlock s.cursor.column .blockMappingStart s.tokens.length
      else s
    let s ← s.dropKey
    pure ({ s with cursor := s.cursor.forward, allowKey := s.flow = 0 }.push .key)

/-- A colon: it completes the possible key of this level, or else stands for a value without a
key. -/
def fetchValue (s : Scan) : Result Scan :=
  match s.keys.find? fun k => k.flow = s.flow with
  | some k =>
    let s := { s with
      keys := s.keys.filter fun k => k.flow ≠ s.flow
      tokens := s.tokens.insertIdx k.tokens .key }
    let s := if s.flow = 0 then s.openBlock k.column .blockMappingStart k.tokens else s
    .ok ({ s with cursor := s.cursor.forward, allowKey := false }.push .value)
  | none =>
    if s.flow = 0 && !s.allowKey then malformed
    else do
      let s := if s.flow = 0 then
          s.openBlock s.cursor.column .blockMappingStart s.tokens.length
        else s
      let s ← { s with allowKey := s.flow = 0 }.dropKey
      pure ((s.moveTo s.cursor.forward).push .value)

def fetchKeyable (s : Scan) (read : Cursor → Result (Token × Cursor)) : Result Scan := do
  let s ← s.saveKey
  let (t, c) ← read s.cursor
  pure ({ s with cursor := c, allowKey := false }.push t)

def fetchBlockScalar (s : Scan) (folded : Bool) : Result Scan := do
  let s ← { s with allowKey := true }.dropKey
  let (text, c) ← Scalar.block folded s.indent s.cursor
  pure ((s.moveTo c).push (.scalar (String.ofList text) false))

def fetchPlain (s : Scan) : Result Scan := do
  let s ← s.saveKey
  let (text, c, broke) := Scalar.plain (s.flow ≠ 0) (s.indent + 1) s.cursor
  pure ({ s with cursor := c, allowKey := broke }.push (.scalar (String.ofList text) true))

def readQuoted (double : Bool) (c : Cursor) : Result (Token × Cursor) := do
  let (text, c) ← Scalar.quoted double c
  pure (.scalar (String.ofList text) false, c)

def readAlias (c : Cursor) : Result (Token × Cursor) := do
  let (name, c) ← readName c
  pure (.alias name, c)

def readAnchor (c : Cursor) : Result (Token × Cursor) := do
  let (name, c) ← readName c
  pure (.anchor name, c)

def fetch (s : Scan) : Result Scan :=
  let c := s.cursor
  let ch := c.peek
  if ch = '%' && c.column = 0 then s.fetchDirective
  else if c.column = 0 && c.atMarker '-' then s.fetchMarker .documentStart
  else if c.column = 0 && c.atMarker '.' then s.fetchMarker .documentEnd
  else if ch = '[' then s.openFlow .flowSequenceStart
  else if ch = '\x7b' then s.openFlow .flowMappingStart
  else if ch = ']' then s.closeFlow .flowSequenceEnd
  else if ch = '\x7d' then s.closeFlow .flowMappingEnd
  else if ch = ',' then s.fetchFlowEntry
  else if ch = '-' && endsWord (c.peekAt 1) then s.fetchBlockEntry
  else if s.atSign '?' then s.fetchKey
  else if s.atSign ':' then s.fetchValue
  else if ch = '*' then s.fetchKeyable readAlias
  else if ch = '&' then s.fetchKeyable readAnchor
  else if ch = '!' then s.fetchKeyable readTag
  else if ch = '|' && s.flow = 0 then s.fetchBlockScalar false
  else if ch = '>' && s.flow = 0 then s.fetchBlockScalar true
  else if ch = '\x27' then s.fetchKeyable (readQuoted false)
  else if ch = '\x22' then s.fetchKeyable (readQuoted true)
  else if s.startsPlain then s.fetchPlain
  else malformed

/-- All tokens from here on. Every token but the last takes at least one character. -/
def run : (fuel : Nat) → Scan → Result (List Token)
  | 0, _ => malformed
  | fuel + 1, s => do
    let s ← (skipToToken (s.cursor.rest.length + 1) s).dropStaleKeys
    let s := s.unwind s.cursor.column
    if s.cursor.rest.isEmpty then
      let s ← s.closeAll
      pure (s.push .streamEnd).tokens
    else
      let s ← s.fetch
      run fuel s

end Scan

def scan (text : List Char) : Result (List Token) :=
  if text.all isReadable then
    let start := Scan.start text
    let s := if start.cursor.peek = '\ufeff' then start.moveTo start.cursor.forward else start
    s.run (text.length + 2)
  else malformed

end GraphContracts.Yaml
