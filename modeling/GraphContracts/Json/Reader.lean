import GraphContracts.Datum.Basic
import GraphContracts.Text.Chars
import GraphContracts.Text.Digit

namespace GraphContracts.Json

inductive Cause where
  | byteOrderMark
  | value
  | propertyName
  | colon
  | comma
  | trailing
  | unterminated
  | control
  | escape
  | unicodeEscape
  | longInteger (digits : Nat)
  deriving DecidableEq, Repr

structure Fault where
  cause : Cause
  remaining : Nat
  deriving DecidableEq, Repr

abbrev Step (α : Type) := Except Fault (α × List Char)

def integerLimit : Nat := 4300

def isSpace (c : Char) : Bool :=
  c = ' ' || c = '\t' || c = '\n' || c = '\r'

def skipSpace (cs : List Char) : List Char :=
  cs.dropWhile isSpace

/-- A code point as a character; half of a surrogate pair has none and becomes the replacement
character. -/
def charOf (n : Nat) : Char :=
  if 0xd800 ≤ n && n ≤ 0xdfff then Char.ofNat 0xfffd else Char.ofNat n

def isHighSurrogate (n : Nat) : Bool :=
  0xd800 ≤ n && n ≤ 0xdbff

def isLowSurrogate (n : Nat) : Bool :=
  0xdc00 ≤ n && n ≤ 0xdfff

def escapes : List (Char × Char) :=
  [('\x22', '\x22'), ('\\', '\\'), ('/', '/'), ('b', '\x08'), ('f', '\x0c'), ('n', '\n'),
    ('r', '\r'), ('t', '\t')]

/-- The second half of a surrogate pair, written right behind the first. `none` when what follows
is no escape, an error when it is a malformed one. More must follow, at least the closing quote. -/
def readLowHalf : List Char → Except Fault (Option Nat)
  | '\\' :: 'u' :: a :: b :: c :: d :: tail =>
    if tail.isEmpty then .ok none
    else
      match Text.hexNumber? [a, b, c, d] with
      | none => .error ⟨.unicodeEscape, tail.length + 5⟩
      | some n => .ok (if isLowSurrogate n then some n else none)
  | _ => .ok none

def readCodePoint : List Char → Except Fault (Char × Nat)
  | a :: b :: c :: d :: tail =>
    match Text.hexNumber? [a, b, c, d], tail.isEmpty with
    | some n, false =>
      if isHighSurrogate n then
        match readLowHalf tail with
        | .error e => .error e
        | .ok none => .ok (charOf n, 4)
        | .ok (some m) => .ok (Char.ofNat (0x10000 + (n - 0xd800) * 0x400 + (m - 0xdc00)), 10)
      else .ok (charOf n, 4)
    | _, _ => .error ⟨.unicodeEscape, tail.length + 5⟩
  | cs => .error ⟨.unicodeEscape, cs.length + 1⟩

def readEscape (opening : Nat) : List Char → Except Fault (Char × Nat)
  | [] => .error ⟨.unterminated, opening⟩
  | c :: tail =>
    if c = 'u' then (readCodePoint tail).map fun (d, n) => (d, n + 1)
    else
      match escapes.lookup c with
      | some d => .ok (d, 1)
      | none => .error ⟨.escape, tail.length + 2⟩

/-- The characters of a text up to its closing quote. `opening` is what was left at the opening
quote, `skip` counts the characters of an escape that was read already. -/
def readText (opening : Nat) (skip : Nat) : List Char → Step (List Char)
  | [] => .error ⟨.unterminated, opening⟩
  | c :: tail =>
    match skip with
    | skip + 1 => readText opening skip tail
    | 0 =>
      if c = '\x22' then .ok ([], tail)
      else if c = '\\' then
        match readEscape opening tail with
        | .error e => .error e
        | .ok (d, n) => (readText opening n tail).map fun (r, rest) => (d :: r, rest)
      else if c.toNat ≤ 0x1f then .error ⟨.control, tail.length + 1⟩
      else (readText opening 0 tail).map fun (r, rest) => (c :: r, rest)

def isAsciiDigit (c : Char) : Bool :=
  '0' ≤ c && c ≤ '9'

def asciiValue (cs : List Char) : Nat :=
  cs.foldl (fun n c => n * 10 + (c.toNat - 0x30)) 0

def wholeDigits : List Char → List Char
  | [] => []
  | c :: cs =>
    if c = '0' then ['0'] else if isAsciiDigit c then c :: cs.takeWhile isAsciiDigit else []

def fractionDigits : List Char → List Char
  | '.' :: cs => cs.takeWhile isAsciiDigit
  | _ => []

def exponentPart : List Char → Option (Bool × List Char × Nat)
  | [] => none
  | c :: cs =>
    if c = 'e' || c = 'E' then
      let (negative, skipped, digits) := match cs with
        | '-' :: ds => (true, 2, ds.takeWhile isAsciiDigit)
        | '+' :: ds => (false, 2, ds.takeWhile isAsciiDigit)
        | ds => (false, 1, ds.takeWhile isAsciiDigit)
      if digits.isEmpty then none else some (negative, digits, skipped + digits.length)
    else none

def readNumber (start : Nat) (negative : Bool) (cs : List Char) : Step Datum :=
  let whole := wholeDigits cs
  if whole.isEmpty then .error ⟨.value, start⟩
  else
    let afterWhole := cs.drop whole.length
    let fraction := fractionDigits afterWhole
    let afterFraction :=
      if fraction.isEmpty then afterWhole else afterWhole.drop (fraction.length + 1)
    match exponentPart afterFraction, fraction.isEmpty with
    | none, true =>
      if integerLimit < whole.length then .error ⟨.longInteger whole.length, start⟩
      else
        let n : Int := asciiValue whole
        .ok (.int (if negative then -n else n), afterWhole)
    | none, false =>
      .ok (.float (.ofDecimal negative (asciiValue (whole ++ fraction)) (-fraction.length)),
        afterFraction)
    | some (down, digits, length), _ =>
      let e : Int := asciiValue digits
      let shift := (if down then -e else e) - fraction.length
      .ok (.float (.ofDecimal negative (asciiValue (whole ++ fraction)) shift),
        afterFraction.drop length)

def words : List (List Char × Datum) :=
  [("null".toList, .null), ("true".toList, .bool true), ("false".toList, .bool false),
    ("NaN".toList, .float .nan), ("Infinity".toList, .float (.infinite false)),
    ("-Infinity".toList, .float (.infinite true))]

def readScalar (cs : List Char) : Step Datum :=
  match words.find? fun (w, _) => w.isPrefixOf cs with
  | some (w, d) => .ok (d, cs.drop w.length)
  | none =>
    match cs with
    | '\x22' :: tail =>
      (readText cs.length 0 tail).map fun (r, rest) => (.text (String.ofList r), rest)
    | '-' :: tail => readNumber cs.length true tail
    | _ => readNumber cs.length false cs

mutual

/-- One value. The first argument bounds the number of nested readings. -/
def readValue : Nat → List Char → Step Datum
  | 0, cs => .error ⟨.value, cs.length⟩
  | fuel + 1, cs =>
    match cs with
    | '[' :: tail =>
      match skipSpace tail with
      | ']' :: rest => .ok (.list [], rest)
      | inner => (readItems fuel inner).map fun (items, rest) => (.list items, rest)
    | '\x7b' :: tail =>
      match skipSpace tail with
      | '\x7d' :: rest => .ok (.map [], rest)
      | inner =>
        (readMembers fuel inner).map fun (members, rest) => (.map (Entries.ofPairs members), rest)
    | _ => readScalar cs

def readItems : Nat → List Char → Step (List Datum)
  | 0, cs => .error ⟨.value, cs.length⟩
  | fuel + 1, cs =>
    match readValue fuel cs with
    | .error e => .error e
    | .ok (d, after) =>
      match skipSpace after with
      | ']' :: rest => .ok ([d], rest)
      | ',' :: more => (readItems fuel (skipSpace more)).map fun (ds, rest) => (d :: ds, rest)
      | other => .error ⟨.comma, other.length⟩

def readMembers : Nat → List Char → Step (List (Datum × Datum))
  | 0, cs => .error ⟨.value, cs.length⟩
  | fuel + 1, cs =>
    match cs with
    | '\x22' :: tail =>
      match readText cs.length 0 tail with
      | .error e => .error e
      | .ok (key, afterKey) =>
        match skipSpace afterKey with
        | ':' :: afterColon =>
          match readValue fuel (skipSpace afterColon) with
          | .error e => .error e
          | .ok (d, after) =>
            let member := (Datum.text (String.ofList key), d)
            match skipSpace after with
            | '\x7d' :: rest => .ok ([member], rest)
            | ',' :: more =>
              (readMembers fuel (skipSpace more)).map fun (ms, rest) => (member :: ms, rest)
            | other => .error ⟨.comma, other.length⟩
        | other => .error ⟨.colon, other.length⟩
    | _ => .error ⟨.propertyName, cs.length⟩

end

/-- Reads a whole text. Each nested reading takes at least every other time a character, which
bounds their number. -/
def read (cs : List Char) : Except Fault Datum :=
  match cs with
  | '\ufeff' :: _ => .error ⟨.byteOrderMark, cs.length⟩
  | _ =>
    match readValue (2 * cs.length + 2) (skipSpace cs) with
    | .error e => .error e
    | .ok (d, after) =>
      match skipSpace after with
      | [] => .ok d
      | rest => .error ⟨.trailing, rest.length⟩

def Cause.message : Cause → String
  | .byteOrderMark => "Unexpected UTF-8 BOM (decode using utf-8-sig)"
  | .value => "Expecting value"
  | .propertyName => "Expecting property name enclosed in double quotes"
  | .colon => "Expecting ':' delimiter"
  | .comma => "Expecting ',' delimiter"
  | .trailing => "Extra data"
  | .unterminated => "Unterminated string starting at"
  | .control => "Invalid control character at"
  | .escape => "Invalid \\escape"
  | .unicodeEscape => "Invalid \\uXXXX escape"
  | .longInteger n =>
    s!"Exceeds the limit (4300 digits) for integer string conversion: value has {n} digits; " ++
      "use sys.set_int_max_str_digits() to increase the limit"

def lineAndColumn (read : List Char) : Nat × Nat :=
  (read.count '\n' + 1, (Text.afterLast '\n' read).length + 1)

def Fault.message (text : List Char) (f : Fault) : String :=
  let position := text.length - f.remaining
  let (line, column) := lineAndColumn (text.take position)
  f.cause.message ++ s!": line {line} column {column} (char {position})"

end GraphContracts.Json
