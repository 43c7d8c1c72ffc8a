import GraphContracts.Json.Reader
import GraphContracts.Yaml.Node

namespace GraphContracts.Yaml

inductive Kind where
  | null
  | bool
  | int
  | float
  | binary
  | timestamp
  | text
  | sequence
  | mapping
  | set
  | orderedMap
  | pairs
  | merge
  | value
  deriving DecidableEq, Repr

namespace Kind

def names : List (String × Kind) :=
  [("null", .null), ("bool", .bool), ("int", .int), ("float", .float), ("binary", .binary),
    ("timestamp", .timestamp), ("str", .text), ("seq", .sequence), ("map", .mapping),
    ("set", .set), ("omap", .orderedMap), ("pairs", .pairs), ("merge", .merge),
    ("value", .value)]

def ofTag? (tag : String) : Option Kind :=
  (names.find? fun (n, _) => "tag:yaml.org,2002:" ++ n = tag).map (·.2)

end Kind

namespace Spelling

def nulls : List String :=
  ["", "~", "null", "Null", "NULL"]

def trueWords : List String :=
  ["yes", "true", "on"]

def falseWords : List String :=
  ["no", "false", "off"]

def casings (s : String) : List String :=
  [s, s.capitalize, s.map Char.toUpper]

def isBool (s : String) : Bool :=
  (trueWords ++ falseWords).any fun w => (casings w).contains s

def isDigitOrMark (c : Char) : Bool :=
  Json.isAsciiDigit c || c = '_'

def dropSign : List Char → List Char
  | '-' :: cs => cs
  | '+' :: cs => cs
  | cs => cs

def isSixtieth : List Char → Bool
  | [d] => Json.isAsciiDigit d
  | [t, d] => '0' ≤ t && t ≤ '5' && Json.isAsciiDigit d
  | _ => false

def isSixtieths : List Char → Bool
  | ':' :: cs => (Text.splitOn ':' cs).all isSixtieth
  | _ => false

def isInt (cs : List Char) : Bool :=
  match dropSign cs with
  | [] => false
  | ['0'] => true
  | '0' :: 'b' :: ds => !ds.isEmpty && ds.all fun c => c = '0' || c = '1' || c = '_'
  | '0' :: 'x' :: ds => !ds.isEmpty && ds.all fun c => (Text.hexValue? c).isSome || c = '_'
  | '0' :: ds => ds.all fun c => ('0' ≤ c && c ≤ '7') || c = '_'
  | c :: ds =>
    let rest := ds.dropWhile isDigitOrMark
    Json.isAsciiDigit c && (rest.isEmpty || isSixtieths rest)

def isExponent : List Char → Bool
  | [] => true
  | e :: sign :: ds =>
    (e = 'e' || e = 'E') && (sign = '+' || sign = '-') && !ds.isEmpty &&
      ds.all Json.isAsciiDigit
  | _ => false

def isRealSixtieths (cs : List Char) : Bool :=
  let whole := cs.takeWhile (· ≠ '.')
  match cs.drop whole.length with
  | '.' :: fraction => isSixtieths whole && fraction.all isDigitOrMark
  | _ => false

def isFloat (cs : List Char) : Bool :=
  let body := dropSign cs
  if [".inf", ".Inf", ".INF"].any fun w => w.toList = body then true
  else if [".nan", ".NaN", ".NAN"].any fun w => w.toList = cs then true
  else
    match body with
    | '.' :: d :: ds =>
      body = cs && Json.isAsciiDigit d && isExponent (ds.dropWhile isDigitOrMark)
    | c :: ds =>
      Json.isAsciiDigit c &&
        match ds.dropWhile isDigitOrMark with
        | '.' :: more => isExponent (more.dropWhile isDigitOrMark)
        | rest => isRealSixtieths rest
    | [] => false

end Spelling

/-- A date or a moment as it is spelled, which need not exist in the calendar. -/
inductive Stamp where
  | day (d : Date)
  | time (m : Moment)
  deriving DecidableEq, Repr

namespace Stamp

def readDigits (least most : Nat) (cs : List Char) : Option (Nat × List Char) :=
  let ds := (cs.take most).takeWhile Json.isAsciiDigit
  if ds.length < least then none else some (Json.asciiValue ds, cs.drop ds.length)

def readSign (sign : Char) : List Char → Option (List Char)
  | [] => none
  | c :: cs => if c = sign then some cs else none

def isSpace (c : Char) : Bool :=
  c = ' ' || c = '\t'

def readDate (cs : List Char) : Option (Date × List Char) := do
  let (year, cs) ← readDigits 4 4 cs
  let (month, cs) ← readDigits 1 2 (← readSign '-' cs)
  let (d, cs) ← readDigits 1 2 (← readSign '-' cs)
  pure (⟨year, month, d⟩, cs)

def readGap : List Char → Option (List Char)
  | [] => none
  | c :: cs =>
    if c = 'T' || c = 't' then some cs
    else if isSpace c then some (cs.dropWhile isSpace)
    else none

def readOffset (cs : List Char) : Option Int := do
  match cs with
  | ['Z'] => pure 0
  | sign :: cs =>
    let (hours, cs) ← readDigits 1 2 cs
    let minutes ← match cs with
      | [] => some 0
      | ':' :: cs => do
        let (minutes, cs) ← readDigits 2 2 cs
        if cs.isEmpty then some minutes else none
      | _ => none
    let total : Int := hours * 60 + minutes
    if sign = '+' then pure total else if sign = '-' then pure (-total) else none
  | [] => none

def microseconds (ds : List Char) : Nat :=
  let kept := ds.take 6
  Json.asciiValue kept * Nat.pow 10 (6 - kept.length)

def readTime (date : Date) (cs : List Char) : Option Moment := do
  let (hour, cs) ← readDigits 1 2 cs
  let (minute, cs) ← readDigits 2 2 (← readSign ':' cs)
  let (second, cs) ← readDigits 2 2 (← readSign ':' cs)
  let (fraction, cs) := match cs with
    | '.' :: cs => (cs.takeWhile Json.isAsciiDigit, cs.dropWhile Json.isAsciiDigit)
    | cs => ([], cs)
  let offset ← if cs.isEmpty then some none else (readOffset (cs.dropWhile isSpace)).map some
  pure ⟨date, hour, minute, second, microseconds fraction, offset⟩

def read (cs : List Char) : Option Stamp := do
  let (date, cs) ← readDate cs
  if cs.isEmpty then pure (.day date) else (readTime date (← readGap cs)).map .time

def isPlain (cs : List Char) : Bool :=
  match read cs with
  | some (.day _) => cs.length = 10
  | some (.time _) => true
  | none => false

end Stamp

def plainKind (s : String) : Kind :=
  let cs := s.toList
  if Spelling.isBool s then .bool
  else if Spelling.isFloat cs then .float
  else if Spelling.isInt cs then .int
  else if s = "<<" then .merge
  else if Spelling.nulls.contains s then .null
  else if Stamp.isPlain cs then .timestamp
  else if s = "=" then .value
  else .text

def Node.kind? : Node → Option Kind
  | .scalar .plain s => some (plainKind s)
  | .scalar .quoted _ => some .text
  | .sequence .plain _ => some .sequence
  | .sequence .quoted _ => some .sequence
  | .mapping .plain _ => some .mapping
  | .mapping .quoted _ => some .mapping
  | .scalar (.named t) _ => Kind.ofTag? t
  | .sequence (.named t) _ => Kind.ofTag? t
  | .mapping (.named t) _ => Kind.ofTag? t

example : plainKind "1_000" = .int ∧ plainKind "08" = .text ∧ plainKind "1." = .float := by
  decide +kernel

end GraphContracts.Yaml
