import GraphContracts.Number.Binary64
import GraphContracts.Text.Blank
import GraphContracts.Text.Digit

namespace GraphContracts.Spelled

def digit? (base : Nat) (c : Char) : Option Nat :=
  let value :=
    if 'a' ≤ c && c ≤ 'z' then some (c.toNat - 0x57)
    else if 'A' ≤ c && c ≤ 'Z' then some (c.toNat - 0x37)
    else Text.digitValue? c
  value.filter (· < base)

def digits? (base : Nat) (cs : List Char) : Option Nat :=
  if cs.isEmpty then none
  else cs.foldlM (fun n c => (digit? base c).map (n * base + ·)) 0

def splitSign : List Char → Bool × List Char
  | '-' :: cs => (true, cs)
  | '+' :: cs => (false, cs)
  | cs => (false, cs)

def baseMarks : Nat → List Char
  | 2 => ['b', 'B']
  | 8 => ['o', 'O']
  | 16 => ['x', 'X']
  | _ => []

def dropBaseMark (base : Nat) (cs : List Char) : List Char :=
  match cs with
  | '0' :: c :: more => if (baseMarks base).contains c then more else cs
  | _ => cs

def integer? (base : Nat) (cs : List Char) : Option Int :=
  let (negative, body) := splitSign (Text.trim Text.isBlank cs)
  (digits? base (dropBaseMark base body)).map fun n => if negative then -(n : Int) else n

def exponent? : List Char → Option Int
  | [] => some 0
  | c :: cs =>
    if c = 'e' || c = 'E' then
      let (negative, body) := splitSign cs
      (digits? 10 body).map fun n => if negative then -(n : Int) else n
    else none

def decimal? (negative : Bool) (cs : List Char) : Option Binary64 :=
  let whole := cs.takeWhile Text.isDigit
  let afterWhole := cs.drop whole.length
  let (fraction, after) := match afterWhole with
    | '.' :: more => (more.takeWhile Text.isDigit, more.dropWhile Text.isDigit)
    | _ => ([], afterWhole)
  match digits? 10 (whole ++ fraction), exponent? after with
  | some n, some e => some (.ofDecimal negative n (e - fraction.length))
  | _, _ => none

def real? (cs : List Char) : Option Binary64 :=
  let (negative, body) := splitSign (Text.trim Text.isBlank cs)
  let word := String.ofList (body.map Char.toLower)
  if word = "inf" || word = "infinity" then some (.infinite negative)
  else if word = "nan" then some .nan
  else decimal? negative body

example : integer? 16 "-0xff".toList = some (-255) := by decide

end GraphContracts.Spelled
