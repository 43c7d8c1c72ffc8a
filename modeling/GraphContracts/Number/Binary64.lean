namespace GraphContracts

/-- `finite n m e` is the number `± m * 2 ^ e`. -/
inductive Binary64 where
  | nan
  | infinite (negative : Bool)
  | finite (negative : Bool) (mantissa : Nat) (exponent : Int)
  deriving DecidableEq, Repr

namespace Binary64

def leastExponent : Int := -1074

def greatestExponent : Int := 971

def zero (negative : Bool) : Binary64 :=
  .finite negative 0 leastExponent

def divRound (num den : Nat) : Nat :=
  let q := num / den
  let twice := 2 * (num % den)
  if twice > den || (twice = den && q % 2 = 1) then q + 1 else q

/-- The ratio `num / den` divided by `2 ^ e`, rounded to a natural number with a half going to
the even neighbour. -/
def scaledRound (num den : Nat) (e : Int) : Nat :=
  if 0 ≤ e then divRound num (den <<< e.toNat) else divRound (num <<< (-e).toNat) den

def scaledFloor (num den : Nat) (e : Int) : Nat :=
  if 0 ≤ e then num / (den <<< e.toNat) else (num <<< (-e).toNat) / den

def mantissaBound : Nat := 1 <<< 53

/-- The number next to the ratio `num / den`; a tie goes to the even mantissa. -/
def ofRatio (negative : Bool) (num den : Nat) : Binary64 :=
  if num = 0 ∨ den = 0 then zero negative
  else
    let guess : Int := (num.log2 : Int) - den.log2 - 53
    let exact := if mantissaBound ≤ scaledFloor num den guess then guess + 1 else guess
    let e := max exact leastExponent
    let m := scaledRound num den e
    let (m, e) := if m = mantissaBound then (m / 2, e + 1) else (m, e)
    if e > greatestExponent then .infinite negative else .finite negative m e

/-- The number nearest to `digits * 10 ^ exponent`. -/
def ofDecimal (negative : Bool) (digits : Nat) (exponent : Int) : Binary64 :=
  if digits = 0 then zero negative
  else if exponent > 400 then .infinite negative
  else if exponent + (digits.log2 : Int) < -1200 then zero negative
  else if 0 ≤ exponent then ofRatio negative (digits * Nat.pow 10 exponent.toNat) 1
  else ofRatio negative digits (Nat.pow 10 (-exponent).toNat)

def ratio? : Binary64 → Option (Bool × Nat × Nat)
  | .finite n m e =>
    some (if 0 ≤ e then (n, m <<< e.toNat, 1) else (n, m, 1 <<< (-e).toNat))
  | _ => none

def toInt? (x : Binary64) : Option Int :=
  match x.ratio? with
  | some (n, num, den) =>
    if num % den = 0 then some (if n then -(num / den : Nat) else (num / den : Nat)) else none
  | none => none

def isFinite : Binary64 → Bool
  | .finite .. => true
  | _ => false

def signed (n : Bool) (k : Nat) : Int :=
  if n then -k else k

def add (x y : Binary64) : Binary64 :=
  match x.ratio?, y.ratio? with
  | some (n, a, b), some (k, c, d) =>
    let total := signed n a * d + signed k c * b
    if total = 0 then zero (n && k) else ofRatio (total < 0) total.natAbs (b * d)
  | none, some _ => x
  | some _, none => y
  | none, none => if x = y then x else .nan

def mulNat (x : Binary64) (k : Nat) : Binary64 :=
  match x.ratio? with
  | some (n, a, b) => ofRatio n (a * k) b
  | none => x

def neg : Binary64 → Binary64
  | .nan => .nan
  | .infinite n => .infinite !n
  | .finite n m e => .finite (!n) m e

example : ofDecimal false 15 (-1) = .finite false (3 <<< 51) (-52) := by decide +kernel

end Binary64

end GraphContracts
