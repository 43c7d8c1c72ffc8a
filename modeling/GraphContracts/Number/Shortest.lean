import GraphContracts.Number.Binary64
import GraphContracts.Text.Chars

namespace GraphContracts

structure Decimal where
  digits : Nat
  exponent : Int
  deriving DecidableEq, Repr

namespace Decimal

def gridExponent (num den count : Nat) : Int :=
  let whole := num / den
  if whole ≠ 0 then ((toString whole).length : Int) - count
  else
    let lead := ((List.range 400).find? fun k => den ≤ num * Nat.pow 10 (k + 1)).getD 400
    0 - (lead : Int) - count

def gridFloor (num den : Nat) (e : Int) : Nat :=
  if 0 ≤ e then num / (den * Nat.pow 10 e.toNat) else num * Nat.pow 10 (-e).toNat / den

/-- The distance from `num / den` to `d * 10 ^ e`, over a denominator that does not depend on
`d`. -/
def gridDistance (num den : Nat) (e : Int) (d : Nat) : Nat :=
  if 0 ≤ e then ((num : Int) - (d * den * Nat.pow 10 e.toNat : Nat)).natAbs
  else ((num * Nat.pow 10 (-e).toNat : Nat) - (d * den : Int)).natAbs

/-- The neighbour on the grid of `count` digits that reads back as `x`. -/
def onGrid? (x : Binary64) (num den count : Nat) : Option Decimal :=
  let e := gridExponent num den count
  let low := gridFloor num den e
  let readsBack := fun d => Binary64.ofDecimal false d e = x
  match decide (readsBack low), decide (readsBack (low + 1)) with
  | true, true =>
    let below := gridDistance num den e low
    let above := gridDistance num den e (low + 1)
    if below < above || (below = above && low % 2 = 0) then some ⟨low, e⟩ else some ⟨low + 1, e⟩
  | true, false => some ⟨low, e⟩
  | false, true => some ⟨low + 1, e⟩
  | false, false => none

def shortest (x : Binary64) (num den : Nat) : Decimal :=
  ((List.range 17).findSome? fun k => onGrid? x num den (k + 1)).getD ⟨0, 0⟩

/-- How a number is laid out: the largest power of ten written in positional form and the
smallest one. -/
structure Layout where
  positionalBelow : Int
  positionalFrom : Int
  exponentWidth : Nat

def plainLayout : Layout :=
  ⟨16, -4, 2⟩

def stripZeros (cs : List Char) : List Char × Nat :=
  let kept := (cs.reverse.dropWhile (· = '0')).reverse
  (kept, cs.length - kept.length)

def render (layout : Layout) (d : Decimal) : String :=
  let (ds, zeros) := stripZeros (toString d.digits).toList
  let low := d.exponent + zeros
  let point : Int := ds.length + low
  if layout.positionalFrom < point && point ≤ layout.positionalBelow then
    if point ≤ 0 then
      "0." ++ String.ofList (List.replicate (-point).toNat '0' ++ ds)
    else if 0 ≤ low then
      String.ofList (ds ++ List.replicate low.toNat '0') ++ ".0"
    else String.ofList (ds.take point.toNat ++ '.' :: ds.drop point.toNat)
  else
    let e := point - 1
    let mark := if e < 0 then "e-" else "e+"
    let fraction := match ds.drop 1 with
      | [] => ""
      | more => String.ofList ('.' :: more)
    String.ofList (ds.take 1) ++ fraction ++ mark ++
      Text.padLeft '0' layout.exponentWidth (toString e.natAbs)

end Decimal

namespace Binary64

structure Words where
  nan : String
  infinity : String

def plainWords : Words :=
  ⟨"nan", "inf"⟩

def render (words : Words) (x : Binary64) : String :=
  match x with
  | .nan => words.nan
  | .infinite n => (if n then "-" else "") ++ words.infinity
  | .finite n 0 _ => if n then "-0.0" else "0.0"
  | .finite n m e =>
    match (Binary64.finite false m e).ratio? with
    | some (_, num, den) =>
      (if n then "-" else "") ++
        (Decimal.shortest (.finite false m e) num den).render Decimal.plainLayout
    | none => words.nan

end Binary64

end GraphContracts
