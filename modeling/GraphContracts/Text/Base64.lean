namespace GraphContracts.Text.Base64

def value? (c : Char) : Option Nat :=
  if 'A' ≤ c && c ≤ 'Z' then some (c.toNat - 65)
  else if 'a' ≤ c && c ≤ 'z' then some (c.toNat - 71)
  else if '0' ≤ c && c ≤ '9' then some (c.toNat + 4)
  else if c = '+' then some 62
  else if c = '/' then some 63
  else none

/-- The octets from here on. `bits` holds what is left of the sign before, `position` counts the
signs since the last whole group, and `pads` the padding since the last sign. -/
def decodeFrom (bits position pads : Nat) : List Char → Option (List UInt8)
  | [] => if position = 0 then some [] else none
  | c :: cs =>
    if c = '=' then
      if 2 ≤ position && 4 ≤ position + pads + 1 then some []
      else decodeFrom bits position (if 2 ≤ position then pads + 1 else pads) cs
    else
      match value? c, position with
      | none, _ => decodeFrom bits position pads cs
      | some v, 0 => decodeFrom v 1 0 cs
      | some v, 1 =>
        (decodeFrom (v % 16) 2 0 cs).map (UInt8.ofNat (bits * 4 + v / 16) :: ·)
      | some v, 2 => (decodeFrom (v % 4) 3 0 cs).map (UInt8.ofNat (bits * 16 + v / 4) :: ·)
      | some v, _ => (decodeFrom 0 0 0 cs).map (UInt8.ofNat (bits * 64 + v) :: ·)

def decode (cs : List Char) : Option (List UInt8) :=
  decodeFrom 0 0 0 cs

example : decode "YWI=".toList = some [97, 98] := by decide

end GraphContracts.Text.Base64
