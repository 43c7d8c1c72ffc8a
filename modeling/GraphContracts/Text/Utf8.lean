import GraphContracts.Text.Quoted

namespace GraphContracts.Text.Utf8

inductive Reason where
  | invalidStart
  | invalidContinuation
  | unexpectedEnd
  deriving DecidableEq, Repr

/-- The octets from `start` on, `length` of them, cannot be read. -/
structure Fault where
  first : Nat
  start : Nat
  length : Nat
  reason : Reason
  deriving DecidableEq, Repr

def isTail (b : Nat) : Bool :=
  0x80 ≤ b && b ≤ 0xbf

def allowsSecond (lead b : Nat) : Bool :=
  isTail b &&
    (if lead = 0xe0 then 0xa0 ≤ b
    else if lead = 0xed then b < 0xa0
    else if lead = 0xf0 then 0x90 ≤ b
    else if lead = 0xf4 then b < 0x90
    else true)

def leadLength? (b : Nat) : Option Nat :=
  if b < 0x80 then some 1
  else if b < 0xc2 then none
  else if b < 0xe0 then some 2
  else if b < 0xf0 then some 3
  else if b < 0xf5 then some 4
  else none

def combine (lead : Nat) (tails : List Nat) : Nat :=
  let high :=
    match tails.length with
    | 0 => lead
    | 1 => lead - 0xc0
    | 2 => lead - 0xe0
    | _ => lead - 0xf0
  tails.foldl (fun n b => n * 64 + (b - 0x80)) high

/-- How many of the announced tails are there and well formed, counted up to the first that is
not. -/
def goodTails (lead : Nat) (tails : List Nat) : Nat :=
  match tails with
  | [] => 0
  | b :: more => if allowsSecond lead b then 1 + (more.takeWhile isTail).length else 0

/-- Reads all octets; `skip` counts those that belong to a character already read, and `at` is
the place of the next octet. -/
def decodeFrom (skip position : Nat) : List UInt8 → Except Fault (List Char)
  | [] => .ok []
  | b :: bs =>
    match skip with
    | skip + 1 => decodeFrom skip (position + 1) bs
    | 0 =>
      let lead := b.toNat
      match leadLength? lead with
      | none => .error ⟨lead, position, 1, .invalidStart⟩
      | some n =>
        let tails := (bs.take (n - 1)).map (·.toNat)
        let good := goodTails lead tails
        if good = n - 1 then
          (decodeFrom (n - 1) (position + 1) bs).map (Char.ofNat (combine lead tails) :: ·)
        else if good = tails.length then
          .error ⟨lead, position, 1 + tails.length, .unexpectedEnd⟩
        else .error ⟨lead, position, 1 + good, .invalidContinuation⟩

def decode (bs : List UInt8) : Except Fault (List Char) :=
  decodeFrom 0 0 bs

def Reason.message : Reason → String
  | .invalidStart => "invalid start byte"
  | .invalidContinuation => "invalid continuation byte"
  | .unexpectedEnd => "unexpected end of data"

def Fault.message (f : Fault) : String :=
  let place :=
    if f.length = 1 then
      "byte 0x" ++ String.ofList (Quoted.hexDigits 2 f.first) ++ s!" in position {f.start}"
    else s!"bytes in position {f.start}-{f.start + f.length - 1}"
  "'utf-8' codec can't decode " ++ place ++ ": " ++ f.reason.message

def normalizeNewlines : List Char → List Char
  | [] => []
  | '\r' :: '\n' :: cs => '\n' :: normalizeNewlines cs
  | c :: cs => (if c = '\r' then '\n' else c) :: normalizeNewlines cs

def readText (bs : List UInt8) : Except Fault String :=
  (decode bs).map fun cs => String.ofList (normalizeNewlines cs)

example : (decode [0x41, 0xc3, 0xa9]).toOption = some ['A', 'é'] := by decide

end GraphContracts.Text.Utf8
