import GraphContracts.Text.Chars

namespace GraphContracts

structure Date where
  year : Nat
  month : Nat
  day : Nat
  deriving DecidableEq, Repr

/-- A date with a time of day; `offset` is the distance from universal time in minutes, where one
is given. -/
structure Moment where
  date : Date
  hour : Nat
  minute : Nat
  second : Nat
  microsecond : Nat
  offset : Option Int
  deriving DecidableEq, Repr

inductive CalendarFault where
  | year (n : Nat)
  | month
  | day
  | hour
  | minute
  | second
  | offset (minutes : Int)
  deriving DecidableEq, Repr

namespace Date

def isLeap (year : Nat) : Bool :=
  year % 4 = 0 && (year % 100 ≠ 0 || year % 400 = 0)

def daysIn (year month : Nat) : Nat :=
  if month = 2 then (if isLeap year then 29 else 28)
  else if [4, 6, 9, 11].contains month then 30
  else 31

def check (d : Date) : Except CalendarFault Date :=
  if d.year = 0 ∨ 9999 < d.year then .error (.year d.year)
  else if d.month = 0 ∨ 12 < d.month then .error .month
  else if d.day = 0 ∨ daysIn d.year d.month < d.day then .error .day
  else .ok d

def display (d : Date) : String :=
  let pad := fun w n => Text.padLeft '0' w (toString (n : Nat))
  s!"{pad 4 d.year}-{pad 2 d.month}-{pad 2 d.day}"

def literal (d : Date) : String :=
  s!"datetime.date({d.year}, {d.month}, {d.day})"

def daysBeforeYear (year : Nat) : Nat :=
  let y := year - 1
  y * 365 + y / 4 - y / 100 + y / 400

def ordinal (d : Date) : Nat :=
  let months := (List.range (d.month - 1)).map fun m => daysIn d.year (m + 1)
  daysBeforeYear d.year + months.foldl (· + ·) 0 + d.day

example : Date.check ⟨2023, 2, 29⟩ = .error .day := rfl

end Date

namespace Moment

def check (m : Moment) : Except CalendarFault Moment :=
  match m.date.check with
  | .error e => .error e
  | .ok _ =>
    if 23 < m.hour then .error .hour
    else if 59 < m.minute then .error .minute
    else if 59 < m.second then .error .second
    else .ok m

def displayOffset (minutes : Int) : String :=
  let pad := fun n => Text.padLeft '0' 2 (toString (n : Nat))
  let sign := if minutes < 0 then "-" else "+"
  sign ++ pad (minutes.natAbs / 60) ++ ":" ++ pad (minutes.natAbs % 60)

def display (m : Moment) : String :=
  let pad := fun w n => Text.padLeft '0' w (toString (n : Nat))
  let fraction := if m.microsecond = 0 then "" else "." ++ pad 6 m.microsecond
  let zone := (m.offset.map displayOffset).getD ""
  s!"{m.date.display} {pad 2 m.hour}:{pad 2 m.minute}:{pad 2 m.second}" ++ fraction ++ zone

/-- A span of minutes as days and seconds, the seconds never negative. -/
def literalSpan (minutes : Int) : String :=
  let seconds := minutes * 60
  let days := seconds.fdiv 86400
  let rest := seconds.fmod 86400
  let parts := (if days = 0 then [] else [s!"days={days}"]) ++
    (if rest = 0 then [] else [s!"seconds={rest}"])
  "datetime.timedelta(" ++ (if parts.isEmpty then "0" else Text.joinWith ", " parts) ++ ")"

def literalZone (minutes : Int) : String :=
  if minutes = 0 then "datetime.timezone.utc" else s!"datetime.timezone({literalSpan minutes})"

def literal (m : Moment) : String :=
  let tail :=
    if m.microsecond ≠ 0 then s!", {m.second}, {m.microsecond}"
    else if m.second ≠ 0 then s!", {m.second}"
    else ""
  let zone := match m.offset with
    | some o => s!", tzinfo={literalZone o}"
    | none => ""
  s!"datetime.datetime({m.date.year}, {m.date.month}, {m.date.day}, {m.hour}, {m.minute}" ++
    tail ++ zone ++ ")"

def instant (m : Moment) : Int :=
  let minutes : Int := (m.date.ordinal * 24 + m.hour) * 60 + m.minute
  ((minutes - m.offset.getD 0) * 60 + m.second) * 1000000 + m.microsecond

/-- Whether two moments name the same time. One with an offset and one without never do. -/
def same (a b : Moment) : Bool :=
  a.offset.isSome = b.offset.isSome && a.instant = b.instant

end Moment

namespace CalendarFault

def message : CalendarFault → String
  | .year n => s!"year {n} is out of range"
  | .month => "month must be in 1..12"
  | .day => "day is out of range for month"
  | .hour => "hour must be in 0..23"
  | .minute => "minute must be in 0..59"
  | .second => "second must be in 0..59"
  | .offset minutes =>
    "offset must be a timedelta strictly between -timedelta(hours=24) and " ++
      "timedelta(hours=24), not " ++
      Moment.literalSpan minutes

end CalendarFault

end GraphContracts
