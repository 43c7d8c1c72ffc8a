import GraphContracts.Schema.Checked
import GraphContracts.Json.Reader
import GraphContracts.Text.Blank
import GraphContracts.Text.Utf8

namespace GraphContracts.Schema

def text : Datum → Checked String
  | .text s => .valid s
  | .bytes bs =>
    match Text.Utf8.decode bs with
    | .ok cs => .valid (String.ofList cs)
    | .error _ => .issue .textEncoding (.bytes bs)
  | d => .issue .text d

/-- Whether underscores stand only between digits, one at a time. -/
def groupsDigits : List Char → Bool
  | [] => false
  | [c] => Json.isAsciiDigit c
  | c :: '_' :: cs => Json.isAsciiDigit c && groupsDigits cs
  | c :: cs => Json.isAsciiDigit c && groupsDigits cs

/-- Leading zeros fall away with the underscores among them; the last character stays. -/
def dropZeros (whole : List Char) : List Char :=
  match whole with
  | '0' :: _ =>
    match whole.dropWhile fun c => c = '0' || c = '_' with
    | [] => whole.drop (whole.length - 1)
    | rest => rest
  | _ => whole

/-- A text that spells an integer: a sign, digits, and after a point nothing but zeros. -/
def spelledInteger? (cs : List Char) : Option (Bool × List Char) :=
  let trimmed := Text.trim Text.isWhiteSpace cs
  let (negative, body) := match trimmed with
    | '-' :: r => (true, r)
    | '+' :: r => (false, r)
    | r => (false, r)
  let whole := body.takeWhile (· ≠ '.')
  let fraction := body.drop whole.length
  let plain := match fraction with
    | [] => true
    | _ :: zeros => !zeros.isEmpty && zeros.all (· = '0')
  -- Behind a minus sign the zeros stay.
  let digits := if negative then whole else dropZeros whole
  if groupsDigits digits && plain then some (negative, digits.filter (· ≠ '_')) else none

def wholeBound : Nat := 1 <<< 63

def integer (d : Datum) : Checked Int :=
  match d with
  | .int n => .valid n
  | .bool b => .valid (if b then 1 else 0)
  | .float x =>
    if !x.isFinite then .issue .notFinite d
    else
      match x.toInt? with
      | none => .issue .integerFraction d
      | some n => if n.natAbs < wholeBound then .valid n else .issue .integerSize d
  | .text s =>
    match spelledInteger? s.toList with
    | none => .issue .integerText d
    | some (negative, digits) =>
      -- A minus sign counts like a digit.
      if Json.integerLimit < digits.length + negative.toNat then .issue .integerSize d
      else
        let n : Int := Json.asciiValue digits
        .valid (if negative then -n else n)
  | _ => .issue .integer d

def trueWords : List String :=
  ["1", "on", "t", "true", "y", "yes"]

def falseWords : List String :=
  ["0", "off", "f", "false", "n", "no"]

def boolean (d : Datum) : Checked Bool :=
  match d with
  | .bool b => .valid b
  | .int n =>
    if n = 0 then .valid false else if n = 1 then .valid true else .issue .booleanText d
  | .float x =>
    match x.toInt? with
    | some 0 => .valid false
    | some 1 => .valid true
    | _ => .issue .boolean d
  | .text s =>
    let word := s.map Char.toLower
    if trueWords.contains word then .valid true
    else if falseWords.contains word then .valid false
    else .issue .booleanText d
  | _ => .issue .boolean d

def choice {α : Type} (cause : List String → Cause) (options : List (String × α)) (d : Datum) :
    Checked α :=
  let refused := Checked.issue (cause (options.map (·.1))) d
  match d with
  | .text s =>
    match options.lookup s with
    | some a => .valid a
    | none => refused
  | _ => refused

def nullable {α : Type} (read : Datum → Checked α) : Datum → Checked (Option α)
  | .null => .valid none
  | d => (read d).map some

def items {α : Type} (cause : Cause) (read : Datum → Checked α) : Datum → Checked (List α)
  | .list ds => .collect read 0 ds
  | .tuple ds => .collect read 0 ds
  | .set ds => .collect read 0 ds
  | d => .issue cause d

/-- The entries of a mapping with text keys. An issue of a key stands under a mark behind the
key. -/
def entries {α : Type} (read : Datum → Checked α) : Entries → Checked (List (String × α))
  | [] => .valid []
  | (k, v) :: es =>
    let entry : Checked (String × α) :=
      ((((text k).within "[key]").map Prod.mk).seq (read v)).within k.display
    (entry.map List.cons).seq (entries read es)

def assign {α : Type} (name : String) (a : α) : List (String × α) → List (String × α)
  | [] => [(name, a)]
  | (n, b) :: es => if n = name then (n, a) :: es else (n, b) :: assign name a es

def assignAll {α : Type} (pairs : List (String × α)) : List (String × α) :=
  pairs.foldl (fun es (n, a) => assign n a es) []

/-- The entries of a mapping, in which two keys may be read as the same text. -/
def mapping {α : Type} (read : Datum → Checked α) : Datum → Checked (List (String × α))
  | .map es => (entries read es).map assignAll
  | d => .issue .mapping d

theorem map_fst_assign {α : Type} (name : String) (a : α) (es : List (String × α)) :
    (assign name a es).map Prod.fst =
      if name ∈ es.map Prod.fst then es.map Prod.fst else es.map Prod.fst ++ [name] := by
  induction es with
  | nil => rfl
  | cons e es ih =>
    obtain ⟨n, b⟩ := e
    by_cases h : n = name
    · simp [assign, h]
    · simp only [assign, h, if_false, List.map_cons, ih, List.mem_cons, Ne.symm h, false_or]
      split <;> rfl

theorem nodup_assignAll {α : Type} (pairs : List (String × α)) :
    ((assignAll pairs).map Prod.fst).Nodup := by
  have hfold : ∀ es : List (String × α), (es.map Prod.fst).Nodup →
      ((pairs.foldl (fun es (n, a) => assign n a es) es).map Prod.fst).Nodup := by
    induction pairs with
    | nil => exact fun es h => h
    | cons p pairs ih =>
      intro es h
      refine ih _ ?_
      rw [map_fst_assign]
      split
      · exact h
      · rename_i hnew
        simp only [List.nodup_append, h, List.nodup_cons, List.not_mem_nil, not_false_eq_true,
          List.nodup_nil, true_and, List.mem_singleton]
        exact fun n hn _ hname he => hnew (hname ▸ he ▸ hn)
  exact hfold [] List.nodup_nil

example : spelledInteger? "0_01_000.0".toList = some (false, "1000".toList) := by decide

end GraphContracts.Schema
