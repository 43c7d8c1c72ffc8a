import GraphContracts.Datum.Basic
import GraphContracts.Text.Quoted

namespace GraphContracts.Datum

def boolLiteral (b : Bool) : String :=
  if b then "True" else "False"

mutual

def literal : Datum → String
  | .null => "None"
  | .bool b => boolLiteral b
  | .int n => toString n
  | .float x => x.render Binary64.plainWords
  | .text s => Text.quoted s
  | .bytes bs => String.ofList (Text.Quoted.encodeOctets bs)
  | .date d => d.literal
  | .moment m => m.literal
  | .list items => "[" ++ Text.joinWith ", " (literals items) ++ "]"
  | .tuple items =>
    "(" ++ Text.joinWith ", " (literals items) ++ (if items.length = 1 then ",)" else ")")
  | .set items =>
    if items.isEmpty then "set()" else "\x7b" ++ Text.joinWith ", " (literals items) ++ "\x7d"
  | .map entries => "\x7b" ++ Text.joinWith ", " (entryLiterals entries) ++ "\x7d"

def literals : List Datum → List String
  | [] => []
  | d :: ds => d.literal :: literals ds

def entryLiterals : List (Datum × Datum) → List String
  | [] => []
  | (k, v) :: es => (k.literal ++ ": " ++ v.literal) :: entryLiterals es

end

/-- The text of a value on its own: like the literal, but a text stands without quotes and a date
in its usual form. -/
def display : Datum → String
  | .text s => s
  | .date d => d.display
  | .moment m => m.display
  | d => d.literal

def kindName : Datum → String
  | .null => "NoneType"
  | .bool _ => "bool"
  | .int _ => "int"
  | .float _ => "float"
  | .text _ => "str"
  | .bytes _ => "bytes"
  | .date _ => "date"
  | .moment _ => "datetime"
  | .list _ => "list"
  | .tuple _ => "tuple"
  | .set _ => "set"
  | .map _ => "dict"

/-- A literal cut to fifty characters: its first twenty-five and its last twenty-four around
three dots. -/
def shortLiteral (d : Datum) : String :=
  let cs := d.literal.toList
  if cs.length ≤ 50 then String.ofList cs
  else String.ofList (cs.take 25) ++ "..." ++ String.ofList (cs.drop (cs.length - 24))

def textLiteral (s : Option String) : String :=
  (optional .text s).literal

end GraphContracts.Datum
