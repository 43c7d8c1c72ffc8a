import GraphContracts.Datum.Literal
import GraphContracts.Graph.Node

namespace GraphContracts.Literal

def text? (s : Option String) : String :=
  Datum.textLiteral s

def member (listName name : String) : String :=
  "<" ++ listName ++ "." ++ name.map Char.toUpper ++ ": '" ++ name ++ "'>"

def record (name : String) (fields : List (String × String)) : String :=
  name ++ "(" ++ Text.joinWith ", " (fields.map fun (k, v) => k ++ "=" ++ v) ++ ")"

def tuple (items : List String) : String :=
  "(" ++ Text.joinWith ", " items ++ (if items.length = 1 then ",)" else ")")

def location (l : Location) : String :=
  record "Location" [("file", Text.quoted l.file), ("line", toString l.line),
    ("col", toString l.col)]

def optional {α : Type} (f : α → String) : Option α → String
  | some a => f a
  | none => "None"

def value (v : Value) : String :=
  record "Value" [("id", Text.quoted v.id), ("kind", member "ValueKind" v.kind.name),
    ("kind_type", text? v.kindType), ("symbol", text? v.symbol),
    ("type", text? v.type), ("expr", text? v.expr),
    ("source_call_id", text? v.sourceCallId),
    ("source_value_id", text? v.sourceValueId),
    ("location", optional location v.location),
    ("declared_name", text? v.declaredName)]

def argument (a : Argument) : String :=
  record "Argument" [("position", toString a.position),
    ("parameter", text? a.parameter), ("value_id", text? a.valueId),
    ("value_expr", text? a.valueExpr)]

def call (c : Call) : String :=
  record "Call" [("id", Text.quoted c.id), ("kind", member "CallKind" c.kind.name),
    ("kind_type", optional (fun k => member "KindType" k.name) c.kindType),
    ("caller", Text.quoted c.caller), ("callee", text? c.callee),
    ("return_type", text? c.returnType),
    ("receiver_value_id", text? c.receiverValueId),
    ("result_value_id", text? c.resultValueId),
    ("location", optional location c.location),
    ("arguments", tuple (c.arguments.map argument))]

def mapping (entries : List (String × String)) : String :=
  "\x7b" ++ Text.joinWith ", " (entries.map fun (k, v) => Text.quoted k ++ ": " ++ v) ++ "\x7d"

end GraphContracts.Literal
