import GraphContracts.Terminal.Table

namespace GraphContracts.Terminal

inductive Block where
  | text (markup : String)
  | table (t : Table)
  | blank
  deriving DecidableEq, Repr

namespace Block

def lines (width : Nat) : Block → Except Fault (List (List Char))
  | .text markup => (Markup.plain markup.toList).map (Wrap.shown .fold width)
  | .table t => t.render width
  | .blank => .ok [[]]

def render (width : Nat) (b : Block) : Except Fault String :=
  (b.lines width).map fun lines => String.ofList (lines.flatMap (· ++ ['\n']))

end Block

structure Printed where
  text : String
  fault : Option Fault

def printPage (width : Nat) : List Block → Printed
  | [] => ⟨"", none⟩
  | b :: bs =>
    match b.render width with
    | .error e => ⟨"", some e⟩
    | .ok s =>
      let rest := printPage width bs
      ⟨s ++ rest.text, rest.fault⟩

end GraphContracts.Terminal
