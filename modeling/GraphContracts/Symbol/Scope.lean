import GraphContracts.Text.Chars

namespace GraphContracts.Symbol

def opensSegment (before : List Char) : Bool :=
  match before.getLast? with
  | none => true
  | some c => c = ' ' || c = '/'

def closesSegment (after : List Char) : Bool :=
  after = [] || after = ['\n'] || after.head? = some '.'

def holdsSegment (fragment text : List Char) : Bool :=
  (Text.occurrences fragment text).any fun (before, after) =>
    opensSegment before && closesSegment after

theorem holdsSegment_eq_true {fragment text : List Char} :
    holdsSegment fragment text = true ↔
      ∃ before after, text = before ++ fragment ++ after ∧ opensSegment before = true ∧
        closesSegment after = true := by
  simp only [holdsSegment, List.any_eq_true, Prod.exists, Text.mem_occurrences,
    Bool.and_eq_true]

def inScope (fragment : String) (symbol : Option String) : Bool :=
  symbol.any fun s => holdsSegment fragment.toList s.toList

example : inScope "Order#f()" (some "SpecialOrder#f().") = false := by decide

end GraphContracts.Symbol
