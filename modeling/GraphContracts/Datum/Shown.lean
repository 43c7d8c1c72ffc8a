import GraphContracts.Datum.Literal
import GraphContracts.Json.Reader

namespace GraphContracts.Datum

mutual

/-- Whether a value has a text. -/
def isShown : Datum → Bool
  | .int n => n.natAbs < Nat.pow 10 Json.integerLimit
  | .list items => areShown items
  | .tuple items => areShown items
  | .set items => areShown items
  | .map entries => entriesAreShown entries
  | _ => true

def areShown : List Datum → Bool
  | [] => true
  | d :: ds => d.isShown && areShown ds

def entriesAreShown : List (Datum × Datum) → Bool
  | [] => true
  | (k, v) :: es => k.isShown && v.isShown && entriesAreShown es

end

def longIntegerMessage : String :=
  "Exceeds the limit (4300 digits) for integer string conversion; " ++
    "use sys.set_int_max_str_digits() to increase the limit"

end GraphContracts.Datum
