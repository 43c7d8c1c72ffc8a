import GraphContracts.Datum.Basic

namespace GraphContracts

def Entries.find? (key : Datum) (es : Entries) : Option Datum :=
  (List.find? (fun (k, _) => k.sameKey key) es).map (·.2)

mutual

/-- The upper value over the lower one. -/
def Datum.over (low : Datum) : Datum → Datum
  | .map high =>
    match low with
    | .map es => .map (Entries.over es high)
    | _ => .map high
  | d => d

def Entries.over (low : Entries) : List (Datum × Datum) → Entries
  | [] => low
  | (k, v) :: more =>
    let value := match Entries.find? k low with
      | some w => w.over v
      | none => v
    Entries.over (low.set k value) more

end

example : Entries.over [(.text "a", .int 1), (.text "b", .int 2)] [(.text "a", .null)] =
    [(.text "a", .null), (.text "b", .int 2)] := rfl

end GraphContracts
