import GraphContracts.Log.Journal

namespace GraphContracts.Log

inductive Program where
  | skip
  | raise
  | setContract (id : String)
  | clearContract
  | log (time : String) (e : Event)
  | relay (time : String) (e : Event)
  | contract (id : String) (body : Program)
  | attempt (body : Program)
  | seq (first second : Program)

namespace Program

/-- A test of a suite: its data are at hand while the contract named after the test is running, and
the suite goes on after a failure. -/
def test (node : String) (body : Program) : Program :=
  .attempt (.contract node body)

def suite (tests : List (String × Program)) : Program :=
  tests.foldr (fun (node, body) rest => .seq (test node body) rest) .skip

/-- The journal after a program, and whether an exception left it. A contract that ends where none
is running would have no result. -/
def run : Program → Journal → Option (Journal × Bool)
  | .skip, j => some (j, false)
  | .raise, j => some (j, true)
  | .setContract id, j => some (j.setContract id, false)
  | .clearContract, j => some (j.clearContract, false)
  | .log time e, j => some (j.log time e, false)
  | .relay time e, j => some (j.relay time e, false)
  | .contract id body, j => do
    let (inside, raised) ← body.run (j.enter id)
    let j ← inside.leave?
    some (j, raised)
  | .attempt body, j => do
    let (j, _) ← body.run j
    some (j, false)
  | .seq first second, j => do
    let (j, raised) ← first.run j
    if raised then some (j, true) else second.run j

end Program

end GraphContracts.Log
