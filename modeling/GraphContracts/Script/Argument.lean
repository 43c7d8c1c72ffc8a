import GraphContracts.Script.Record

namespace GraphContracts.Script

abbrev Arg := Object

def textArg : Object → Except Fault String
  | .plain (.text s) => .ok s
  | _ => .error .keyword

def intArg : Object → Except Fault Int
  | .plain (.int n) => .ok n
  | .plain (.bool b) => .ok (if b then 1 else 0)
  | _ => .error .keyword

def optTextArg : Object → Except Fault (Option String)
  | .plain .null => .ok none
  | o => (textArg o).map some

def yield (o : Object) : Logged Object := .pure o

def lift (r : Except Fault Object) : Logged Object := .ofExcept r

def liftFailure (r : Except Failure Object) : Logged Object := .ofExcept (r.mapError .failure)

def unknownStep : Logged Object := .ofExcept (.error .attribute)

def ask (args : List Arg) (f : String → Logged Object) : Logged Object :=
  match args with
  | [a] => (Logged.ofExcept (textArg a)).bind f
  | _ => .ofExcept (.error .keyword)

def askInt (args : List Arg) (f : Int → Logged Object) : Logged Object :=
  match args with
  | [a] => (Logged.ofExcept (intArg a)).bind f
  | _ => .ofExcept (.error .keyword)

def askTwo (args : List Arg) (f : String → String → Logged Object) : Logged Object :=
  match args with
  | [a, b] => .bind (.ofExcept (textArg a)) fun x => .bind (.ofExcept (textArg b)) fun y => f x y
  | _ => .ofExcept (.error .keyword)

def askTexts (args : List Arg) (f : List String → Logged Object) : Logged Object :=
  match args with
  | [.plain (.list ds)] => (Logged.ofExcept (ds.mapM fun d => textArg (.plain d))).bind f
  | _ => .ofExcept (.error .keyword)

def fromFields (fs : List Field) (name : String) : Logged Object :=
  match fs.lookup name with
  | some r => lift r
  | none => unknownStep

end GraphContracts.Script
