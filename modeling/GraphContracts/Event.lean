import GraphContracts.Failure

namespace GraphContracts

inductive Level where
  | debug
  | info
  | warning
  | error
  | critical
  deriving DecidableEq, Repr

namespace Level

def all : List Level :=
  [.debug, .info, .warning, .error, .critical]

def rank : Level → Nat
  | .debug => 10
  | .info => 20
  | .warning => 30
  | .error => 40
  | .critical => 50

def name : Level → String
  | .debug => "debug"
  | .info => "info"
  | .warning => "warning"
  | .error => "error"
  | .critical => "critical"

def ofName? (s : String) : Option Level :=
  all.find? fun l => l.name = s

instance : LE Level where
  le a b := a.rank ≤ b.rank

instance (a b : Level) : Decidable (a ≤ b) :=
  inferInstanceAs (Decidable (a.rank ≤ b.rank))

end Level

structure Event where
  logger : String
  level : Level
  name : String
  fields : List (String × Datum)
  deriving Repr

/-- A result with the events emitted on the way to it. -/
structure Logged (α : Type) where
  events : List Event
  result : Except Fault α

namespace Logged

variable {α β : Type}

def ofExcept (r : Except Fault α) : Logged α :=
  ⟨[], r⟩

def pure (a : α) : Logged α :=
  ⟨[], .ok a⟩

/-- The second computation runs only when the first succeeds; events keep their order. -/
def bind (x : Logged α) (f : α → Logged β) : Logged β :=
  match x.result with
  | .error e => ⟨x.events, .error e⟩
  | .ok a => ⟨x.events ++ (f a).events, (f a).result⟩

def tell (x : Logged α) (events : α → List Event) : Logged α :=
  x.bind fun a => ⟨events a, .ok a⟩

instance : Monad Logged where
  pure := pure
  bind := bind

end Logged

end GraphContracts
