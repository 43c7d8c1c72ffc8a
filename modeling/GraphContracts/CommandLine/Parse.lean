import GraphContracts.CommandLine.Similar
import GraphContracts.CommandLine.Usage
import GraphContracts.Text.Chars

namespace GraphContracts.CommandLine

inductive UsageError where
  | noArguments
  | noSuchSwitch (name : String) (similar : List String)
  | unexpectedValue (name : String)
  | missingValue (name : String)
  | missingOperand (name : String)
  | extraOperands (args : List String)
  | noSuchCommand (name : String) (similar : List String)
  | missingCommand
  deriving DecidableEq, Repr

namespace UsageError

def suggestion (kind : String) : List String → String
  | [] => ""
  | [word] => s!" Did you mean {Text.quoted word}?"
  | words =>
    let listed := Text.joinWith ", " (words.map Text.quoted)
    s!" (Possible {kind}: {listed})"

def message : UsageError → String
  | .noArguments => ""
  | .noSuchSwitch name similar =>
    s!"No such option {Text.quoted name}." ++ suggestion "options" similar
  | .unexpectedValue name => s!"Option {Text.quoted name} does not take a value."
  | .missingValue name => s!"Option {Text.quoted name} requires an argument."
  | .missingOperand name => s!"Missing argument '{name}'."
  | .extraOperands args =>
    let noun := if args.length = 1 then "argument" else "arguments"
    let listed := Text.joinWith " " args
    s!"Got unexpected extra {noun} ({listed})"
  | .noSuchCommand name similar =>
    s!"No such command {Text.quoted name}." ++ suggestion "commands" similar
  | .missingCommand => "Missing command."

end UsageError

/-- Arguments told apart. `given` holds the switches with their values in the order in which they
stand. -/
structure Arguments where
  given : List (Setting × String)
  operands : List String
  deriving DecidableEq, Repr

namespace Arguments

def empty : Arguments :=
  ⟨[], []⟩

def give (a : Arguments) (settings : List (Setting × String)) : Arguments :=
  { a with given := settings ++ a.given }

def operate (a : Arguments) (word : String) : Arguments :=
  { a with operands := word :: a.operands }

def has (a : Arguments) (s : Setting) : Bool :=
  a.given.any fun (t, _) => t = s

def value? (a : Arguments) (s : Setting) : Option String :=
  a.given.reverse.lookup s

def early? (a : Arguments) : Option Setting :=
  (a.given.map (·.1)).find? fun s => s = .help || s = .version

end Arguments

/-- What one word gives: switches, and the name and meaning of a switch whose value is the next
word. -/
structure Word where
  given : List (Setting × String)
  open? : Option (String × Setting)
  deriving DecidableEq, Repr

/-- The letters behind a single hyphen. A letter that takes a value takes the rest of the word. -/
def readLetters (switches : List Switch) : List Char → Except UsageError Word
  | [] => .ok ⟨[], none⟩
  | c :: cs =>
    let name := String.ofList ['-', c]
    match switches.find? fun s => s.short = some c with
    | none => .error (.noSuchSwitch name [])
    | some s =>
      if !s.takesValue then
        (readLetters switches cs).map fun w => { w with given := (s.setting, "") :: w.given }
      else if cs.isEmpty then .ok ⟨[], some (name, s.setting)⟩
      else .ok ⟨[(s.setting, String.ofList cs)], none⟩

def readWord (switches : List Switch) (word : String) : Except UsageError Word :=
  let name := String.ofList (word.toList.takeWhile (· ≠ '='))
  let value := word.toList.drop name.length
  match switches.find? fun s => s.long = name with
  | none =>
    if Text.startsWith "--" word then
      .error (.noSuchSwitch name (similarWords name (switches.map Switch.long)))
    else readLetters switches (word.toList.drop 1)
  | some s =>
    match s.takesValue, value with
    | true, [] => .ok ⟨[], some (name, s.setting)⟩
    | true, _ :: v => .ok ⟨[(s.setting, String.ofList v)], none⟩
    | false, [] => .ok ⟨[(s.setting, "")], none⟩
    | false, _ => .error (.unexpectedValue name)

def isSwitchWord (word : String) : Bool :=
  Text.startsWith "-" word && 1 < word.length

/-- Reads arguments. With `mixed`, switches may follow operands; without, the first operand ends
them. `open?` is a switch that waits for its value. -/
def readFrom (switches : List Switch) (mixed : Bool) (open? : Option (String × Setting)) :
    List String → Except UsageError Arguments
  | [] =>
    match open? with
    | some (name, _) => .error (.missingValue name)
    | none => .ok .empty
  | word :: rest =>
    match open? with
    | some (_, setting) =>
      (readFrom switches mixed none rest).map fun a => a.give [(setting, word)]
    | none =>
      if word = "--" then .ok ⟨[], rest⟩
      else if isSwitchWord word then do
        let w ← readWord switches word
        let a ← readFrom switches mixed w.open? rest
        pure (a.give w.given)
      else if mixed then (readFrom switches mixed none rest).map fun a => a.operate word
      else .ok ⟨[], word :: rest⟩

def read (switches : List Switch) (mixed : Bool) (args : List String) :
    Except UsageError Arguments :=
  readFrom switches mixed none args

inductive Request where
  | help (command : Option Command)
  | version
  | report (path : String) (json : Bool)
  | symbols (path : String) (pattern : Option String) (classes json : Bool)
  | catalog (path : String) (category : Option String)
  deriving DecidableEq, Repr

def Request.path? : Request → Option String
  | .help _ | .version => none
  | .report path _ | .symbols path _ _ _ | .catalog path _ => some path

structure Invocation where
  verbose : Bool
  request : Request
  deriving DecidableEq, Repr

structure Misuse where
  command : Option Command
  error : UsageError
  deriving DecidableEq, Repr

def earlyRequest? (command : Option Command) (a : Arguments) : Option Request :=
  a.early?.map fun s => if s = .version then .version else .help command

def Command.request (c : Command) (path : String) (a : Arguments) : Request :=
  match c with
  | .report => .report path (a.has .json)
  | .symbols => .symbols path (a.value? .pattern) (a.has .classes) (a.has .json)
  | .catalog => .catalog path (a.value? .category)

def Command.read (c : Command) (args : List String) : Except UsageError Request := do
  let a ← CommandLine.read c.switches true args
  match earlyRequest? (some c) a, a.operands with
  | some r, _ => pure r
  | none, [] => throw (.missingOperand c.operand)
  | none, [path] => pure (c.request path a)
  | none, _ :: extra => throw (.extraOperands extra)

/-- A name that is no command. What looks like a switch is taken for one of the program first. -/
def refuseCommand (name : String) (rest : List String) : Except UsageError Request := do
  let a ← if Text.startsWith "-" name then read programSwitches false (name :: rest)
    else pure .empty
  match earlyRequest? none a with
  | some r => pure r
  | none => throw (.noSuchCommand name (similarWords name (Command.all.map Command.name)))

def Invocation.ofArguments (args : List String) : Except Misuse Invocation := do
  let concerning := fun (c : Option Command) (r : Except UsageError Request) =>
    r.mapError (Misuse.mk c)
  if args.isEmpty then throw ⟨none, .noArguments⟩
  let a ← (read programSwitches false args).mapError (Misuse.mk none)
  let request ← match earlyRequest? none a, a.operands with
    | some r, _ => pure r
    | none, [] => throw ⟨none, .missingCommand⟩
    | none, name :: rest =>
      match Command.ofName? name with
      | some c => concerning (some c) (c.read rest)
      | none => concerning none (refuseCommand name rest)
  pure ⟨a.has .verbose, request⟩

end GraphContracts.CommandLine
