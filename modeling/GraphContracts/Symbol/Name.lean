import GraphContracts.Datum.Basic
import GraphContracts.Text.Blank
import GraphContracts.Text.Digit

namespace GraphContracts.Symbol

def normalizeVariable (name : String) : String :=
  if Text.startsWith "$" name then name else "$" ++ name

def bareClass (name : String) : String :=
  String.ofList (name.toList.dropWhile (· = '\\'))

def normalizeClass (name : String) : String :=
  String.ofList ((bareClass name).toList.map fun c => if c = '\\' then '/' else c)

/-- The fragment that names a method in the symbols inside it. -/
def scopePattern (className methodName : String) : String :=
  s!"{normalizeClass className}#{methodName}()"

def parameterFragment (scope name : String) : String :=
  scope ++ ".(" ++ normalizeVariable name ++ ")"

def localFragment (scope name : String) : String :=
  scope ++ ".local" ++ normalizeVariable name

/-- What a symbol tells about itself. The name of a parameter is kept as written, the name of a
local with its dollar sign; `line` holds the digits of the line, none where it is not given. -/
inductive Shape where
  | parameter (scope name : List Char)
  | localVariable (scope name line : List Char)
  | method (scope : List Char)
  deriving DecidableEq, Repr

def oneLine (cs : List Char) : Bool :=
  !cs.contains '\n'

def isParenthesis (c : Char) : Bool :=
  c = '(' || c = ')'

/-- A scope, the mark `.(`, a name without parentheses and `)`. -/
def readParameter? (symbol : List Char) : Option Shape :=
  match (Text.dropFinalNewline symbol).reverse with
  | ')' :: body =>
    let name := body.takeWhile fun c => !isParenthesis c
    match body.drop name.length with
    | '(' :: '.' :: scope =>
      if !name.isEmpty && oneLine scope then some (.parameter scope.reverse name.reverse) else none
    | _ => none
  | _ => none

/-- The name behind the mark of a local: it starts with a dollar sign, goes on up to the sign `@`
and is followed by nothing or by the digits of a line. -/
def readLocalName? : List Char → Option (List Char × List Char)
  | '$' :: rest =>
    let name := rest.takeWhile (· ≠ '@')
    if name.isEmpty then none
    else
      match rest.drop name.length with
      | [] => some ('$' :: name, [])
      | _ :: tail =>
        let digits := Text.dropFinalNewline tail
        if !digits.isEmpty && digits.all Text.isDigit then some ('$' :: name, digits) else none
  | _ => none

/-- The last mark of a local that a name follows decides where the scope ends. -/
def readLocal? (symbol : List Char) : Option Shape :=
  (Text.occurrences ".local".toList symbol).reverse.findSome? fun (scope, rest) =>
    if oneLine scope then
      (readLocalName? rest).map fun (name, line) => .localVariable scope name line
    else none

def readMethod? (symbol : List Char) : Option Shape :=
  let body := match (Text.dropFinalNewline symbol).reverse with
    | '.' :: more => more
    | more => more
  match body with
  | ')' :: '(' :: name =>
    match name.dropWhile (· ≠ '#') with
    | '#' :: className => if oneLine className then some (.method body.reverse) else none
    | _ => none
  | _ => none

def shape? (symbol : String) : Option Shape :=
  let cs := symbol.toList
  (readParameter? cs).orElse fun _ => (readLocal? cs).orElse fun _ => readMethod? cs

namespace Shape

def scope : Shape → String
  | .parameter scope _ => String.ofList scope
  | .localVariable scope _ _ => String.ofList scope
  | .method scope => String.ofList scope

def name? : Shape → Option String
  | .parameter _ name => some (normalizeVariable (String.ofList name))
  | .localVariable _ name _ => some (String.ofList name)
  | .method _ => none

def lineDigits? : Shape → Option (List Char)
  | .localVariable _ _ (d :: ds) => some (d :: ds)
  | _ => none

end Shape

def variableName (symbol : Option String) : Option String :=
  (symbol.bind shape?).bind Shape.name?

def scope (symbol : Option String) : Option String :=
  (symbol.bind shape?).map Shape.scope

def digitLimit : Nat := 4300

structure LongLine where
  digits : Nat
  deriving DecidableEq, Repr

def LongLine.message (l : LongLine) : String :=
  s!"Exceeds the limit ({digitLimit} digits) for integer string conversion: " ++
    s!"value has {l.digits} digits; use sys.set_int_max_str_digits() to increase the limit"

def declarationLine (symbol : Option String) : Except LongLine (Option Nat) :=
  match (symbol.bind shape?).bind Shape.lineDigits? with
  | none => .ok none
  | some ds =>
    if digitLimit < ds.length then .error ⟨ds.length⟩ else .ok (some (Text.digitsValue ds))

def lastWord? (name : String) : Option String :=
  (Text.words name.toList).getLast?.map String.ofList

def shortName? (symbol : String) : Option String :=
  let word := if symbol.toList.contains ' ' then lastWord? symbol else some symbol
  word.map fun w =>
    let bare := Text.dropTrailing (fun c => c = '.' || c = '#') w.toList
    let last := Text.afterLast '/' (Text.afterLast '#' bare)
    String.ofList (if "()".toList.isSuffixOf last then last.dropLast.dropLast else last)

example : variableName (some "p A#m().local$x@25") = some "$x" := by decide

example : scope (some "p A#m().($x)") = some "p A#m()" := by decide

end GraphContracts.Symbol
