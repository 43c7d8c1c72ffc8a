import GraphContracts.Datum.Literal
import GraphContracts.Number.Spelled
import GraphContracts.Text.Base64
import GraphContracts.Text.LetterCase
import GraphContracts.Yaml.Kind

namespace GraphContracts.Yaml

namespace Spelling

def readInBase (base : Nat) (cs : List Char) : Result Int :=
  match Spelled.integer? base cs with
  | some n =>
    let digits := (cs.filter Text.isDigit).length
    if base = 10 && Json.integerLimit < digits then
      .error (.value (Json.Cause.longInteger digits).message)
    else .ok n
  | none =>
    let shown := String.ofList ((Text.Quoted.encode cs).take 200)
    .error (.value s!"invalid literal for int() with base {base}: {shown}")

def sixtiethsValue (ds : List Int) : Int :=
  ds.foldl (fun n d => n * 60 + d) 0

def readInt (s : String) : Result Int := do
  let (negative, body) := Spelled.splitSign (s.toList.filter (· ≠ '_'))
  let n ← match body with
    | [] => .error .emptyNumber
    | ['0'] => pure 0
    | '0' :: 'b' :: ds => readInBase 2 ds
    | '0' :: 'x' :: ds => readInBase 16 ds
    | '0' :: _ => readInBase 8 body
    | _ => (Text.splitOn ':' body).mapM (readInBase 10) |>.map sixtiethsValue
  pure (if negative then -n else n)

def readReal (cs : List Char) : Result Binary64 :=
  match Spelled.real? cs with
  | some x => .ok x
  | none =>
    .error (.value ("could not convert string to float: " ++ Text.quoted (String.ofList cs)))

def sumSixtieths (unit : Nat) (sum : Binary64) : List Binary64 → Binary64
  | [] => sum
  | x :: xs => sumSixtieths (unit * 60) (sum.add (x.mulNat unit)) xs

def readFloat (s : String) : Result Binary64 := do
  let cs := (Text.lower (String.ofList (s.toList.filter (· ≠ '_')))).toList
  let (negative, body) := Spelled.splitSign cs
  let x ←
    if cs.isEmpty then .error .emptyNumber
    else if body = ".inf".toList then pure (.infinite false)
    else if body = ".nan".toList then pure .nan
    else if body.contains ':' then do
      let parts ← (Text.splitOn ':' body).mapM readReal
      pure (sumSixtieths 1 (.zero false) parts.reverse)
    else readReal body
  pure (if negative then x.neg else x)

def readBool (s : String) : Result Bool :=
  let word := Text.lower s
  if trueWords.contains word then .ok true
  else if falseWords.contains word then .ok false
  else .error (.unknownWord word)

end Spelling

namespace Stamp

def ofCalendar {α : Type} : Except CalendarFault α → Result α
  | .ok a => .ok a
  | .error e => .error (.value e.message)

def check : Stamp → Result Datum
  | .day d => (ofCalendar d.check).map .date
  | .time m =>
    if m.offset.any fun o => 1440 ≤ o.natAbs then
      .error (.value (CalendarFault.offset (m.offset.getD 0)).message)
    else (ofCalendar m.check).map .moment

end Stamp

def scalarValue (kind : Kind) (s : String) : Result Datum :=
  match kind with
  | .null => .ok .null
  | .bool => (Spelling.readBool s).map .bool
  | .int => (Spelling.readInt s).map .int
  | .float => (Spelling.readFloat s).map .float
  | .binary =>
    match if s.toList.all fun c => c.toNat < 0x80 then Text.Base64.decode s.toList else none with
    | some octets => .ok (.bytes octets)
    | none => malformed
  | .timestamp =>
    match Stamp.read s.toList with
    | some stamp => stamp.check
    | none => .error .notATime
  | .text => .ok (.text s)
  | _ => malformed

mutual

/-- The text of a node where a scalar is wanted. A mapping may hold it under the equals sign. -/
def scalarText : Node → Option String
  | .scalar _ s => some s
  | .sequence _ _ => none
  | .mapping _ entries => entryText entries

def entryText : List (Node × Node) → Option String
  | [] => none
  | (k, v) :: es => if k.kind? = some .value then scalarText v else entryText es

end

/-- The key of an entry: an equals sign is only itself, and what may change is no key. -/
def asKey (node : Node) (value : Result Datum) : Result Datum :=
  match node, node.kind? with
  | .scalar _ s, some .value => .ok (.text s)
  | _, _ => do
    let k ← value
    if k.isHashable then pure k else malformed

mutual

def valueOf : Node → Result Datum
  | .scalar tag s =>
    match (Node.scalar tag s).kind? with
    | some kind => scalarValue kind s
    | none => malformed
  | .sequence tag items =>
    match (Node.sequence tag items).kind? with
    | some .sequence => (itemValues items).map .list
    | some .orderedMap => (pairValues items).map .list
    | some .pairs => (pairValues items).map .list
    | _ => malformed
  | .mapping tag entries =>
    match (Node.mapping tag entries).kind? with
    | some .mapping => (mergedEntries entries).map fun es => .map (Entries.ofPairs es)
    | some .set =>
      (mergedEntries entries).map fun es => .set ((Entries.ofPairs es).map (·.1))
    | some kind =>
      match entryText entries with
      | some s => scalarValue kind s
      | none => malformed
    | none => malformed

def itemValues : List Node → Result (List Datum)
  | [] => .ok []
  | n :: ns => do
    let d ← valueOf n
    let ds ← itemValues ns
    pure (d :: ds)

def pairValues : List Node → Result (List Datum)
  | [] => .ok []
  | .mapping _ [(k, v)] :: ns => do
    let key ← valueOf k
    let value ← valueOf v
    let rest ← pairValues ns
    pure (.tuple [key, value] :: rest)
  | _ :: _ => malformed

def mergedEntries (entries : List (Node × Node)) : Result Entries := do
  let (merged, own) ← splitEntries entries
  pure (merged ++ own)

def splitEntries : List (Node × Node) → Result (Entries × Entries)
  | [] => .ok ([], [])
  | (k, v) :: es => do
    if k.kind? = some .merge then
      let here ← mergeSource v
      let (merged, own) ← splitEntries es
      pure (here ++ merged, own)
    else
      let key ← asKey k (valueOf k)
      let value ← valueOf v
      let (merged, own) ← splitEntries es
      pure (merged, (key, value) :: own)

/-- The entries of a mapping, or of a list of mappings of which the first counts most. -/
def mergeSource : Node → Result Entries
  | .scalar _ _ => malformed
  | .mapping _ entries => mergedEntries entries
  | .sequence _ items => mergeSources items

def mergeSources : List Node → Result Entries
  | [] => .ok []
  | .mapping _ entries :: ns => do
    let here ← mergedEntries entries
    let later ← mergeSources ns
    pure (later ++ here)
  | _ :: _ => malformed

end

def read (text : List Char) : Result Datum := do
  match ← parseDocument (← scan text) with
  | none => pure .null
  | some node => valueOf node

end GraphContracts.Yaml
