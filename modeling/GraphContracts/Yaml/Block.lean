import GraphContracts.Yaml.Styled

namespace GraphContracts.Yaml

inductive Block where
  | flag (b : Bool)
  | text (s : String)
  | mapping (entries : List (String × Block))

namespace Block

mutual

def value : Block → Datum
  | .flag b => .bool b
  | .text s => .text s
  | .mapping entries => .map (entryValues entries)

def entryValues : List (String × Block) → Entries
  | [] => []
  | (key, b) :: more => (.text key, b.value) :: entryValues more

end

def keyRoom : Nat := 122

/-- Whether a key can stand on a line with its value: it is not too long, and no character of it
ends a line. -/
def isSimpleKey (key : String) : Bool :=
  key ≠ "" && !(key.toList.any fun c => c ≠ '\r' && isBreak c) && key.length ≤ keyRoom

/-- A key at an indentation with the sign behind it: a colon, or the sign of a long key before it
and a colon on the next line. The number is the column behind the colon. -/
def writeKey (indent : Nat) (key : String) : List Char × Nat :=
  if isSimpleKey key then
    let written := Styled.write ⟨indent, indent + 2, false⟩ key
    (written ++ [':'], indent + written.length + 1)
  else
    let written := Styled.write ⟨indent + 2, indent + 2, true⟩ key
    ('?' :: ' ' :: written ++ Styled.newLine indent ++ [':'], indent + 1)

mutual

def writeValue (indent column : Nat) (inLine : Bool) : Block → List Char
  | .flag b => ' ' :: (if b then "true" else "false").toList
  | .text s => ' ' :: Styled.write ⟨column + 1, indent + 2, true⟩ s
  | .mapping entries =>
    if entries.isEmpty then " \x7b\x7d".toList
    else
      (if inLine then [' '] else Styled.newLine (indent + 2)) ++ writeEntries (indent + 2) entries

def writeEntries (indent : Nat) : List (String × Block) → List Char
  | [] => []
  | (key, value) :: more =>
    let (written, column) := writeKey indent key
    written ++ writeValue indent column (!isSimpleKey key) value ++
      (if more.isEmpty then [] else Styled.newLine indent) ++ writeEntries indent more

end

def document (entries : List (String × Block)) : String :=
  String.ofList (writeEntries 0 entries ++ ['\n'])

end Block

end GraphContracts.Yaml
