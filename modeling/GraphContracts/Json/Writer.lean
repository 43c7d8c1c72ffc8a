import GraphContracts.Datum.Basic
import GraphContracts.Text.Quoted

namespace GraphContracts.Json

def escapeUnit (n : Nat) : List Char :=
  '\\' :: 'u' :: Text.Quoted.hexDigits 4 n

def writeChar (c : Char) : List Char :=
  if c = '\x22' || c = '\\' then ['\\', c]
  else if c = '\n' then ['\\', 'n']
  else if c = '\r' then ['\\', 'r']
  else if c = '\t' then ['\\', 't']
  else if c = '\x08' then ['\\', 'b']
  else if c = '\x0c' then ['\\', 'f']
  else if 0x20 ≤ c.toNat && c.toNat < 0x7f then [c]
  else if c.toNat < 0x10000 then escapeUnit c.toNat
  else
    let n := c.toNat - 0x10000
    escapeUnit (0xd800 + n / 0x400) ++ escapeUnit (0xdc00 + n % 0x400)

def writeText (s : String) : String :=
  String.ofList ('\x22' :: s.toList.flatMap writeChar ++ ['\x22'])

def numberWords : Binary64.Words :=
  ⟨"NaN", "Infinity"⟩

/-- A value that holds no others; dates and octets have no form in JSON and are written as
texts. -/
def writeScalar : Datum → String
  | .null => "null"
  | .bool b => if b then "true" else "false"
  | .int n => toString n
  | .float x => x.render numberWords
  | .text s => writeText s
  | .bytes bs => writeText (String.ofList (Text.Quoted.encodeOctets bs))
  | .date d => writeText d.display
  | .moment m => writeText m.display
  | _ => "null"

def keyText : Datum → String
  | .text s => s
  | d => writeScalar d

/-- How the parts of a value are set apart: on one line, or one part a line with the given
indentation for each level. -/
structure Style where
  indent : Option Nat
  keySeparator : String

def compact : Style :=
  ⟨none, ": "⟩

def indented (n : Nat) : Style :=
  ⟨some n, ": "⟩

namespace Style

def lineBreak (s : Style) (level : Nat) : String :=
  match s.indent with
  | none => ""
  | some n => String.ofList ('\n' :: List.replicate (n * level) ' ')

def separator (s : Style) (level : Nat) : String :=
  match s.indent with
  | none => ", "
  | some _ => "," ++ s.lineBreak level

def wrap (s : Style) (level : Nat) (opening closing : String) (parts : List String) : String :=
  if parts.isEmpty then opening ++ closing
  else
    opening ++ s.lineBreak (level + 1) ++ Text.joinWith (s.separator (level + 1)) parts ++
      s.lineBreak level ++ closing

end Style

mutual

def writeAt (style : Style) (level : Nat) : Datum → String
  | .list items => style.wrap level "[" "]" (writeItems style (level + 1) items)
  | .tuple items => style.wrap level "[" "]" (writeItems style (level + 1) items)
  | .set items => style.wrap level "[" "]" (writeItems style (level + 1) items)
  | .map entries => style.wrap level "\x7b" "\x7d" (writeEntries style (level + 1) entries)
  | d => writeScalar d

def writeItems (style : Style) (level : Nat) : List Datum → List String
  | [] => []
  | d :: ds => writeAt style level d :: writeItems style level ds

def writeEntries (style : Style) (level : Nat) : List (Datum × Datum) → List String
  | [] => []
  | (k, v) :: es =>
    (writeText (keyText k) ++ style.keySeparator ++ writeAt style level v) ::
      writeEntries style level es

end

def write (style : Style) (d : Datum) : String :=
  writeAt style 0 d

end GraphContracts.Json
