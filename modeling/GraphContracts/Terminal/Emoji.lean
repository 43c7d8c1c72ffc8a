import GraphContracts.Terminal.ShortCode
import GraphContracts.Text.Blank
import GraphContracts.Text.Digit
import GraphContracts.Text.LetterCase

namespace GraphContracts.Terminal.Emoji

def glyphOf (codes : List Char) : List Char :=
  (Text.splitOn '-' codes).filterMap fun digits => (Text.hexNumber? digits).map Char.ofNat

def skinTones : List (String × Char) :=
  [("light", Char.ofNat 0x1f3fb), ("medium-light", Char.ofNat 0x1f3fc),
    ("medium", Char.ofNat 0x1f3fd), ("medium-dark", Char.ofNat 0x1f3fe),
    ("dark", Char.ofNat 0x1f3ff)]

def withTone (modifier : Char) : List Char → List Char
  | [] => []
  | c :: '\ufe0f' :: cs => c :: modifier :: cs
  | c :: cs => c :: modifier :: cs

/-- The short codes that a word of the table stands for. -/
def codesOf (word : List Char) : List (List Char × List Char) :=
  let marked := word.takeWhile (· ≠ '=')
  let name := marked.filter fun c => c ≠ '~' && c ≠ '^'
  let glyph := glyphOf ((word.drop marked.length).drop 1)
  let tones := if marked.contains '~' then
      skinTones.map fun (tone, modifier) =>
        (name ++ ('_' :: tone.toList ++ "_skin_tone".toList), withTone modifier glyph)
    else []
  let flag := if marked.contains '^' then [("flag_for_".toList ++ name, glyph)] else []
  (name, glyph) :: tones ++ flag

def regionalCodes : List (List Char × List Char) :=
  (List.range 26).flatMap fun i =>
    let letter := Char.ofNat ('a'.toNat + i)
    let glyph := [Char.ofNat (0x1f1e6 + i)]
    ["regional_indicator_", "regional_indicator_symbol_letter_"].map fun start =>
      (start.toList ++ [letter], glyph)

def shortCodes : List (List Char × List Char) :=
  (Text.words shortCodeText.toList).flatMap codesOf ++ regionalCodes

def presentations : List (String × Char) :=
  [("-emoji", '\ufe0f'), ("-text", '\ufe0e')]

def glyph? (code : List Char) : Option (List Char) :=
  let asked := presentations.find? fun (ending, _) => ending.toList.isSuffixOf code
  let name := match asked with
    | some (ending, _) => code.take (code.length - ending.length)
    | none => code
  (shortCodes.lookup (Text.lower (String.ofList name)).toList).map fun glyph =>
    glyph ++ asked.toList.map (·.2)

def codeAfterColon? (cs : List Char) : Option (List Char) :=
  let code := cs.takeWhile fun c => c ≠ ':' && !Text.isBlank c
  match cs.drop code.length with
  | ':' :: _ => some code
  | _ => none

/-- A text with its short codes replaced. Both colons of an unknown code are passed over; `skip`
counts the characters that belong to a code already read. -/
def replaceFrom (skip : Nat) : List Char → List Char
  | [] => []
  | c :: cs =>
    match skip with
    | skip + 1 => replaceFrom skip cs
    | 0 =>
      match if c = ':' then codeAfterColon? cs else none with
      | some code => (glyph? code).getD (':' :: code ++ [':']) ++ replaceFrom (code.length + 1) cs
      | none => c :: replaceFrom 0 cs

def replace (cs : List Char) : List Char :=
  replaceFrom 0 cs

end GraphContracts.Terminal.Emoji
