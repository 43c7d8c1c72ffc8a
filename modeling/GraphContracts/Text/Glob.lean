import GraphContracts.Text.Regex

namespace GraphContracts.Text.Glob

/-- The texts that a pattern stands for, said character by character. -/
inductive Language : List Char → List Char → Prop
  | nil : Language [] []
  | star {p t : List Char} (run : List Char) : Language p t → Language ('*' :: p) (run ++ t)
  | any {p t : List Char} (c : Char) : Language p t → Language ('?' :: p) (c :: t)
  | char {p t : List Char} {c : Char} :
      c ≠ '*' → c ≠ '?' → Language p t → Language (c :: p) (c :: t)

def expression (pattern : List Char) : List Char :=
  let runs := Text.replace ['\\', '*'] ['.', '*'] (Regex.escape pattern)
  '^' :: Text.replace ['\\', '?'] ['.'] runs ++ ['$']

def compile? (pattern : List Char) : Option (List Regex.Piece) :=
  Regex.read? (expression pattern)

end GraphContracts.Text.Glob

namespace GraphContracts.Text

def globMatches (pattern : String) (text : Option String) : Bool :=
  text.any fun t => (Glob.compile? pattern.toList).any fun pieces => Regex.fits pieces t.toList

def isGlob (s : String) : Bool :=
  s.toList.contains '*' || s.toList.contains '?'

end GraphContracts.Text
