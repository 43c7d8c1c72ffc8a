import GraphContracts.Terminal.Emoji
import GraphContracts.Terminal.Style

namespace GraphContracts.Terminal.Markup

inductive Piece where
  | plain (cs : List Char)
  | tag (name : List Char) (parameters : Option (List Char))
  deriving DecidableEq, Repr

def beginsTag (c : Char) : Bool :=
  ('a' ≤ c && c ≤ 'z') || c = '#' || c = '/' || c = '@'

def tagBody? (cs : List Char) : Option (List Char) :=
  let body := cs.takeWhile fun c => c ≠ ']' && c ≠ '['
  match body.head?.any beginsTag, cs.drop body.length with
  | true, ']' :: _ => some body
  | _, _ => none

def tagAt? (cs : List Char) : Option (Nat × List Char) :=
  let slashes := cs.takeWhile (· = '\\')
  match cs.drop slashes.length with
  | '[' :: rest => (tagBody? rest).map fun body => (slashes.length, body)
  | _ => none

def ofBody (body : List Char) : Piece :=
  let name := body.takeWhile (· ≠ '=')
  match body.drop name.length with
  | _ :: parameters => .tag name (some parameters)
  | [] => .tag name none

/-- The pieces of a tag behind backslashes. Two backslashes stand for one, and a single one makes
the tag plain. -/
def ofTag (slashes : Nat) (body : List Char) : List Piece :=
  (if slashes < 2 then [] else [.plain (List.replicate (slashes / 2) '\\')]) ++
    [if slashes % 2 = 1 then .plain ('[' :: body ++ [']']) else ofBody body]

def ofPlain (cs : List Char) : List Piece :=
  if cs.isEmpty then [] else [.plain cs]

/-- The pieces of a text. `before` is the plain text read so far, last character first, and `skip`
counts the characters that belong to a tag already read. -/
def piecesFrom (skip : Nat) (before : List Char) : List Char → List Piece
  | [] => ofPlain before.reverse
  | c :: cs =>
    match skip with
    | skip + 1 => piecesFrom skip before cs
    | 0 =>
      match tagAt? (c :: cs) with
      | some (slashes, body) =>
        ofPlain before.reverse ++ ofTag slashes body ++
          piecesFrom (slashes + body.length + 1) [] cs
      | none => piecesFrom 0 (c :: before) cs

def pieces (cs : List Char) : List Piece :=
  piecesFrom 0 [] cs

def isStripped (c : Char) : Bool :=
  [0x07, 0x08, 0x0b, 0x0c, 0x0d].contains c.toNat

def unescape : List Char → List Char
  | '\\' :: '[' :: cs => '[' :: unescape cs
  | c :: cs => c :: unescape cs
  | [] => []

def shown (cs : List Char) : List Char :=
  (Emoji.replace cs).filter fun c => !isStripped c

structure OpenTag where
  style : String
  parameters : Option (List Char)
  deriving DecidableEq, Repr

def close? (style : String) : List OpenTag → Option (OpenTag × List OpenTag)
  | [] => none
  | t :: ts =>
    if t.style = style then some (t, ts)
    else (close? style ts).map fun (found, rest) => (found, t :: rest)

def isLiteral (cs : List Char) : Bool :=
  match Text.trim Text.isBlank cs with
  | [] => false
  | c :: rest =>
    if c = '\x22' || c = '\x27' then
      rest.getLast? = some c &&
        rest.dropLast.all fun d => d ≠ c && d ≠ '\\' && d ≠ '\n'
    else if ["None", "True", "False"].contains (String.ofList (c :: rest)) then true
    else
      let digits := if c = '-' || c = '+' then rest else c :: rest
      digits.any Char.isDigit && digits.all (fun d => d.isDigit || d = '.') &&
        digits.count '.' ≤ 1

/-- Whether the parameters of a tag that names a handler can be read: a name, a name with arguments
in brackets, or one literal. -/
def isHandler (parameters : List Char) : Bool :=
  let cs := Text.trim Text.isBlank parameters
  let name := cs.takeWhile fun c => c.isAlphanum || c = '_' || c = '.'
  match cs.drop name.length with
  | [] => true
  | '(' :: rest =>
    let arguments := Text.splitOn ',' rest.dropLast
    rest.getLast? = some ')' && arguments.dropLast.all isLiteral &&
      (arguments.getLast?.all fun a => a.all Text.isBlank || isLiteral a)
  | _ => isLiteral cs

def OpenTag.isClosable (t : OpenTag) : Bool :=
  !Text.startsWith "@" t.style || t.parameters.all isHandler

def leaving (t : OpenTag) (rest : List OpenTag) : Except Fault (List OpenTag) :=
  if t.isClosable then .ok rest else .error .markup

/-- The open tags behind a tag. A tag that is only a slash closes the innermost one. -/
def afterTag (stack : List OpenTag) (name : List Char) (parameters : Option (List Char)) :
    Except Fault (List OpenTag) :=
  match name with
  | '/' :: closing =>
    let style := Text.trim Text.isBlank closing
    if style.isEmpty then
      match stack with
      | [] => .error .markup
      | t :: rest => leaving t rest
    else do
      match close? (← Style.canonical style) stack with
      | none => .error .markup
      | some (t, rest) => leaving t rest
  | _ => do pure (⟨← Style.canonical name, parameters⟩ :: stack)

def plainOf (stack : List OpenTag) : List Piece → Except Fault (List Char)
  | [] => .ok []
  | .plain cs :: ps => (plainOf stack ps).map (shown (unescape cs) ++ ·)
  | .tag name parameters :: ps => do plainOf (← afterTag stack name parameters) ps

/-- The plain form of a markup text. Tags may stay open, but none is closed that is not open. -/
def plain (cs : List Char) : Except Fault (List Char) :=
  if cs.contains '[' then plainOf [] (pieces cs) else .ok (shown cs)

end GraphContracts.Terminal.Markup
