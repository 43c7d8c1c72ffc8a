import GraphContracts.Text.Chars

namespace GraphContracts.Text.Regex

inductive Atom where
  | any
  | char (c : Char)
  deriving DecidableEq, Repr

def Atom.admits : Atom → Char → Bool
  | any, _ => true
  | char c, d => c = d

inductive Sign where
  | atom (a : Atom)
  | star
  | finish
  deriving DecidableEq, Repr

inductive Piece where
  | one (a : Atom)
  | many (a : Atom)
  | finish
  deriving DecidableEq, Repr

def specials : List Char :=
  "()[]\x7b\x7d?*+-|^$\\.&~# \t\n\r\x0b\x0c".toList

def marked (c : Char) : List Char :=
  if specials.contains c then ['\\', c] else [c]

def escape (text : List Char) : List Char :=
  text.flatMap marked

def sign? (c : Char) : Option Sign :=
  match c with
  | '.' => some (.atom .any)
  | '*' => some .star
  | '$' => some .finish
  | c => if "^\\[\x7b()+?|".toList.contains c then none else some (.atom (.char c))

/-- A mark takes its meaning from a special character and gives one to letters and digits. -/
def signs? : List Char → Option (List Sign)
  | [] => some []
  | '\\' :: c :: cs =>
    if c.isAlphanum then none else (signs? cs).map (.atom (.char c) :: ·)
  | c :: cs => (sign? c).bind fun s => (signs? cs).map (s :: ·)

/-- A star repeats the character before it, and only that. -/
def pieces? : List Sign → Option (List Piece)
  | [] => some []
  | .atom a :: .star :: signs => (pieces? signs).map (.many a :: ·)
  | .atom a :: signs => (pieces? signs).map (.one a :: ·)
  | .finish :: signs => (pieces? signs).map (.finish :: ·)
  | .star :: _ => none

def read? : List Char → Option (List Piece)
  | '^' :: body => (signs? body).bind pieces?
  | _ => none

def rests (a : Atom) : List Char → List (List Char)
  | [] => [[]]
  | c :: cs => (c :: cs) :: if a.admits c then rests a cs else []

def fits : List Piece → List Char → Bool
  | [], _ => true
  | .one a :: pieces, text =>
    match text with
    | [] => false
    | c :: cs => a.admits c && fits pieces cs
  | .many a :: pieces, text => (rests a text).any (fits pieces)
  | .finish :: pieces, text => (text = [] || text = ['\n']) && fits pieces text

theorem mem_rests_any {text rest : List Char} : rest ∈ rests .any text ↔ rest <:+ text := by
  induction text with
  | nil => simp [rests]
  | cons c cs ih => simp [rests, Atom.admits, ih, List.suffix_cons_iff]

example : (read? "^a.*\\.$".toList).any (fits · "a\nb.".toList) = true := by decide

end GraphContracts.Text.Regex
