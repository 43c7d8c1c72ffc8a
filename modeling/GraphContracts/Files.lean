import GraphContracts.Text.Chars

namespace GraphContracts

/-- `slashes` counts the slashes at the front: none for a relative path, two only where exactly
two were written. -/
structure Path where
  slashes : Nat
  steps : List String
  deriving DecidableEq, Repr

namespace Path

def ofString (s : String) : Path :=
  let cs := s.toList
  let lead := (cs.takeWhile (· = '/')).length
  let steps := (Text.splitOn '/' cs).map String.ofList
  ⟨if lead = 2 then 2 else min lead 1, steps.filter fun p => p ≠ "" && p ≠ "."⟩

def isAbsolute (p : Path) : Bool :=
  p.slashes ≠ 0

instance : ToString Path where
  toString p :=
    if p.slashes = 0 && p.steps.isEmpty then "."
    else String.ofList (List.replicate p.slashes '/') ++ Text.joinWith "/" p.steps

def join (base p : Path) : Path :=
  if p.isAbsolute then p else ⟨base.slashes, base.steps ++ p.steps⟩

/-- A path with a leading tilde replaced by the directory `home`; nothing for the home of a named
user. -/
def expandHome? (p home : Path) : Option Path :=
  match p.slashes, p.steps with
  | 0, first :: rest =>
    if first = "~" then some ⟨home.slashes, home.steps ++ rest⟩
    else if Text.startsWith "~" first then none
    else some p
  | _, _ => some p

def foldDots (steps : List String) : List String :=
  steps.foldl (fun done s => if s = ".." then done.dropLast else done ++ [s]) []

def resolve (current p : Path) : Path :=
  let whole := current.join p
  ⟨whole.slashes, foldDots whole.steps⟩

end Path

inductive FileEntry where
  | absent
  | directory
  | octets (bs : List UInt8)
  deriving DecidableEq, Repr

structure FileTree where
  current : Path
  files : List (List String × FileEntry)

namespace FileTree

def isDirectory (t : FileTree) (steps : List String) : Bool :=
  steps.isPrefixOf t.current.steps ||
    t.files.any fun (p, e) => if p = steps then e = .directory else steps.isPrefixOf p

def walk (t : FileTree) (place : List String) : List String → Option (List String)
  | [] => some place
  | s :: rest =>
    if t.isDirectory place then
      walk t (if s = ".." then place.dropLast else place ++ [s]) rest
    else none

def entry (t : FileTree) (p : Path) : FileEntry :=
  match t.walk [] (t.current.join p).steps with
  | none => .absent
  | some steps =>
    match t.files.lookup steps with
    | some e => e
    | none => if t.isDirectory steps then .directory else .absent

end FileTree

end GraphContracts
