import GraphContracts.CommandLine.Run
import Std.Time.Format

open GraphContracts CommandLine

namespace GraphContracts.Program

def usualColumns : Nat := 80

def entryAt (path : String) : IO FileEntry := do
  try
    let content ← IO.FS.readBinFile path
    pure (.octets content.toList)
  catch
    | .inappropriateType .. => pure .directory
    | _ => pure .absent

def directoriesTo (current p : Path) : List (List String × FileEntry) :=
  (List.range p.steps.length).map fun n =>
    ((Path.resolve current ⟨p.slashes, p.steps.take n⟩).steps, .directory)

/-- The part of the file system that a path leads through. -/
def treeFor (current : Path) (path : String) : IO FileTree := do
  let p := Path.ofString path
  let entry ← entryAt (toString p)
  pure ⟨current, ((Path.resolve current p).steps, entry) :: directoriesTo current p⟩

def filesFor (current : Path) (args : List String) : IO FileTree :=
  match Invocation.ofArguments args with
  | .ok ⟨_, r⟩ =>
    match r.path? with
    | some path => treeFor current path
    | none => pure ⟨current, []⟩
  | .error _ => pure ⟨current, []⟩

def clockText : IO String := do
  let now ← Std.Time.Timestamp.now
  pure ((Std.Time.DateTime.ofTimestamp now .UTC).format "uuuu-MM-dd HH:mm:ss")

end GraphContracts.Program

open GraphContracts.Program in
def main (args : List String) : IO UInt32 := do
  let current := Path.ofString (toString (← IO.currentDir))
  let columns := ((← IO.getEnv "COLUMNS").bind String.toNat?).getD usualColumns
  let done := CommandLine.run ⟨← filesFor current args, columns, ← clockText⟩ args
  IO.print done.stdout
  IO.eprint done.stderr
  match done.fault with
  | some e => IO.eprintln e.kindName
  | none => pure ()
  pure (UInt32.ofNat done.exitCode)
