import GraphContracts.CommandLine.Usage
import GraphContracts.Text.Chars
import GraphContracts.Text.Blank

namespace GraphContracts.CommandLine.Help

/-- The width of help texts. They stay readable on narrow and on wide terminals. -/
def widthFor (columns : Nat) : Nat :=
  max (min columns 80 - 2) 50

def fillFrom (width : Nat) (line : String) : List String → List String
  | [] => [line]
  | word :: rest =>
    if line.length + 1 + word.length ≤ width then fillFrom width (line ++ " " ++ word) rest
    else line :: fillFrom width word rest

def wordsOf (text : String) : List String :=
  (Text.words text.toList).map String.ofList

def fill (width : Nat) (text : String) : List String :=
  match wordsOf text with
  | [] => []
  | word :: rest => fillFrom width word rest

def blanks (n : Nat) : String :=
  Text.padRight n ""

def indented (n : Nat) (line : String) : String :=
  blanks n ++ line

def cutMark : String := "..."

/-- A text on one line, cut between words where it is longer than `limit`. -/
def shortened (limit : Nat) (text : String) : String :=
  if text.length ≤ limit then text
  else
    let words := wordsOf text
    let heads := (List.range words.length).map fun n => Text.joinWith " " (words.take n) ++ cutMark
    ((heads.filter fun head => head.length ≤ limit).getLast?).getD cutMark

def definitions (width : Nat) (entries : List (String × String)) : List String :=
  let first := ((entries.map fun (name, _) => name.length).max?).getD 0 + 2
  entries.flatMap fun (name, about) =>
    match fill (width - first - 2) about with
    | [] => [indented 2 name]
    | line :: more =>
      indented 2 (Text.padRight first name ++ line) :: more.map (indented (first + 2))

def paragraph (width : Nat) (text : String) : List String :=
  "" :: (fill (width - 2) text).map (indented 2)

def titled (title : String) (lines : List String) : List String :=
  "" :: (title ++ ":") :: lines

def switchLines (width : Nat) (switches : List Switch) : List String :=
  titled "Options" (definitions width (switches.map fun s => (s.display, s.about)))

def commandLines (width : Nat) : List String :=
  let longest := ((Command.all.map fun c => c.name.length).max?).getD 0
  titled "Commands" (definitions width (Command.all.map fun c =>
    (c.name, shortened (width - 6 - longest) (c.about.headD ""))))

def lines (columns : Nat) (command : Option Command) : List String :=
  let width := widthFor columns
  let paragraphs := match command with
    | none => [programAbout]
    | some c => c.about
  let commands := match command with
    | none => commandLines width
    | some _ => []
  [usageLine command] ++ paragraphs.flatMap (paragraph width) ++
    switchLines width (switchesOf command) ++ commands

example : shortened 9 "one two three" = "one..." := by decide

end GraphContracts.CommandLine.Help
