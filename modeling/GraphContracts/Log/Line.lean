import GraphContracts.Config.Model
import GraphContracts.Json.Writer

namespace GraphContracts.Log

structure Occasion where
  time : String
  contract : Option String
  deriving DecidableEq, Repr

/-- Everything an event tells. What the occasion and the event itself say replaces fields of the
same name; the running contract does not. -/
def members (occasion : Occasion) (logger : Option String) (e : Event) : Entries :=
  let told : Entries :=
    (e.fields.map fun (name, d) => (.text name, d)) ++ [(.text "event", .text e.name)]
  let tagged := match occasion.contract with
    | some id =>
      if Entries.has "contract_id" told then told
      else told ++ [(.text "contract_id", .text id)]
    | none => told
  let named := match logger with
    | some name => Entries.set (.text "logger") (.text name) tagged
    | none => tagged
  Entries.set (.text "timestamp") (.text occasion.time)
    (Entries.set (.text "level") (.text e.level.name) named)

def jsonLine (es : Entries) : String :=
  Json.write Json.compact (.map es)

def shown : Datum → String
  | .text s => if s.toList.any " \t=\r\n\x22'".toList.contains then Text.quoted s else s
  | d => d.literal

def eventWidth : Nat := 30

def columns (levelWidth : Nat) (es : Entries) : List String :=
  let column := fun (name : String) (f : String → String) =>
    (Entries.get? name es).toList.map fun d => f d.display
  let bracketed := fun (s : String) => "[" ++ s ++ "]"
  column "timestamp" id ++ column "level" (bracketed ∘ Text.padRight levelWidth) ++
    column "event" (Text.padRight eventWidth) ++ column "logger" bracketed ++
    column "logger_name" bracketed

def columnNames : List String :=
  ["timestamp", "level", "event", "logger", "logger_name"]

def consoleLine (levelWidth : Nat) (es : Entries) : String :=
  let fields := (es.map fun (k, v) => (k.display, v)).filter fun (k, _) => !columnNames.contains k
  let sorted := fields.mergeSort fun a b => a.1 ≤ b.1
  let parts := columns levelWidth es ++ sorted.map fun (k, v) => k ++ "=" ++ shown v
  let line := Text.joinWith " " (parts.filter (· ≠ ""))
  String.ofList (Text.dropTrailing (· = ' ') line.toList)

def parameter (letter : Char) (d : Datum) : String :=
  if letter = 'r' then d.literal
  else if letter = 'd' || letter = 'i' then ((d.asInt?).map toString).getD d.display
  else d.display

def fillFrom : List Datum → List Char → List Char
  | ds, '%' :: '%' :: cs => '%' :: fillFrom ds cs
  | d :: ds, '%' :: letter :: cs => (parameter letter d).toList ++ fillFrom ds cs
  | ds, c :: cs => c :: fillFrom ds cs
  | _, [] => []

def fill (message : String) (params : List Datum) : String :=
  if params.isEmpty then message else String.ofList (fillFrom params message.toList)

def line (format : LogFormat) (es : Entries) : String :=
  match format with
  | .json => jsonLine es
  | .console => consoleLine 0 es

end GraphContracts.Log
