import GraphContracts.Log.Journal
import GraphContracts.Script.Render

namespace GraphContracts.Script

open Log

def mappingOf : Option Datum → Entries
  | some (.map es) => es
  | _ => []

def given? : Datum → Option Datum
  | .null => none
  | d => some d

/-- The configuration that is asked for: a whole one, or a single console with a format and a level
of its own. -/
def loggingOf (home : Path) (args : List Datum) : Except Fault LoggingConfig :=
  let named := mappingOf args[1]?
  match args.head?.bind given?, Entries.get? "level" named with
  | some d, _ => (LoggingConfig.ofDatum home d).orFault
  | none, level =>
    let isJson := (Entries.get? "json_format" named).any Datum.isTruthy
    let format := if isJson then LogFormat.json else .console
    match level.getD (.text Level.info.title) with
    | .text s =>
      (LoggingConfig.ofDatum home (.object [("level", .text (s.map Char.toUpper)),
        ("outputs", .list [.object [("format", .text format.name)]])])).orFault
    | _ => .error .attribute

def fieldsOf (d : Option Datum) : List (String × Datum) :=
  (mappingOf d).map fun (k, v) => (k.display, v)

def itemsOf : Option Datum → List Datum
  | some (.list ds) => ds
  | _ => []

def answerId (j : Journal) : Datum :=
  .optional .text j.contract

def done : Datum :=
  .text "ok"

def withEvents (j : Journal) (time : String) {α : Type} (x : Logged α)
    (f : α → Except Fault Datum) : Except Fault Datum × Journal :=
  (x.result.bind f, j.logAll time x.events)

/-- The names that a field may not have, since they are taken by what is logged itself. -/
def takenNames : List String :=
  ["event", "self"]

def journalStep (j : Journal) (home : Path) (time name : String) (args : List Datum) :
    Except Fault Datum × Journal :=
  let unknown := (Except.error Fault.attribute, j)
  match name, args with
  | "configure", _ =>
    match loggingOf home args with
    | .ok c => (.ok done, j.configure c)
    | .error e => (.error e, j)
  | "log", .text logger :: .text level :: .text event :: more =>
    let fields := fieldsOf more.head?
    match Level.ofName? level with
    | none => unknown
    | some level =>
      if fields.any fun (k, _) => takenNames.contains k then (.error .keyword, j)
      else (.ok done, j.log time ⟨logger, level, event, fields⟩)
  | "stdlib", .text logger :: .text level :: .text message :: more =>
    match Level.ofName? level with
    | none => unknown
    | some level =>
      (.ok done, j.relay time ⟨logger, level, fill message (itemsOf more.head?), []⟩)
  | "enter", .text id :: _ => let j := j.enter id; (.ok (answerId j), j)
  | "leave", _ =>
    match j.leave? with
    | some j => (.ok (answerId j), j)
    | none => (.error .noWords, j)
  | "set", .text id :: _ => (.ok (.text id), j.setContract id)
  | "clear", _ => (.ok done, j.clearContract)
  | "id", _ => (.ok (answerId j), j)
  | "path", _ => (.ok (.optional .text j.file?), j)
  | "graph", d :: _ =>
    withEvents j time (CallGraph.ofDatum "<memory>" d) fun g => (Object.data ⟨g, none⟩).shown
  | "report", d :: _ =>
    withEvents j time
      ((CallGraph.ofDatum "<memory>" d).bind fun g => ContractData.integrityReport ⟨g, none⟩)
      fun r => .ok (.text r.summary)
  | _, _ => unknown

def runJournal (j : Journal) (home : Path) (time : String) :
    List (String × List Datum) → List Datum × Journal
  | [] => ([], j)
  | (name, args) :: more =>
    let (answer, j) := journalStep j home time name args
    let (answers, j) := runJournal j home time more
    (Fault.recordOf answer :: answers, j)

end GraphContracts.Script
