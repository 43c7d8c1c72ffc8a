import GraphContracts.Documents
import GraphContracts.Graph.Store
import GraphContracts.Index.Buckets
import GraphContracts.Index.Entry

namespace GraphContracts

structure SymbolIndex where
  symbols : List SymbolEntry
  occurrences : List Occurrence
  roles : RoleSchema
  source : String
  deriving DecidableEq, Repr

namespace SymbolIndex

def bySymbol (x : SymbolIndex) : Buckets Occurrence :=
  .ofItems Occurrence.symbol x.occurrences

def byFile (x : SymbolIndex) : Buckets Occurrence :=
  .ofItems Occurrence.file x.occurrences

def filePaths (x : SymbolIndex) : List String :=
  x.byFile.keys

def getSymbol (x : SymbolIndex) (name : String) : Option SymbolEntry :=
  x.symbols.find? fun s => s.name = name

def hasSymbol (x : SymbolIndex) (name : String) : Bool :=
  (x.getSymbol name).isSome

def occurrencesFor (x : SymbolIndex) (symbol : String) : List Occurrence :=
  x.bySymbol.items symbol

def occurrencesInFile (x : SymbolIndex) (path : String) : List Occurrence :=
  x.byFile.items path

def describe (x : SymbolIndex) : String :=
  s!"SymbolIndexStore(source={Text.quoted x.source}, symbols={x.symbols.length}, " ++
    s!"occurrences={x.occurrences.length})"

/-- What a document lists, with positions: the items of a list, the keys of a mapping or the
characters of a text. Other values list nothing. -/
def listed : Datum → Except Fault (List (Nat × Datum))
  | .list ds => .ok (number ds)
  | .text s => .ok (number (s.toList.map fun c => .text (String.ofList [c])))
  | .map es => .ok (number (es.map Prod.fst))
  | _ => .error .notIterable
where
  number (ds : List Datum) : List (Nat × Datum) :=
    ds.zipIdx.map fun (d, i) => (i, d)

variable (source : String)

def refuse {α : Type} (location reason : String) : Except Fault α :=
  .error (.failure (.schemaMismatch source location reason))

/-- The fields of the symbol `name`, of all that a document tells about it. -/
def symbolFields (name : Datum) (info : Entries) : Entries :=
  let fieldOr := fun field (default : Datum) => (info.get? field).getD default
  let relationships := fieldOr "relationships" (.list [])
  [(.text "name", name), (.text "kind", fieldOr "kind" .null),
    (.text "documentation", fieldOr "documentation" .null),
    (.text "relationships", if relationships.isTruthy then relationships else .list [])]

def readSymbol (name info : Datum) (location : String) : Except Fault SymbolEntry :=
  match info with
  | .map es =>
    match SymbolEntry.ofEntries (symbolFields name es) with
    | .valid s => .ok s
    | .invalid issues => refuse source location ((issues.head?.map (·.cause.message)).getD "")
    | .aborted cause => .error (.aborted cause)
  | _ => refuse source location "symbol info must be an object"

def readOccurrence (raw file : Datum) (location : String) : Except Fault Occurrence :=
  match raw with
  | .map es =>
    match Occurrence.ofRaw es file with
    | .ok o => .ok o
    | .error e => refuse source location e.message
  | _ => refuse source location "occurrence must be an object"

/-- The name that the symbol of an export carries. Without one the symbol is passed over. -/
def symbolName? : Datum → Option Datum
  | .map es => (Entries.get? "symbol" es).filter Datum.isTruthy
  | _ => none

def readListedSymbols (place : String) (d : Datum) : Except Fault (List SymbolEntry) := do
  let infos ← listed d
  (infos.filterMap fun (i, info) => (symbolName? info).map (i, info, ·)).mapM
    fun (i, info, name) => readSymbol source name info s!"{place}.{i}"

def readListedOccurrences (place : String) (file d : Datum) :
    Except Fault (List Occurrence) := do
  let raws ← listed d
  raws.mapM fun (i, raw) => readOccurrence source raw file s!"{place}.{i}"

def readFileFields (place : String) (es : Entries) :
    Except Fault (List SymbolEntry × List Occurrence) := do
  let path := ((es.get? "relativePath").or (es.get? "relative_path")).getD (.text "")
  let symbols ← readListedSymbols source s!"{place}.symbols"
    ((es.get? "symbols").getD (.list []))
  let occurrences ← readListedOccurrences source s!"{place}.occurrences" path
    ((es.get? "occurrences").getD (.list []))
  pure (symbols, occurrences)

def readFile (i : Nat) (d : Datum) : Except Fault (List SymbolEntry × List Occurrence) :=
  match d with
  | .map es => readFileFields source s!"documents.{i}" es
  | _ => refuse source s!"documents.{i}" "must be an object"

/-- An export. A symbol that comes more than once counts where it comes first. -/
def readExport (es : Entries) : Except Fault (List SymbolEntry × List Occurrence) :=
  match es.get? "documents" with
  | some (.list ds) => do
    let files ← (ds.zipIdx).mapM fun (d, i) => readFile source i d
    let outside ← readListedSymbols source "externalSymbols"
      (((es.get? "externalSymbols").or (es.get? "external_symbols")).getD (.list []))
    pure (distinctBy SymbolEntry.name [] (files.flatMap Prod.fst ++ outside),
      files.flatMap Prod.snd)
  | _ => refuse source "documents" "must be a list"

/-- The symbols of a flat document. What counts as nothing tells nothing about a symbol. -/
def readKeyedSymbols (es : Entries) : Except Fault (List SymbolEntry) :=
  es.mapM fun (name, info) =>
    readSymbol source name (if info.isTruthy then info else .map []) s!"symbols.{name.display}"

def readFlat (es : Entries) : Except Fault (List SymbolEntry × List Occurrence) :=
  match (es.get? "symbols").getD (.map []), (es.get? "occurrences").getD (.list []) with
  | .map symbols, .list occurrences => do
    let symbols ← readKeyedSymbols source symbols
    let occurrences ← occurrences.zipIdx.mapM fun (raw, i) =>
      readOccurrence source raw .null s!"occurrences.{i}"
    pure (symbols, occurrences)
  | .map _, _ => refuse source "occurrences" "must be a list"
  | _, _ => refuse source "symbols" "must be an object keyed by symbol name"

def readEither (es : Entries) : Except Fault (List SymbolEntry × List Occurrence) :=
  if es.has "documents" then readExport source es else readFlat source es

def decode (roles : RoleSchema) : Datum → Except Fault SymbolIndex
  | .map es => do
    let (symbols, occurrences) ← readEither source es
    pure ⟨symbols, occurrences, roles, source⟩
  | _ => refuse source "<root>" "document must be a JSON object"

def logger : String :=
  "callcontract.index.store"

def loadedEvent (path : Path) (x : SymbolIndex) : Event :=
  ⟨logger, .info, "symbol_index_loaded",
    [("path", .text (toString path)), ("symbols", .nat x.symbols.length),
      ("occurrences", .nat x.occurrences.length), ("files", .nat x.filePaths.length)]⟩

def load (files : FileTree) (roles : RoleSchema) (path : Path) : Logged SymbolIndex :=
  (Logged.ofExcept do
    let d ← Documents.readJson files path "symbol index"
    decode (toString path) roles d).tell fun x => [loadedEvent path x]

def unavailableEvent (path : Option Path) : Event :=
  ⟨logger, .warning, "symbol_index_unavailable",
    [("path", .optional (fun p => .text (toString p)) path)]⟩

/-- Loads the index where there is one; a file that is there has to be well formed. -/
def loadOptional (files : FileTree) (roles : RoleSchema) (path : Option Path) :
    Logged (Option SymbolIndex) :=
  match path with
  | none => ⟨[unavailableEvent none], .ok none⟩
  | some p =>
    if files.entry p = .absent then ⟨[unavailableEvent (some p)], .ok none⟩
    else (load files roles p).bind fun x => .pure (some x)

theorem occurrencesFor_eq_filter (x : SymbolIndex) (s : String) :
    x.occurrencesFor s = x.occurrences.filter fun o => o.symbol = s :=
  Buckets.items_ofItems ..

theorem occurrencesInFile_eq_filter (x : SymbolIndex) (path : String) :
    x.occurrencesInFile path = x.occurrences.filter fun o => o.file = path :=
  Buckets.items_ofItems ..

theorem filePaths_eq (x : SymbolIndex) :
    x.filePaths = (x.occurrences.map Occurrence.file).eraseDups :=
  Buckets.keys_ofItems ..

theorem mem_occurrencesFor {x : SymbolIndex} {s : String} {o : Occurrence} :
    o ∈ x.occurrencesFor s ↔ o ∈ x.occurrences ∧ o.symbol = s := by
  simp [occurrencesFor_eq_filter]

end SymbolIndex

end GraphContracts
