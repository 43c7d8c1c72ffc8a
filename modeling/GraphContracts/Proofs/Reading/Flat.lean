import GraphContracts.Proofs.Lookup
import GraphContracts.Proofs.Reading.Json
import GraphContracts.Proofs.Reading.Ranges

namespace GraphContracts

open Schema

namespace SymbolIndex

/-- What an export tells about a symbol, with the name of the symbol. -/
def keyed? : Datum → Option (String × Datum)
  | .map es =>
    match Entries.get? "symbol" es with
    | some (.text name) => if name = "" then none else some (name, .map es)
    | _ => none
  | _ => none

/-- The symbols of an export, those of its files first. -/
def keyedSymbols (d : Datum) : List (String × Datum) :=
  ((d.itemsAt ["documents"]).flatMap (Datum.itemsAt ["symbols"]) ++
    d.itemsAt ["externalSymbols", "external_symbols"]).filterMap keyed?

/-- The path that a file of an export gives. -/
def pathOf (file : Datum) : Datum :=
  (file.member? ["relativePath", "relative_path"]).getD (.text "")

/-- An occurrence with its file beside it. -/
def withFile (path : Datum) : Datum → Datum
  | .map es => .map (Entries.set (.text "_file") path es)
  | d => d

def filedOccurrences (d : Datum) : List Datum :=
  (d.itemsAt ["documents"]).flatMap fun file ↦
    (file.itemsAt ["occurrences"]).map (withFile (pathOf file))

/-- The flat document of an export. A name that comes more than once has what comes first. -/
def flattened (d : Datum) : Datum :=
  .object [
    ("symbols", .map ((distinctBy Prod.fst [] (keyedSymbols d)).map fun p ↦
      (Datum.text p.1, p.2))),
    ("occurrences", .list (filedOccurrences d))]

/-- The paths that the files of an export give are texts. -/
def TextPaths (d : Datum) : Prop :=
  ∀ file ∈ d.itemsAt ["documents"], ∀ name ∈ ["relativePath", "relative_path"],
    (file.member? [name]).all Datum.isText

instance (d : Datum) : Decidable (TextPaths d) :=
  inferInstanceAs (Decidable (∀ file ∈ d.itemsAt ["documents"], _))

/-- Reading the fields of a symbol and of an occurrence, wherever they stand. -/
def ReadsSymbol (named : String × Datum) (s : SymbolEntry) : Prop :=
  ∃ es, named.2 = .map es ∧ SymbolEntry.ofEntries (symbolFields (.text named.1) es) = .valid s

def ReadsOccurrence (file raw : Datum) (o : Occurrence) : Prop :=
  ∃ es, raw = .map es ∧ Occurrence.ofRaw es file = .ok o

variable {source location : String}

theorem readSymbol_eq_ok_iff {name info : Datum} {s : SymbolEntry} :
    readSymbol source name info location = .ok s ↔
      ∃ es, info = .map es ∧ SymbolEntry.ofEntries (symbolFields name es) = .valid s := by
  cases info with
  | map es =>
    cases h : SymbolEntry.ofEntries (symbolFields name es) <;> simp [readSymbol, h, refuse]
  | _ => simp [readSymbol, refuse]

theorem readOccurrence_eq_ok_iff {raw file : Datum} {o : Occurrence} :
    readOccurrence source raw file location = .ok o ↔ ReadsOccurrence file raw o := by
  cases raw with
  | map es =>
    cases h : Occurrence.ofRaw es file <;> simp [readOccurrence, h, refuse, ReadsOccurrence]
  | _ => simp [readOccurrence, refuse, ReadsOccurrence]

theorem name_of_ofEntries {name : Datum} {es : Entries} {s : SymbolEntry}
    (h : SymbolEntry.ofEntries (symbolFields name es) = .valid s) : text name = .valid s.name := by
  simp only [SymbolEntry.ofEntries, Functor.map, Seq.seq, Checked.seq_eq_valid,
    Checked.map_eq_valid] at h
  obtain ⟨_, _, ⟨_, _, ⟨_, _, ⟨n, hn, rfl⟩, -, rfl⟩, -, rfl⟩, -, rfl⟩ := h
  obtain ⟨d, hd, hread⟩ := required_eq_valid.1 hn
  obtain rfl := Option.some.inj hd
  exact hread

theorem ReadsSymbol.name_eq {named : String × Datum} {s : SymbolEntry} (h : ReadsSymbol named s) :
    named.1 = s.name := by
  obtain ⟨es, -, hread⟩ := h
  exact Checked.valid.inj (name_of_ofEntries hread)

theorem keyed?_of_readSymbol {info name : Datum} {s : SymbolEntry} (hjson : info.isJson)
    (hname : symbolName? info = some name) (h : readSymbol source name info location = .ok s) :
    ∃ named, keyed? info = some named ∧ ReadsSymbol named s := by
  obtain ⟨es, rfl, hread⟩ := readSymbol_eq_ok_iff.1 h
  obtain ⟨hget, htruthy⟩ := Option.filter_eq_some_iff.1 hname
  have hj := Datum.isJson_of_get? hjson hget
  have htext := name_of_ofEntries hread
  cases name with
  | text n =>
    have hn : n ≠ "" := by simpa [Datum.isTruthy] using htruthy
    exact ⟨(n, .map es), by simp [keyed?, hget, hn], es, rfl, hread⟩
  | bytes bs => simp [Datum.isJson] at hj
  | _ => simp [text, Checked.issue] at htext

theorem keyed?_of_symbolName?_eq_none {info : Datum} (h : symbolName? info = none) :
    keyed? info = none := by
  cases info with
  | map es =>
    cases hget : Entries.get? "symbol" es with
    | none => simp [keyed?, hget]
    | some name =>
      cases name with
      | text n =>
        have hn : n = "" := by simpa [symbolName?, hget, Datum.isTruthy] using h
        simp [keyed?, hget, hn]
      | _ => simp [keyed?, hget]
  | _ => rfl

theorem listed_cases {d : Datum} {infos : List (Nat × Datum)} (hjson : d.isJson)
    (h : listed d = .ok infos) :
    infos.map Prod.snd = listItems d ∨
      listItems d = [] ∧ ∀ info ∈ infos.map Prod.snd, ∃ s, info = .text s := by
  have hnumber : ∀ ds, (listed.number ds).map Prod.snd = ds := fun ds ↦ by
    simp [listed.number, Function.comp_def]
  cases d with
  | list ds =>
    obtain rfl := Except.ok.inj h
    exact .inl (hnumber ds)
  | text s =>
    obtain rfl := Except.ok.inj h
    refine .inr ⟨rfl, ?_⟩
    rw [hnumber]
    intro info hinfo
    obtain ⟨c, -, rfl⟩ := List.mem_map.1 hinfo
    exact ⟨_, rfl⟩
  | map es =>
    obtain rfl := Except.ok.inj h
    refine .inr ⟨rfl, ?_⟩
    rw [hnumber]
    intro k hk
    obtain ⟨e, he, rfl⟩ := List.mem_map.1 hk
    exact Datum.isText_iff.1 (Datum.isJson_map.1 hjson e he).1
  | _ => cases h

theorem forall₂_readsSymbol {infos : List (Nat × Datum)} {ss : List SymbolEntry}
    (hjson : ∀ info ∈ infos.map Prod.snd, info.isJson)
    (h : List.Forall₂ (fun p s ↦ ∃ location, readSymbol source p.2.2 p.2.1 location = .ok s)
      (infos.filterMap fun (i, info) ↦ (symbolName? info).map (i, info, ·)) ss) :
    List.Forall₂ ReadsSymbol ((infos.map Prod.snd).filterMap keyed?) ss := by
  induction infos generalizing ss with
  | nil => simpa using h
  | cons p infos ih =>
    obtain ⟨i, info⟩ := p
    have hrest : ∀ e ∈ infos.map Prod.snd, e.isJson :=
      fun e he ↦ hjson e (List.mem_cons_of_mem _ he)
    cases hname : symbolName? info with
    | none =>
      -- A symbol without a name is passed over on both sides.
      rw [List.filterMap_cons_none (by simp [hname])] at h
      rw [List.map_cons, List.filterMap_cons_none (keyed?_of_symbolName?_eq_none hname)]
      exact ih hrest h
    | some name =>
      rw [List.filterMap_cons_some (b := (i, info, name)) (by simp [hname])] at h
      obtain ⟨s, ss', ⟨location, hs⟩, hss, rfl⟩ := List.forall₂_cons_left_iff.1 h
      obtain ⟨named, hnamed, hreads⟩ :=
        keyed?_of_readSymbol (hjson info List.mem_cons_self) hname hs
      rw [List.map_cons, List.filterMap_cons_some hnamed]
      exact .cons hreads (ih hrest hss)

theorem isJson_of_listed {d : Datum} {infos : List (Nat × Datum)} (hjson : d.isJson)
    (h : listed d = .ok infos) : ∀ info ∈ infos.map Prod.snd, info.isJson := by
  intro info hinfo
  obtain hitems | ⟨-, htexts⟩ := listed_cases hjson h
  · exact Datum.isJson_of_mem_listItems hjson (hitems ▸ hinfo)
  · obtain ⟨s, rfl⟩ := htexts info hinfo
    rfl

theorem readListedSymbols_ok {place : String} {d : Datum} {ss : List SymbolEntry}
    (hjson : d.isJson) (h : readListedSymbols source place d = .ok ss) :
    List.Forall₂ ReadsSymbol ((listItems d).filterMap keyed?) ss := by
  obtain ⟨infos, hlisted, hread⟩ := bind_eq_ok_iff.1 h
  have hnamed := forall₂_readsSymbol (isJson_of_listed hjson hlisted)
    ((mapM_eq_ok_iff.1 hread).imp fun _ _ hs ↦ ⟨_, hs⟩)
  obtain hitems | ⟨hitems, htexts⟩ := listed_cases hjson hlisted
  · exact hitems ▸ hnamed
  · have hnone : (infos.map Prod.snd).filterMap keyed? = [] := by
      refine List.filterMap_eq_nil_iff.2 fun info hinfo ↦ ?_
      obtain ⟨s, rfl⟩ := htexts info hinfo
      rfl
    rwa [hitems, List.filterMap_nil, ← hnone]

theorem readListedOccurrences_ok {place : String} {file d : Datum} {os : List Occurrence}
    (hjson : d.isJson) (h : readListedOccurrences source place file d = .ok os) :
    List.Forall₂ (ReadsOccurrence file) (listItems d) os := by
  obtain ⟨infos, hlisted, hread⟩ := bind_eq_ok_iff.1 h
  rw [mapM_eq_ok_iff_map Prod.snd fun _ _ ↦ readOccurrence_eq_ok_iff] at hread
  obtain hitems | ⟨hitems, htexts⟩ := listed_cases hjson hlisted
  · exact hitems ▸ hread
  · -- A text is no occurrence, so nothing was listed.
    generalize infos.map Prod.snd = raws at hread htexts
    cases hread with
    | nil => exact hitems ▸ .nil
    | cons hraw _ =>
      obtain ⟨s, rfl⟩ := htexts _ List.mem_cons_self
      obtain ⟨es, hes, -⟩ := hraw
      cases hes

/-- What a file of an export is read as. -/
def ReadsFile (file : Datum) (read : List SymbolEntry × List Occurrence) : Prop :=
  List.Forall₂ ReadsSymbol ((file.itemsAt ["symbols"]).filterMap keyed?) read.1 ∧
    List.Forall₂ (ReadsOccurrence (pathOf file)) (file.itemsAt ["occurrences"]) read.2

theorem readFile_ok {i : Nat} {file : Datum} {read : List SymbolEntry × List Occurrence}
    (hjson : file.isJson) (h : readFile source i file = .ok read) : ReadsFile file read := by
  cases file with
  | map es =>
    obtain ⟨ss, hss, h⟩ := bind_eq_ok_iff.1 h
    obtain ⟨os, hos, h⟩ := bind_eq_ok_iff.1 h
    obtain rfl := Except.ok.inj h
    rw [← Datum.member?_single] at hss
    rw [← Datum.member?_pair, ← Datum.member?_single] at hos
    exact ⟨readListedSymbols_ok (Datum.isJson_getD_member? hjson _) hss,
      readListedOccurrences_ok (Datum.isJson_getD_member? hjson _) hos⟩
  | _ => cases h

theorem ofRaw_set_file (es : Entries) (path : String) :
    Occurrence.ofRaw (es.set (.text "_file") (.text path)) .null =
      Occurrence.ofRaw es (.text path) := by
  unfold Occurrence.ofRaw
  simp (disch := decide) only [Entries.get?_set_self, Entries.get?_set_of_ne]
  rfl

theorem readsOccurrence_withFile {path : String} {raw : Datum} {o : Occurrence}
    (h : ReadsOccurrence (.text path) raw o) :
    ReadsOccurrence .null (withFile (.text path) raw) o := by
  obtain ⟨es, rfl, hread⟩ := h
  exact ⟨_, rfl, (ofRaw_set_file es path).trans hread⟩

theorem TextPaths.pathOf_eq_text {d file : Datum} (h : TextPaths d)
    (hfile : file ∈ d.itemsAt ["documents"]) : ∃ path, pathOf file = .text path := by
  unfold pathOf
  cases hpath : file.member? ["relativePath", "relative_path"] with
  | none => exact ⟨"", rfl⟩
  | some path =>
    cases file with
    | map es =>
      obtain ⟨name, hname, hget⟩ := List.exists_of_findSome?_eq_some hpath
      have htext := h _ hfile name hname
      rw [Datum.member?_single, hget, Option.all_some] at htext
      exact Datum.isText_iff.1 htext
    | _ => cases hpath

theorem readFiles_ok {files : List Datum} {reads : List (List SymbolEntry × List Occurrence)}
    (hjson : ∀ file ∈ files, file.isJson)
    (h : files.zipIdx.mapM (fun (file, i) ↦ readFile source i file) = .ok reads) :
    List.Forall₂ (fun file read ↦ file ∈ files ∧ ReadsFile file read) files reads := by
  have hread : List.Forall₂ (fun file read ↦ ∃ i, readFile source i file = .ok read)
      files reads := by
    rw [← List.zipIdx_map_fst 0 files, List.forall₂_map_left_iff]
    exact (mapM_eq_ok_iff.1 h).imp fun _ _ hfile ↦ ⟨_, hfile⟩
  have hmem := (List.forall₂_and_left files reads).2 ⟨fun _ hfile ↦ hfile, hread⟩
  exact hmem.imp fun file read ⟨hfile, _, hok⟩ ↦ ⟨hfile, readFile_ok (hjson file hfile) hok⟩

/-- What an export is read as can be read off its flat document. -/
theorem readExport_ok {es : Entries} {symbols : List SymbolEntry} {occurrences : List Occurrence}
    (hjson : (Datum.map es).isJson) (hpaths : TextPaths (.map es))
    (h : readExport source es = .ok (symbols, occurrences)) :
    List.Forall₂ ReadsSymbol (distinctBy Prod.fst [] (keyedSymbols (.map es))) symbols ∧
      List.Forall₂ (ReadsOccurrence .null) (filedOccurrences (.map es)) occurrences := by
  unfold readExport at h
  split at h
  · rename_i files hdocuments
    obtain ⟨reads, hreads, h⟩ := bind_eq_ok_iff.1 h
    obtain ⟨outside, houtside, h⟩ := bind_eq_ok_iff.1 h
    obtain ⟨rfl, rfl⟩ := Prod.mk.inj (Except.ok.inj h)
    have hitems : (Datum.map es).itemsAt ["documents"] = files := by
      simp [Datum.itemsAt, Datum.member?_single, hdocuments, listItems]
    have hfiles := readFiles_ok
      (fun file hfile ↦ Datum.isJson_of_mem_itemsAt hjson (hitems ▸ hfile)) hreads
    rw [← Datum.member?_pair] at houtside
    have hall := readListedSymbols_ok (Datum.isJson_getD_member? hjson _) houtside
    constructor
    · -- symbols of files come before those outside, in both documents
      refine forall₂_distinctBy (fun _ _ hs ↦ hs.name_eq) ?_ []
      rw [keyedSymbols, hitems, List.filterMap_append, List.filterMap_flatMap]
      exact List.rel_append (List.rel_flatMap hfiles fun _ _ hfile ↦ hfile.2.1) hall
    · rw [filedOccurrences, hitems]
      refine List.rel_flatMap hfiles fun file read hfile ↦ ?_
      obtain ⟨path, hpath⟩ := hpaths.pathOf_eq_text (hitems ▸ hfile.1)
      have hread := hfile.2.2
      rw [hpath] at hread ⊢
      exact List.forall₂_map_left_iff.2 (hread.imp fun _ _ ho ↦ readsOccurrence_withFile ho)
  · cases h

theorem readKeyedSymbols_ok {named : List (String × Datum)} {symbols : List SymbolEntry}
    (h : List.Forall₂ ReadsSymbol named symbols) :
    readKeyedSymbols source (named.map fun p ↦ (.text p.1, p.2)) = .ok symbols := by
  refine mapM_eq_ok_iff.2 (List.forall₂_map_left_iff.2 (h.imp fun p s hs ↦ ?_))
  obtain ⟨es, hes, hread⟩ := hs
  refine readSymbol_eq_ok_iff.2 ⟨es, ?_, hread⟩
  -- An empty mapping counts as nothing, but nothing is read as an empty mapping.
  cases es <;> simp [hes, Datum.isTruthy]

theorem readFlat_ok {named : List (String × Datum)} {raws : List Datum}
    {symbols : List SymbolEntry} {occurrences : List Occurrence}
    (hsymbols : List.Forall₂ ReadsSymbol named symbols)
    (hoccurrences : List.Forall₂ (ReadsOccurrence .null) raws occurrences) :
    readFlat source [(.text "symbols", .map (named.map fun p ↦ (.text p.1, p.2))),
      (.text "occurrences", .list raws)] = .ok (symbols, occurrences) := by
  have hread : raws.zipIdx.mapM (fun (raw, i) ↦
      readOccurrence source raw .null s!"occurrences.{i}") = .ok occurrences := by
    rw [mapM_eq_ok_iff_map Prod.fst fun _ _ ↦ readOccurrence_eq_ok_iff,
      List.zipIdx_map_fst]
    exact hoccurrences
  simp only [readFlat, Entries.get?, if_true, String.reduceEq, if_false, Option.getD_some,
    readKeyedSymbols_ok hsymbols, hread]
  rfl

/-- An export that is read and its flat document give the same index, and widened ranges make no
difference to what any document gives. -/
theorem decode_flattened {roles : RoleSchema} {d : Datum} {x : SymbolIndex} (hjson : d.isJson)
    (hexport : (d.member? ["documents"]).isSome) (hpaths : TextPaths d)
    (h : decode source roles d = .ok x) :
    decode source roles (flattened d) = .ok x ∧
      ∀ e e', WidensRanges e e' → decode source roles e' = decode source roles e := by
  refine ⟨?_, fun _ _ ↦ decode_of_widensRanges source roles⟩
  cases d with
  | map es =>
    rw [Datum.member?_single] at hexport
    obtain ⟨⟨symbols, occurrences⟩, hread, hx⟩ := bind_eq_ok_iff.1 h
    rw [readEither, Entries.has, if_pos hexport] at hread
    obtain ⟨hsymbols, hoccurrences⟩ := readExport_ok hjson hpaths hread
    exact bind_eq_ok_iff.2 ⟨_, readFlat_ok hsymbols hoccurrences, hx⟩
  | _ => cases h

namespace OrderExport

def order (kind : String) : Datum :=
  .object [("symbol", .text "App/Order#"), ("kind", .text kind)]

def service : Datum :=
  .object [("symbol", .text "App/Service#"), ("documentation", .text "Takes orders.")]

def logging : Datum :=
  .object [("symbol", .text "Psr/Log#"), ("relationships", .null)]

def usage (range : List Int) (roles : Int) : Datum :=
  .object [("symbol", .text "App/Order#"), ("range", .list (range.map .int)),
    ("symbolRoles", .int roles)]

def document (range : List Int) : Datum :=
  .object [
    ("documents", .list [
      .object [("relativePath", .text "src/Order.php"), ("symbols", .list [order "class"]),
        ("occurrences", .list [usage range 1])],
      .object [("relative_path", .text "src/Service.php"),
        ("symbols", .list [service, order "interface"]),
        ("occurrences", .list [usage [4, 8, 5, 13] 8])]]),
    ("externalSymbols", .list [logging])]

def index : SymbolIndex :=
  ⟨[⟨"App/Order#", some "class", [], []⟩, ⟨"App/Service#", none, ["Takes orders."], []⟩,
      ⟨"Psr/Log#", none, [], []⟩],
    [⟨"App/Order#", "src/Order.php", 2, 6, 2, 11, 1⟩,
      ⟨"App/Order#", "src/Service.php", 4, 8, 5, 13, 8⟩],
    .standard, "<memory>"⟩

theorem decode_flattened_document :
    decode "<memory>" .standard (document [2, 6, 11]) = .ok index ∧
      decode "<memory>" .standard (flattened (document [2, 6, 11])) = .ok index ∧
      decode "<memory>" .standard (document [2, 6, 2, 11]) = .ok index := by
  have hindex : decode "<memory>" .standard (document [2, 6, 11]) = .ok index := rfl
  have hwidens : WidensRanges (document [2, 6, 11]) (document [2, 6, 2, 11]) :=
    .inFiles (.replaced rfl (.cons (.replaced rfl (.cons (.widened rfl) .nil))
      (.cons (.same _) .nil)))
  obtain ⟨hflat, hsame⟩ := decode_flattened (by decide) (by decide) (by decide) hindex
  exact ⟨hindex, hflat, (hsame _ _ hwidens).trans hindex⟩

end OrderExport

end SymbolIndex

end GraphContracts
