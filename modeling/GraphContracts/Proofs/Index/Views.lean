import GraphContracts.Proofs.Groups
import GraphContracts.Proofs.Index.Answers
import GraphContracts.Proofs.Reading.Document
import GraphContracts.Proofs.Reading.Flat

namespace GraphContracts

open Schema

theorem flatMap_filter_perm {α : Type} (key : α → String) {ks : List String} (hks : ks.Nodup)
    (as : List α) : (ks.flatMap fun k ↦ as.filter fun a ↦ key a = k).Perm
      (as.filter fun a ↦ key a ∈ ks) := by
  induction ks with
  | nil => simp
  | cons k ks ih =>
    obtain ⟨hk, hks⟩ := List.nodup_cons.1 hks
    have hfirst : (as.filter fun a ↦ key a = k) =
        (as.filter fun a ↦ key a ∈ k :: ks).filter fun a ↦ key a = k := by
      rw [List.filter_filter]
      exact List.filter_congr fun a _ ↦ by by_cases h : key a = k <;> simp [h]
    have hrest : (as.filter fun a ↦ key a ∈ ks) =
        (as.filter fun a ↦ key a ∈ k :: ks).filter fun a ↦ !decide (key a = k) := by
      rw [List.filter_filter]
      exact List.filter_congr fun a _ ↦ by by_cases h : key a = k <;> simp [h, hk]
    rw [List.flatMap_cons]
    refine ((ih hks).append_left _).trans ?_
    rw [hfirst, hrest]
    exact List.filter_append_perm _ _

namespace SymbolIndex

variable {source : String} {roles : RoleSchema} {d : Datum} {x : SymbolIndex}

theorem nodup_names_of_readKeyed {es : Entries} {symbols : List SymbolEntry}
    (hd : (Datum.map es).IsDocument) (h : readKeyedSymbols source es = .ok symbols) :
    (symbols.map SymbolEntry.name).Nodup := by
  have hread : List.Forall₂ (fun e s ↦ e ∈ es ∧ text e.1 = .valid s.name) es symbols := by
    refine (List.forall₂_and_left es symbols).2 ⟨fun e he ↦ he, ?_⟩
    refine (mapM_eq_ok_iff.1 h).imp fun e s hs ↦ ?_
    obtain ⟨fields, -, hfields⟩ := readSymbol_eq_ok_iff.1 hs
    exact name_of_ofEntries hfields
  have hkeys : es.map Prod.fst = symbols.map fun s ↦ Datum.text s.name := by
    rw [← List.forall₂_eq_eq_eq, List.forall₂_map_left_iff, List.forall₂_map_right_iff]
    refine hread.imp fun e s ⟨he, hname⟩ ↦ ?_
    obtain ⟨name, hkey⟩ := Datum.isText_iff.1 (hd.isText_key he)
    rw [hkey] at hname ⊢
    exact congrArg Datum.text (Checked.valid.inj hname)
  have hnodup := hd.nodup_keys
  rw [hkeys] at hnodup
  exact List.Nodup.of_map Datum.text (by rwa [List.map_map])

theorem nodup_names_of_decode (hd : d.IsDocument) (h : decode source roles d = .ok x) :
    (x.symbols.map SymbolEntry.name).Nodup := by
  cases d with
  | map es =>
    obtain ⟨⟨symbols, occurrences⟩, hread, hx⟩ := bind_eq_ok_iff.1 h
    cases hx
    rw [readEither] at hread
    split at hread
    · unfold readExport at hread
      split at hread
      · obtain ⟨files, -, hread⟩ := bind_eq_ok_iff.1 hread
        obtain ⟨outside, -, hread⟩ := bind_eq_ok_iff.1 hread
        cases hread
        exact distinctBy_nodup ..
      · cases hread
    · unfold readFlat at hread
      split at hread
      · rename_i keyed raws hkeyed hraws
        obtain ⟨symbols', hsymbols, hread⟩ := bind_eq_ok_iff.1 hread
        obtain ⟨occurrences', -, hread⟩ := bind_eq_ok_iff.1 hread
        cases hread
        refine nodup_names_of_readKeyed ?_ hsymbols
        rw [← hkeyed]
        exact hd.getD .map_nil "symbols"
      · cases hread
      · cases hread
  | _ => cases h

theorem flatMap_occurrencesInFile_perm (x : SymbolIndex) :
    (x.filePaths.flatMap x.occurrencesInFile).Perm x.occurrences := by
  have hall : (x.occurrences.filter fun o ↦ o.file ∈ x.filePaths) = x.occurrences := by
    refine List.filter_eq_self.2 fun o ho ↦ decide_eq_true ?_
    rw [filePaths_eq, List.mem_eraseDups]
    exact List.mem_map_of_mem ho
  have hnodup : x.filePaths.Nodup := by
    rw [filePaths_eq]
    exact nodup_eraseDups _
  have hperm := flatMap_filter_perm Occurrence.file hnodup x.occurrences
  rw [hall] at hperm
  rwa [← funext (occurrencesInFile_eq_filter x)] at hperm

end SymbolIndex

namespace SymbolQuery

variable {q : SymbolQuery} {x : SymbolIndex} {asks stuck : SymbolEntry → Prop}

/-- A query names the symbols that it asks for and hands over their occurrences, name by name. -/
structure HandsOver (q : SymbolQuery) (x : SymbolIndex) (asks : SymbolEntry → Prop)
    (ns : List String) (q' : OccurrenceQuery) : Prop where
  names : q.names = .ok ns
  occurrences : q.occurrences = .ok q'
  nodup : ns.Nodup
  sublist : ns.Sublist (x.symbols.map SymbolEntry.name)
  mem_names : ∀ n, n ∈ ns ↔ ∃ s ∈ x.symbols, asks s ∧ s.name = n
  grouped : q'.all = ns.flatMap fun n ↦ x.occurrences.filter fun o ↦ o.symbol = n
  perm : q'.all.Perm (x.occurrences.filter fun o ↦ o.symbol ∈ ns)

theorem all_forSymbols (x : SymbolIndex) (ns : List String) :
    (x.occurrenceQuery.forSymbols ns).all =
      ns.flatMap fun n ↦ x.occurrences.filter fun o ↦ o.symbol = n := by
  rw [← funext (SymbolIndex.occurrencesFor_eq_filter x)]
  exact List.filter_eq_self.2 fun o _ ↦ rfl

theorem Answers.handsOver (h : q.Answers x asks stuck)
    (hnames : (x.symbols.map SymbolEntry.name).Nodup) (hno : ∀ s ∈ x.symbols, ¬stuck s) :
    ∃ ns q', q.HandsOver x asks ns q' := by
  classical
  have hfinds := h.found hno
  have hsublist : ((x.symbols.filter fun s ↦ asks s).map SymbolEntry.name).Sublist
      (x.symbols.map SymbolEntry.name) := List.filter_sublist.map _
  have hnodup := hnames.sublist hsublist
  refine ⟨_, _, hfinds.names, hfinds.occurrences, hnodup, hsublist, fun n ↦ ?_, ?_, ?_⟩
  · simp [and_assoc]
  · rw [h.index, all_forSymbols]
  · rw [h.index, all_forSymbols]
    exact flatMap_filter_perm Occurrence.symbol hnodup x.occurrences

end SymbolQuery

namespace SymbolIndex

/-- The views of an index. The occurrences of the symbols that a query matches are one of them,
unless a symbol comes to a filter that cannot be asked of it. -/
structure Views (x : SymbolIndex) : Prop where
  ofSymbol : ∀ s, x.occurrencesFor s = x.occurrences.filter fun o ↦ o.symbol = s
  inFile : ∀ f, x.occurrencesInFile f = x.occurrences.filter fun o ↦ o.file = f
  files : x.filePaths = (x.occurrences.map Occurrence.file).eraseDups
  ofFiles : (x.filePaths.flatMap x.occurrencesInFile).Perm x.occurrences
  names : (x.symbols.map SymbolEntry.name).Nodup
  ofMatches : ∀ fs : List SymbolFilter, (∀ s ∈ x.symbols, ¬SymbolFilter.Stumbles fs s) →
    ∃ ns q', (x.symbolsBy fs).HandsOver x (SymbolFilter.Selects fs) ns q'
  refused : ∀ fs : List SymbolFilter, (∃ s ∈ x.symbols, SymbolFilter.Stumbles fs s) →
    (x.symbolsBy fs).names = .error .noWords ∧ (x.symbolsBy fs).occurrences = .error .noWords

variable {source : String} {roles : RoleSchema} {d : Datum} {x : SymbolIndex}

theorem views (hnames : (x.symbols.map SymbolEntry.name).Nodup) : x.Views where
  ofSymbol := occurrencesFor_eq_filter x
  inFile := occurrencesInFile_eq_filter x
  files := filePaths_eq x
  ofFiles := flatMap_occurrencesInFile_perm x
  names := hnames
  ofMatches fs hno := (narrowed_symbolsBy x fs).answers.handsOver hnames hno
  refused fs hstuck := by
    have hfails := (narrowed_symbolsBy x fs).answers.failed hstuck
    exact ⟨hfails.names, hfails.occurrences⟩

theorem decode_of_load {files : FileTree} {path : Path}
    (h : (load files roles path).result = .ok x) :
    ∃ d : Datum, d.IsDocument ∧ decode (toString path) roles d = .ok x := by
  cases hread : Documents.readJson files path "symbol index" >>= decode (toString path) roles with
  | error e => simp [load, hread, Logged.ofExcept, Logged.tell, Logged.bind] at h
  | ok y =>
    have hx : y = x := by simpa [load, hread, Logged.ofExcept, Logged.tell, Logged.bind] using h
    obtain ⟨d, hd, hdecode⟩ := bind_eq_ok_iff.1 hread
    exact ⟨d, Documents.isDocument_of_readJson hd, hx ▸ hdecode⟩

/-- Whatever document an index is read from, it shows every occurrence under its symbol and in its
file, and a query hands over those of the symbols that it names. -/
theorem views_of_decode (hd : d.IsDocument) (h : decode source roles d = .ok x) : x.Views :=
  views (nodup_names_of_decode hd h)

end SymbolIndex

namespace SavedTwice

def place (symbol file : String) (range : List Int) : Datum :=
  .object [("symbol", .text symbol), ("_file", .text file), ("range", .list (range.map .int))]

def document : Datum :=
  .object [
    ("symbols", .object [("App/Order#", .object [("kind", .text "Class")]),
      ("App/Order#save().", .map []), ("App/Mail#", .map [])]),
    ("occurrences", .list [place "App/Order#save()." "src/Order.php" [4, 4, 8],
      place "Psr/Log#" "src/Mail.php" [2, 4, 7], place "App/Order#" "src/Order.php" [2, 6, 11],
      place "App/Order#save()." "src/Mail.php" [9, 8, 12]])]

def defined : Occurrence :=
  ⟨"App/Order#save().", "src/Order.php", 4, 4, 4, 8, 0⟩

def logged : Occurrence :=
  ⟨"Psr/Log#", "src/Mail.php", 2, 4, 2, 7, 0⟩

def named : Occurrence :=
  ⟨"App/Order#", "src/Order.php", 2, 6, 2, 11, 0⟩

def called : Occurrence :=
  ⟨"App/Order#save().", "src/Mail.php", 9, 8, 9, 12, 0⟩

def index : SymbolIndex :=
  ⟨[⟨"App/Order#", some "class", [], []⟩, ⟨"App/Order#save().", none, [], []⟩,
      ⟨"App/Mail#", none, [], []⟩],
    [defined, logged, named, called], .standard, "<memory>"⟩

def filters : List SymbolFilter :=
  [.symbolContains "App/", .holds "listed" fun s ↦ s.relationships.isEmpty]

def content : String :=
  "\x7b\"symbols\":\x7b\"A#\":\x7b\x7d,\"A#\":\x7b\"kind\":\"Class\"\x7d\x7d\x7d"

def files : FileTree :=
  ⟨⟨1, ["work"]⟩, [(["work", "index.json"], .octets content.toUTF8.data.toList)]⟩

def loaded : SymbolIndex :=
  ⟨[⟨"A#", some "class", [], []⟩], [], .standard, "index.json"⟩

theorem isDocument_place (symbol file : String) (range : List Int) :
    (place symbol file range).IsDocument := by
  have hrange : (Datum.list (range.map .int)).IsDocument := by
    refine .list fun d hd ↦ ?_
    obtain ⟨n, -, rfl⟩ := List.mem_map.1 hd
    exact .int n
  refine .object (by simp) fun f hf ↦ ?_
  simp only [List.mem_cons, List.not_mem_nil, or_false] at hf
  obtain rfl | rfl | rfl := hf
  exacts [.text _, .text _, hrange]

theorem isDocument_document : document.IsDocument := by
  have hclass : (Datum.object [("kind", .text "Class")]).IsDocument :=
    .object (by decide) (by simp [Datum.IsDocument.text])
  have hsymbols : (Datum.object [("App/Order#", .object [("kind", .text "Class")]),
      ("App/Order#save().", .map []), ("App/Mail#", .map [])]).IsDocument :=
    .object (by decide) (by simp [hclass, Datum.IsDocument.map_nil])
  refine .object (by decide) ?_
  simp only [List.forall_mem_cons, List.not_mem_nil, false_imp_iff, implies_true, and_true]
  exact ⟨hsymbols, .list (by simp [isDocument_place])⟩

theorem load_content :
    (SymbolIndex.load files .standard (.ofString "index.json")).result = .ok loaded :=
  toOption_eq_some_iff.1 (by decide +kernel)

theorem views_of_document :
    document.IsDocument ∧ SymbolIndex.decode "<memory>" .standard document = .ok index ∧
      index.filePaths = ["src/Order.php", "src/Mail.php"] ∧
      index.occurrencesFor "Psr/Log#" = [logged] ∧
      index.occurrencesInFile "src/Mail.php" = [logged, called] ∧
      (∃ q', (index.symbolsBy filters).HandsOver index (SymbolFilter.Selects filters)
        ["App/Order#", "App/Order#save().", "App/Mail#"] q' ∧ q'.all = [named, defined, called]) ∧
      (loaded.symbols.map SymbolEntry.name).Nodup := by
  have hdecode : SymbolIndex.decode "<memory>" .standard document = .ok index := rfl
  have hviews := SymbolIndex.views_of_decode isDocument_document hdecode
  obtain ⟨d, hd, hloaded⟩ := SymbolIndex.decode_of_load load_content
  have hloadedViews := SymbolIndex.views_of_decode hd hloaded
  refine ⟨isDocument_document, hdecode, ?_, ?_, ?_, ?_, hloadedViews.names⟩
  · rw [hviews.files]
    decide
  · rw [hviews.ofSymbol]
    decide
  · rw [hviews.inFile]
    decide
  · have hno : ∀ s ∈ index.symbols, ¬SymbolFilter.Stumbles filters s := by
      intro s _ hstumbles
      obtain ⟨-, hfilter⟩ := SymbolFilter.wordless_of_stumbles hstumbles
      simp [filters] at hfilter
    obtain ⟨ns, q', hands⟩ := hviews.ofMatches filters hno
    have hns : (index.symbolsBy filters).names =
        .ok ["App/Order#", "App/Order#save().", "App/Mail#"] := by rfl
    obtain rfl := Except.ok.inj (hands.names.symm.trans hns)
    refine ⟨q', hands, ?_⟩
    rw [hands.grouped]
    decide

end SavedTwice

namespace BlankBesideMethod

def document : Datum :=
  .object [
    ("symbols", .object [(" ", .map []), ("App/Order#save().", .map [])]),
    ("occurrences", .list [SavedTwice.place "App/Order#save()." "src/Order.php" [1, 0, 5]])]

def method : SymbolEntry :=
  ⟨"App/Order#save().", none, [], []⟩

def saved : Occurrence :=
  ⟨"App/Order#save().", "src/Order.php", 1, 0, 1, 5, 0⟩

def index : SymbolIndex :=
  ⟨[⟨" ", none, [], []⟩, method], [saved], .standard, "<memory>"⟩

theorem occurrences_of_blank :
    SymbolIndex.decode "<memory>" .standard document = .ok index ∧
      method ∈ index.symbols ∧ SymbolFilter.Selects [.isMethod] method ∧
      index.occurrencesFor method.name = [saved] ∧
      (index.symbolsBy [.isMethod]).names = .error .noWords ∧
      (index.symbolsBy [.isMethod]).occurrences = .error .noWords := by
  have hword : Text.EndsInWord method.name.toList method.name.toList :=
    lastWord?_eq_some_iff.1 (by decide)
  refine ⟨rfl, by decide, ?_, by decide, rfl, rfl⟩
  simp only [SymbolFilter.Selects, List.mem_singleton, forall_eq]
  exact .inr ⟨.inl rfl, method.name, hword, by decide⟩

end BlankBesideMethod

end GraphContracts
