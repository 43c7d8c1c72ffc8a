import GraphContracts.Catalog.Table
import GraphContracts.Proofs.Reading.Graph
import GraphContracts.Proofs.Text.Utf8
import GraphContracts.Proofs.Yaml.Written
import Mathlib.Data.List.Forall2

namespace GraphContracts

open Schema

theorem Schema.withDefault_of_left_out {α : Type} [DecidableEq α] {name : String} {usual a : α}
    {read : Datum → Checked α} {d : Datum} {es : Entries} (hread : read d = .valid a)
    (h : es.get? name = if a = usual then none else some d) :
    withDefault [name] usual read es = .valid a := by
  refine withDefault_eq_valid.2 ?_
  split at h
  · rename_i husual
    exact .inl ⟨by simp [spelled?, h], husual⟩
  · exact .inr ⟨name, d, spelled?_singleton.2 ⟨rfl, h⟩, hread⟩

theorem Schema.refuseExtra_of_known {fields : List String} {es : Entries}
    (h : ∀ k ∈ es.map Prod.fst, ∃ n ∈ fields, k = .text n) :
    refuseExtra fields es = .valid () := by
  rw [refuseExtra, List.filterMap_eq_nil_iff.2]
  · rfl
  · rintro ⟨k, v⟩ hkv
    obtain ⟨n, hn, hk⟩ := h k (List.mem_map_of_mem hkv)
    simp [hk, hn]

theorem ContractStatus.lookup_options (s : ContractStatus) :
    options.lookup s.name = some s := by
  cases s <;> rfl

namespace ContractEntry

/-- What is kept of an entry: its name and its description always, another field where it does not
have its usual value, and nothing else. -/
structure KeptAs (e : ContractEntry) (es : Entries) : Prop where
  name : es.get? "name" = some (.text e.name)
  description : es.get? "description" = some (.text e.description)
  category : es.get? "category" = if e.category = "" then none else some (.text e.category)
  status : es.get? "status" = if e.status = .active then none else some (.text e.status.name)
  experimental : es.get? "experimental" =
    if e.experimental = false then none else some (.bool e.experimental)
  known : ∀ k ∈ es.map Prod.fst, ∃ n ∈ fields, k = .text n

theorem keptAs_block (e : ContractEntry) : ∃ es, e.block.value = .map es ∧ e.KeptAs es := by
  obtain ⟨name, description, category, status, experimental⟩ := e
  refine ⟨_, rfl, ?_⟩
  by_cases hcategory : category = "" <;> cases status <;> cases experimental <;>
    constructor <;>
    simp [hcategory, Yaml.Block.entryValues, Yaml.Block.value, Entries.get?, fields]

theorem ofDatum_of_keptAs {e : ContractEntry} {es : Entries} (h : e.KeptAs es) :
    ofDatum (.map es) = .valid e := by
  have hname : required "name" text es = .valid e.name :=
    required_eq_valid.2 ⟨_, h.name, rfl⟩
  have hdescription : required "description" text es = .valid e.description :=
    required_eq_valid.2 ⟨_, h.description, rfl⟩
  have hcategory : withDefault ["category"] "" text es = .valid e.category :=
    withDefault_of_left_out rfl h.category
  have hstatus : withDefault ["status"] .active (choice .literal ContractStatus.options) es =
      .valid e.status := by
    refine withDefault_of_left_out ?_ h.status
    rw [choice, ContractStatus.lookup_options]
  have hexperimental : withDefault ["experimental"] false boolean es = .valid e.experimental :=
    withDefault_of_left_out rfl h.experimental
  rw [ofDatum, Schema.record, ofEntries, hname, hdescription, hcategory, hstatus, hexperimental,
    refuseExtra_of_known h.known]
  rfl

end ContractEntry

namespace Yaml.Block

/-- Reading gives back what was written. It does not where a key that is written on one line with
its value takes more than `Scan.keyLimit` characters there. -/
def ReadsBack (entries : List (String × Block)) : Prop :=
  Yaml.read (document entries).toList = .ok (Block.mapping entries).value

theorem entryValues_eq_map (entries : List (String × Block)) :
    entryValues entries = entries.map fun (key, b) ↦ (.text key, b.value) := by
  induction entries with
  | nil => rfl
  | cons entry entries ih => rw [entryValues, ih, List.map_cons]

end Yaml.Block

namespace Catalog

variable {c c' : Catalog} {id : String} {e : ContractEntry} {es tests : Entries}
  {more : List (String × ContractEntry)}

/-- An entry that is kept under its id. -/
def KeptUnder (entry : String × ContractEntry) (kept : Datum × Datum) : Prop :=
  kept.1 = .text entry.1 ∧ ∃ es, kept.2 = .map es ∧ entry.2.KeptAs es

/-- What a document keeps of a catalog: each entry, in order. -/
def KeptIn (c : Catalog) (d : Datum) : Prop :=
  ∃ tests, d = .map [(.text "contracts", .map tests)] ∧
    List.Forall₂ KeptUnder c.entries tests

theorem keptIn_blocks (c : Catalog) : c.KeptIn (Yaml.Block.mapping c.blocks).value := by
  refine ⟨_, rfl, ?_⟩
  rw [Yaml.Block.entryValues_eq_map, List.map_map, List.forall₂_map_right_iff]
  exact List.forall₂_same.2 fun entry _ ↦ ⟨rfl, entry.2.keptAs_block⟩

theorem eq_of_entries_eq (h : c.entries = c'.entries) : c = c' := by
  cases c
  cases c'
  cases h
  rfl

theorem register_of_mem (h : id ∈ c.entries.map Prod.fst) (e : ContractEntry) :
    c.register id e = .error (.argument s!"Contract test already registered: {id}") := by
  simp [register, contains, h]

theorem register_of_not_mem (h : id ∉ c.entries.map Prod.fst) (e : ContractEntry) :
    ∃ c', c.register id e = .ok c' ∧ c'.entries = c.entries ++ [(id, e)] := by
  have hnew : ¬c.contains id = true := by simpa [contains] using h
  exact ⟨_, dif_neg hnew, rfl⟩

theorem registerDatum_of_shown {key raw : Datum} (hkey : key.isShown = true)
    (hraw : ContractEntry.ofItem raw = .valid e) :
    c.registerDatum key raw = c.register key.display e := by
  simp only [registerDatum, hraw, Datum.shown, if_pos hkey]
  rfl

theorem registerDatum_of_keptAs (h : e.KeptAs es) :
    c.registerDatum (.text id) (.map es) = c.register id e := by
  have hsome : (Datum.map es).isTruthy = true := by
    cases es with
    | nil => cases h.name
    | cons entry es => rfl
  refine registerDatum_of_shown rfl ?_
  rw [ContractEntry.ofItem, if_pos hsome, ContractEntry.ofDatum_of_keptAs h]

theorem foldlM_registerDatum (hkept : List.Forall₂ KeptUnder more tests)
    (hnodup : ((c.entries ++ more).map Prod.fst).Nodup) :
    ∃ c', tests.foldlM (fun c (id, raw) ↦ c.registerDatum id raw) c = .ok c' ∧
      c'.entries = c.entries ++ more := by
  induction hkept generalizing c with
  | nil => exact ⟨c, rfl, (List.append_nil _).symm⟩
  | @cons entry kept more tests h _ ih =>
    obtain ⟨id, e⟩ := entry
    obtain ⟨k, d⟩ := kept
    obtain ⟨rfl, es, rfl, he⟩ := h
    have hnew : id ∉ c.entries.map Prod.fst := by
      rw [List.map_append, List.nodup_append] at hnodup
      exact fun hid ↦ hnodup.2.2 id hid id List.mem_cons_self rfl
    -- its id becomes one of those that the later ones must differ from
    obtain ⟨c₁, hregister, hentries⟩ := register_of_not_mem hnew e
    obtain ⟨c', hfold, hc'⟩ := ih (c := c₁) (by simpa [hentries] using hnodup)
    refine ⟨c', ?_, by simp [hc', hentries]⟩
    simp only [List.foldlM_cons, registerDatum_of_keptAs he, hregister]
    exact hfold

theorem ofDatum_of_keptIn {d : Datum} (h : c.KeptIn d) (path : Path) : ofDatum path d = .ok c := by
  obtain ⟨tests, rfl, htests⟩ := h
  obtain ⟨c', hfold, hentries⟩ := foldlM_registerDatum (c := empty) htests c.ids_nodup
  have htests : tests? (.map [(.text "contracts", .map tests)]) = some tests := rfl
  rw [ofDatum, htests]
  exact hfold.trans (congrArg _ (eq_of_entries_eq hentries))

theorem load_of_read {files : FileTree} {path : Path} {content : String} {d : Datum}
    (hfile : files.entry path = .octets content.toUTF8.data.toList)
    (hread : Yaml.read (Text.Utf8.normalizeNewlines content.toList) = .ok d) :
    load files path = ofDatum path d := by
  have htext := Text.Utf8.readText_eq_ok_iff.2 ⟨content, rfl, rfl⟩
  simp only [load, Documents.readText, hfile, htext, Documents.parseYaml, String.toList_ofList,
    hread]
  rfl

theorem load_write {files : FileTree} {path : Path}
    (hfile : files.entry path = .octets c.write.toUTF8.data.toList)
    (hyaml : Yaml.Block.ReadsBack c.blocks) : load files path = .ok c := by
  have hplain : Text.Utf8.normalizeNewlines c.write.toList = c.write.toList :=
    Text.Utf8.normalizeNewlines_eq_self (Yaml.Block.unescaped_document c.blocks).return_not_mem
  have hread : Yaml.read (Text.Utf8.normalizeNewlines c.write.toList) =
      .ok (Yaml.Block.mapping c.blocks).value := by
    rw [hplain]
    exact hyaml
  rw [load_of_read hfile hread]
  exact ofDatum_of_keptIn (keptIn_blocks c) path

def attempt (c : Catalog) (entry : String × ContractEntry) : Catalog :=
  match c.register entry.1 entry.2 with
  | .ok c' => c'
  | .error _ => c

/-- The catalog after a sequence of attempts. -/
def registered (attempts : List (String × ContractEntry)) : Catalog :=
  attempts.foldl attempt empty

theorem entries_attempt (c : Catalog) (id : String) (e : ContractEntry) :
    (c.attempt (id, e)).entries =
      c.entries ++ if id ∈ c.entries.map Prod.fst then [] else [(id, e)] := by
  by_cases hid : id ∈ c.entries.map Prod.fst
  · simp only [attempt, register_of_mem hid, if_pos hid, List.append_nil]
  · obtain ⟨c', hregister, hentries⟩ := register_of_not_mem hid e
    simp only [attempt, hregister, hentries, if_neg hid]

theorem mem_ids_attempt {entry : String × ContractEntry} :
    id ∈ (c.attempt entry).entries.map Prod.fst ↔
      id ∈ c.entries.map Prod.fst ∨ id = entry.1 := by
  rw [entries_attempt]
  split
  · rename_i hold
    rw [List.append_nil]
    exact ⟨.inl, fun h ↦ h.elim (fun hid ↦ hid) fun he ↦ he ▸ hold⟩
  · simp

theorem mem_ids_foldl_attempt {attempts : List (String × ContractEntry)} :
    id ∈ (attempts.foldl attempt c).entries.map Prod.fst ↔
      id ∈ c.entries.map Prod.fst ∨ id ∈ attempts.map Prod.fst := by
  induction attempts generalizing c with
  | nil => simp
  | cons entry attempts ih =>
    rw [List.foldl_cons, ih, mem_ids_attempt, or_assoc, List.map_cons, List.mem_cons]

theorem mem_ids_registered {attempts : List (String × ContractEntry)} :
    id ∈ (registered attempts).entries.map Prod.fst ↔ id ∈ attempts.map Prod.fst := by
  rw [registered, mem_ids_foldl_attempt]
  simp [empty]

theorem registered_concat (attempts : List (String × ContractEntry)) (id : String)
    (e : ContractEntry) :
    registered (attempts ++ [(id, e)]) = (registered attempts).attempt (id, e) := by
  rw [registered, List.foldl_concat, registered]

/-- What becomes of any sequence of attempts to register tests. An attempt with an id that was given
before is refused and leaves the catalog as it was, another one puts its entry behind the others;
the document of the catalog keeps the entries in order, without their usual values; and where the
text of that document is read back as it was written, the file that holds it is loaded as the same
catalog. -/
theorem load_registered (attempts : List (String × ContractEntry)) :
    (∀ id e, (registered attempts).register id e =
      if id ∈ attempts.map Prod.fst then
        .error (.argument s!"Contract test already registered: {id}")
      else .ok (registered (attempts ++ [(id, e)]))) ∧
    (∀ id e, (registered (attempts ++ [(id, e)])).entries =
      (registered attempts).entries ++ if id ∈ attempts.map Prod.fst then [] else [(id, e)]) ∧
    (registered attempts).KeptIn (Yaml.Block.mapping (registered attempts).blocks).value ∧
    ∀ (files : FileTree) (path : Path),
      files.entry path = .octets (registered attempts).write.toUTF8.data.toList →
      Yaml.Block.ReadsBack (registered attempts).blocks →
      load files path = .ok (registered attempts) := by
  refine ⟨fun id e ↦ ?_, fun id e ↦ ?_, keptIn_blocks _, fun files path ↦ load_write⟩
  · split
    · rename_i hgiven
      exact register_of_mem (mem_ids_registered.2 hgiven) e
    · rename_i hnew
      obtain ⟨c', hregister, -⟩ := register_of_not_mem (mt mem_ids_registered.1 hnew) e
      rw [hregister, registered_concat, attempt, hregister]
  · simp only [registered_concat, entries_attempt, mem_ids_registered]

namespace OneRepeated

def attempts : List (String × ContractEntry) :=
  [("no", ⟨"", "d", "", .skipped, true⟩), ("t", ⟨"n", "", "", .active, false⟩),
    ("no", ⟨"n", "d", "", .active, false⟩)]

def path : Path :=
  .ofString "contracts.yaml"

def files : FileTree :=
  ⟨.ofString "/work",
    [(["work", "contracts.yaml"], .octets (registered attempts).write.toUTF8.data.toList)]⟩

def tokens : List Yaml.Token :=
  [.blockMappingStart, .key, .scalar "contracts" true, .value,
    .blockMappingStart, .key, .scalar "no" false, .value,
    .blockMappingStart, .key, .scalar "name" true, .value, .scalar "" false,
    .key, .scalar "description" true, .value, .scalar "d" true,
    .key, .scalar "status" true, .value, .scalar "skipped" true,
    .key, .scalar "experimental" true, .value, .scalar "true" true, .blockEnd,
    .key, .scalar "t" true, .value,
    .blockMappingStart, .key, .scalar "name" true, .value, .scalar "n" true,
    .key, .scalar "description" true, .value, .scalar "" false, .blockEnd,
    .blockEnd, .blockEnd, .streamEnd]

def tree : Yaml.Node :=
  .mapping .plain [(.scalar .plain "contracts", .mapping .plain [
    (.scalar .quoted "no", .mapping .plain [
      (.scalar .plain "name", .scalar .quoted ""),
      (.scalar .plain "description", .scalar .plain "d"),
      (.scalar .plain "status", .scalar .plain "skipped"),
      (.scalar .plain "experimental", .scalar .plain "true")]),
    (.scalar .plain "t", .mapping .plain [
      (.scalar .plain "name", .scalar .plain "n"),
      (.scalar .plain "description", .scalar .quoted "")])])]

theorem scan_document :
    Yaml.scan (Yaml.Block.document (registered attempts).blocks).toList = .ok tokens := by
  decide +kernel

theorem plainKind_words :
    (∀ word ∈ ["contracts", "name", "description", "d", "status", "skipped", "experimental", "t",
      "n"], Yaml.plainKind word = .text) ∧ Yaml.plainKind "true" = .bool := by
  decide +kernel

theorem valueOf_tree :
    Yaml.valueOf tree = .ok (Yaml.Block.mapping (registered attempts).blocks).value := by
  have hwords := plainKind_words
  have htrue : Yaml.Spelling.readBool "true" = .ok true := rfl
  simp only [List.forall_mem_cons] at hwords
  simp only [tree, Yaml.valueOf, Yaml.mergedEntries, Yaml.splitEntries, Yaml.asKey,
    Yaml.Node.kind?, Yaml.scalarValue, hwords, htrue]
  rfl

theorem readsBack_blocks : Yaml.Block.ReadsBack (registered attempts).blocks := by
  rw [Yaml.Block.ReadsBack, Yaml.read, scan_document]
  exact valueOf_tree

theorem load_of_repeated_attempt :
    (registered attempts).entries = attempts.take 2 ∧
    files.entry path = .octets (registered attempts).write.toUTF8.data.toList ∧
    Yaml.Block.ReadsBack (registered attempts).blocks ∧
    load files path = .ok (registered attempts) :=
  ⟨rfl, rfl, readsBack_blocks, (load_registered attempts).2.2.2 files path rfl readsBack_blocks⟩

end OneRepeated

end Catalog

end GraphContracts
