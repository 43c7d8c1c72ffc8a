import GraphContracts.Proofs.Catalog

namespace GraphContracts

open Schema

theorem Schema.settled_refuseExtra (fields : List String) (es : Entries) :
    (refuseExtra fields es).Settled := by
  unfold refuseExtra
  generalize List.filterMap _ es = issues
  cases issues with
  | nil => exact .valid () not_false
  | cons issue more => exact .invalid issue more not_false

theorem ContractEntry.settled_ofItem (raw : Datum) : (ContractEntry.ofItem raw).Settled := by
  refine settled_record (fun es ↦ ?_) _ _
  refine Checked.settled_seq (Checked.settled_map ?_ _) (settled_refuseExtra fields es)
  repeat' apply Checked.settled_seq
  all_goals simp

theorem Datum.shown_of_isShown {d : Datum} (h : d.isShown = true) : d.shown = .ok d.display :=
  if_pos h

theorem Datum.shown_of_not_isShown {d : Datum} (h : d.isShown = false) :
    d.shown = .error (.argument longIntegerMessage) := by
  simp [shown, h]

namespace Catalog

section

variable {c : Catalog} {before : Entries} {files : FileTree} {path : Path} {content : String}

/-- An item of a table is taken as an entry: its key has a text, which is the id. -/
structure TakenAs (item : Datum × Datum) (entry : String × ContractEntry) : Prop where
  shown : item.1.isShown = true
  id : entry.1 = item.1.display
  valid : ContractEntry.ofItem item.2 = .valid entry.2

/-- Why an item cannot be registered behind tests with `ids`, and the fault that ends the loading
there. Only the first is announced. -/
inductive Stops (ids : List String) (key raw : Datum) : Fault → Prop
  | invalid (issue : Issue) (more : List Issue) : key.isShown = true → raw.isShown = true →
    ContractEntry.ofItem raw = .invalid (issue :: more) →
    Stops ids key raw
      (.failure (.configValue s!"contracts.{key.display}" raw issue.cause.message))
  | repeated (e : ContractEntry) : key.isShown = true → ContractEntry.ofItem raw = .valid e →
    key.display ∈ ids →
    Stops ids key raw (.argument s!"Contract test already registered: {key.display}")
  | longKey : key.isShown = false → Stops ids key raw (.argument Datum.longIntegerMessage)
  | longItem (issue : Issue) (more : List Issue) : raw.isShown = false →
    ContractEntry.ofItem raw = .invalid (issue :: more) →
    Stops ids key raw (.argument Datum.longIntegerMessage)

theorem registerDatum_cases (c : Catalog) (key raw : Datum) :
    (∃ c' entry, c.registerDatum key raw = .ok c' ∧ c'.entries = c.entries ++ [entry] ∧
      TakenAs (key, raw) entry) ∨
    ∃ fault, c.registerDatum key raw = .error fault ∧
      Stops (c.entries.map Prod.fst) key raw fault := by
  have hsettled := ContractEntry.settled_ofItem raw
  cases hraw : ContractEntry.ofItem raw with
  | valid e =>
    cases hkey : key.isShown with
    | false =>
      -- a key without a text is told before anything else
      refine .inr ⟨_, ?_, .longKey hkey⟩
      simp only [registerDatum, hraw, Datum.shown_of_not_isShown hkey]
      rfl
    | true =>
      rw [registerDatum_of_shown hkey hraw]
      by_cases hmem : key.display ∈ c.entries.map Prod.fst
      · exact .inr ⟨_, register_of_mem hmem e, .repeated e hkey hraw hmem⟩
      · obtain ⟨c', hregister, hentries⟩ := register_of_not_mem hmem e
        exact .inl ⟨c', _, hregister, hentries, hkey, rfl, hraw⟩
  | invalid issues =>
    rw [hraw] at hsettled
    obtain - | ⟨issue, more, -⟩ := hsettled
    refine .inr ?_
    cases hkey : key.isShown with
    | false =>
      refine ⟨_, ?_, .longKey hkey⟩
      simp only [registerDatum, hraw, Datum.shown_of_not_isShown hkey]
      rfl
    | true =>
      cases hshown : raw.isShown with
      | false =>
        refine ⟨_, ?_, .longItem issue more hshown hraw⟩
        simp only [registerDatum, hraw, Datum.shown_of_isShown hkey, Fault.configValue,
          Datum.shown_of_not_isShown hshown]
        rfl
      | true =>
        refine ⟨_, ?_, .invalid issue more hkey hshown hraw⟩
        simp only [registerDatum, hraw, Datum.shown_of_isShown hkey, Fault.configValue,
          Datum.shown_of_isShown hshown]
        rfl
  | aborted cause =>
    rw [hraw] at hsettled
    cases hsettled with
    | aborted h => exact h.elim

/-- How registering the items of a table ends: all of them are taken, or those before the first that
cannot be registered. -/
inductive Ends (items : Entries) : Except Fault Catalog → Prop
  | catalog (c : Catalog) : List.Forall₂ TakenAs items c.entries → Ends items (.ok c)
  | stopped (before after : Entries) (key raw : Datum) (c : Catalog) (fault : Fault) :
    items = before ++ (key, raw) :: after → List.Forall₂ TakenAs before c.entries →
    Stops (c.entries.map Prod.fst) key raw fault → Ends items (.error fault)

theorem ends_foldlM (htaken : List.Forall₂ TakenAs before c.entries) (items : Entries) :
    Ends (before ++ items) (items.foldlM (fun c (key, raw) ↦ c.registerDatum key raw) c) := by
  -- `before` are the items taken so far, and `c` holds just what they gave
  induction items generalizing c before with
  | nil => exact .catalog c (by rwa [List.append_nil])
  | cons item items ih =>
    obtain ⟨key, raw⟩ := item
    rw [List.foldlM_cons]
    rcases registerDatum_cases c key raw with
      ⟨c', entry, hregister, hentries, hitem⟩ | ⟨fault, hregister, hstops⟩
    · have hnow : List.Forall₂ TakenAs (before ++ [(key, raw)]) c'.entries := by
        rw [hentries]
        exact List.rel_append htaken (.cons hitem .nil)
      have hrest := ih hnow
      rw [List.append_assoc] at hrest
      simp only [hregister]
      exact hrest
    · simp only [hregister]
      exact .stopped before items key raw c fault rfl htaken hstops

/-- How the loading of a file ends, by the value in its text. -/
inductive Loads (path : Path) : Except Yaml.Fault Datum → Except Fault Catalog → Prop
  | malformed : Loads path (.error .malformed)
    (.error (.failure (.configParse (toString path) Documents.yamlReason)))
  | noTable (d : Datum) : tests? d = none → Loads path (.ok d)
    (.error (.failure (.configParse (toString path) "expected a 'contracts' mapping")))
  | table (d : Datum) (items : Entries) (result : Except Fault Catalog) :
    tests? d = some items → Ends items result → Loads path (.ok d) result

theorem Loads.faults {read : Except Yaml.Fault Datum}
    {result : Except Fault Catalog} (h : Loads path read result) :
    (∃ c, result = .ok c) ∨ (∃ f, result = .error (.failure f) ∧ f.family = .config) ∨
      ∃ message, result = .error (.argument message) := by
  cases h with
  | malformed => exact .inr (.inl ⟨_, rfl, rfl⟩)
  | noTable => exact .inr (.inl ⟨_, rfl, rfl⟩)
  | table d items result _ hends =>
    cases hends with
    | catalog c _ => exact .inl ⟨c, rfl⟩
    | stopped before after key raw c fault _ _ hstops =>
      cases hstops with
      | invalid => exact .inr (.inl ⟨_, rfl, rfl⟩)
      | repeated | longKey | longItem => exact .inr (.inr ⟨_, rfl⟩)

theorem load_of_malformed (hfile : files.entry path = .octets content.toUTF8.data.toList)
    (hread : Yaml.read (Text.Utf8.normalizeNewlines content.toList) = .error .malformed) :
    load files path =
      .error (.failure (.configParse (toString path) Documents.yamlReason)) := by
  have htext := Text.Utf8.readText_eq_ok_iff.2 ⟨content, rfl, rfl⟩
  simp only [load, Documents.readText, hfile, htext, Documents.parseYaml, String.toList_ofList,
    hread]
  rfl

theorem ofDatum_of_tests {d : Datum} {items : Entries} (h : tests? d = some items) :
    ofDatum path d = items.foldlM (fun c (key, raw) ↦ c.registerDatum key raw) empty := by
  rw [ofDatum, h]

/-- Whatever a readable file holds, as long as its text is read as a value or is malformed, it is
loaded as a catalog of all its items or refused with an announced error, unless the first item that
stands in the way is a test under the text of an earlier key or holds an integer without a text. -/
theorem load_loads (hfile : files.entry path = .octets content.toUTF8.data.toList)
    (hyaml : ∀ fault, Yaml.read (Text.Utf8.normalizeNewlines content.toList) = .error fault →
      fault = .malformed) :
    Loads path (Yaml.read (Text.Utf8.normalizeNewlines content.toList)) (load files path) ∧
    ((∃ c, load files path = .ok c) ∨
      (∃ f, load files path = .error (.failure f) ∧ f.family = .config) ∨
      ∃ message, load files path = .error (.argument message)) := by
  have hloads : Loads path (Yaml.read (Text.Utf8.normalizeNewlines content.toList))
      (load files path) := by
    cases hread : Yaml.read (Text.Utf8.normalizeNewlines content.toList) with
    | error fault =>
      obtain rfl := hyaml fault hread
      rw [load_of_malformed hfile hread]
      exact .malformed
    | ok d =>
      rw [load_of_read hfile hread]
      cases htests : tests? d with
      | none =>
        rw [ofDatum, htests]
        exact .noTable d htests
      | some items =>
        have hnone : List.Forall₂ TakenAs [] empty.entries := .nil
        rw [ofDatum_of_tests htests]
        exact .table d items _ htests (ends_foldlM hnone items)
  exact ⟨hloads, hloads.faults⟩

end

namespace OneText

def content : String :=
  "contracts:\n  1:\n    name: a\n    description: b\n" ++
    "  \x221\x22:\n    name: c\n    description: d\n"

def path : Path :=
  .ofString "contracts.yaml"

def files : FileTree :=
  ⟨.ofString "/work", [(["work", "contracts.yaml"], .octets content.toUTF8.data.toList)]⟩

def entry (name description : String) : Datum :=
  .map [(.text "name", .text name), (.text "description", .text description)]

def items : Entries :=
  [(.int 1, entry "a" "b"), (.text "1", entry "c" "d")]

def entryTokens (name description : String) : List Yaml.Token :=
  [.blockMappingStart, .key, .scalar "name" true, .value, .scalar name true,
    .key, .scalar "description" true, .value, .scalar description true, .blockEnd]

def tokens : List Yaml.Token :=
  [.blockMappingStart, .key, .scalar "contracts" true, .value, .blockMappingStart,
    .key, .scalar "1" true, .value] ++ entryTokens "a" "b" ++
  [.key, .scalar "1" false, .value] ++ entryTokens "c" "d" ++ [.blockEnd, .blockEnd, .streamEnd]

def entryNode (name description : String) : Yaml.Node :=
  .mapping .plain [(.scalar .plain "name", .scalar .plain name),
    (.scalar .plain "description", .scalar .plain description)]

def tree : Yaml.Node :=
  .mapping .plain [(.scalar .plain "contracts", .mapping .plain
    [(.scalar .plain "1", entryNode "a" "b"), (.scalar .quoted "1", entryNode "c" "d")])]

theorem scan_content : Yaml.scan content.toList = .ok tokens := by
  decide +kernel

theorem plainKind_words :
    (∀ word ∈ ["contracts", "name", "description", "a", "b", "c", "d"],
      Yaml.plainKind word = .text) ∧ Yaml.plainKind "1" = .int := by
  decide +kernel

theorem valueOf_tree : Yaml.valueOf tree = .ok (.map [(.text "contracts", .map items)]) := by
  have hwords := plainKind_words
  have hone : Yaml.Spelling.readInt "1" = .ok 1 := by rfl
  simp only [List.forall_mem_cons] at hwords
  simp only [tree, entryNode, Yaml.valueOf, Yaml.mergedEntries, Yaml.splitEntries, Yaml.asKey,
    Yaml.Node.kind?, Yaml.scalarValue, hwords, hone]
  rfl

theorem read_content : Yaml.read (Text.Utf8.normalizeNewlines content.toList) =
    .ok (.map [(.text "contracts", .map items)]) := by
  have hplain : Text.Utf8.normalizeNewlines content.toList = content.toList :=
    Text.Utf8.normalizeNewlines_eq_self (by decide)
  rw [hplain, Yaml.read, scan_content]
  exact valueOf_tree

theorem load_of_one_text :
    load files path = .error (.argument "Contract test already registered: 1") := by
  have htests : tests? (.map [(.text "contracts", .map items)]) = some items := rfl
  have hnumber : (Datum.int 1).isShown = true := by decide +kernel
  have hone : (Datum.int 1).display = "1" := by decide
  have hfirst : ContractEntry.ofItem (entry "a" "b") = .valid ⟨"a", "b", "", .active, false⟩ := rfl
  have hsecond : ContractEntry.ofItem (entry "c" "d") = .valid ⟨"c", "d", "", .active, false⟩ := rfl
  have hnew : "1" ∉ empty.entries.map Prod.fst := nofun
  obtain ⟨c, hregister, hentries⟩ := register_of_not_mem hnew ⟨"a", "b", "", .active, false⟩
  have hmem : (Datum.text "1").display ∈ c.entries.map Prod.fst := by
    rw [hentries]
    exact List.mem_singleton.2 rfl
  rw [load_of_read rfl read_content, ofDatum_of_tests htests]
  simp only [items, List.foldlM_cons, List.foldlM_nil, registerDatum_of_shown hnumber hfirst, hone,
    hregister]
  show c.registerDatum (.text "1") (entry "c" "d") >>= pure = _
  rw [registerDatum_of_shown rfl hsecond, register_of_mem hmem]
  rfl

theorem loads_of_one_text : files.entry path = .octets content.toUTF8.data.toList ∧
    Loads path (Yaml.read (Text.Utf8.normalizeNewlines content.toList)) (load files path) := by
  have hyaml : ∀ fault, Yaml.read (Text.Utf8.normalizeNewlines content.toList) = .error fault →
      fault = .malformed := by
    rw [read_content]
    nofun
  exact ⟨rfl, (load_loads rfl hyaml).1⟩

end OneText

end Catalog

end GraphContracts
