import GraphContracts.Config.Load
import GraphContracts.Proofs.Config.Taken
import GraphContracts.Proofs.Roles
import GraphContracts.Proofs.Text.Utf8
import GraphContracts.Proofs.Yaml.Distinct

namespace GraphContracts

open Schema

namespace Config

open Environment

variable {es : Entries} {name key : String}

/-- All keys are names of sections. -/
def OfSections (es : Entries) : Prop :=
  ∀ e ∈ es, ∃ s ∈ Section.all, e.1 = .text s.name

theorem lower_name : ∀ s ∈ Section.all, Text.lower s.name = s.name := by
  decide +kernel

theorem spelledName?_of_sections (h : OfSections es) (name : String) :
    spelledName? es name = if Entries.has name es then some name else none := by
  rw [spelledName?]
  split
  · rfl
  · rename_i hmissing
    rw [List.findSome?_eq_none_iff]
    intro e he
    obtain ⟨s, hs, hkey⟩ := h e he
    obtain ⟨k, v⟩ := e
    obtain rfl : k = .text s.name := hkey
    have hne : s.name ≠ name := by
      rintro rfl
      exact hmissing (Entries.has_of_mem he)
    simp only [lower_name s hs, if_neg hne]

def present (es : Entries) : List (String × String) :=
  sectionNames.filterMap fun name ↦ if Entries.has name es then some (name, name) else none

theorem filterMap_spelledName? (h : OfSections es) :
    (sectionNames.filterMap fun name ↦ (spelledName? es name).map (·, name)) = present es := by
  refine List.filterMap_congr fun name _ ↦ ?_
  rw [spelledName?_of_sections h]
  split <;> rfl

theorem filter_unknown (h : OfSections es) :
    (es.filter fun (k, _) ↦ !((present es).any fun (n, _) ↦ k.sameKey (.text n))) = [] := by
  rw [List.filter_eq_nil_iff]
  rintro ⟨k, v⟩ he
  obtain ⟨s, hs, hkey⟩ := h _ he
  obtain rfl : k = .text s.name := hkey
  have hpresent : (s.name, s.name) ∈ present es :=
    List.mem_filterMap.2 ⟨s.name, List.mem_map_of_mem hs, if_pos (Entries.has_of_mem he)⟩
  rw [Bool.not_eq_true', Bool.not_eq_false, List.any_eq_true]
  exact ⟨_, hpresent, decide_eq_true rfl⟩

theorem spellSections_of_sections (h : OfSections es) :
    spellSections es = Section.sectioned Section.all fun s ↦ es.get? s.name := by
  rw [spellSections, filterMap_spelledName? h]
  show (present es).filterMap _ ++ List.filter _ es = _
  rw [filter_unknown h, List.append_nil, present, List.filterMap_filterMap, sectionNames,
    List.filterMap_map, Section.sectioned]
  refine List.filterMap_congr fun s _ ↦ ?_
  rw [Function.comp_apply]
  by_cases hhas : Entries.has s.name es = true
  · rw [if_pos hhas]
    rfl
  · have hnone : es.get? s.name = none := Option.not_isSome_iff_eq_none.1 hhas
    rw [if_neg hhas, hnone]
    rfl

theorem get?_spellSections (h : OfSections es) {s : Section} (hs : s ∈ Section.all) :
    (spellSections es).get? s.name = es.get? s.name := by
  rw [spellSections_of_sections h]
  exact Section.get?_sectioned _ (by decide) hs

theorem at?_spellSections (h : OfSections es) {s : Section} (hs : s ∈ Section.all) (key : String) :
    (spellSections es).at? s.name key = es.at? s.name key := by
  rw [Entries.at?, Entries.at?, get?_spellSections h hs]

theorem mem_of_get?_spellSections {d : Datum} (h : OfSections es)
    (hd : (spellSections es).get? name = some d) : es.get? name = some d := by
  rw [spellSections_of_sections h] at hd
  obtain ⟨s, -, d', hd', heq⟩ := Section.mem_sectioned.1 (Entries.mem_of_get? hd)
  cases heq
  exact hd'

theorem sectioned_spellSections (h : OfSections es) (hes : es.Sectioned) :
    (spellSections es).Sectioned :=
  fun name d hd ↦ hes name d (mem_of_get?_spellSections h hd)

theorem layer_spellSections (h : OfSections es) (hes : es.Layer) : (spellSections es).Layer := by
  refine ⟨?_, fun name d hd ↦ hes.sections name d (mem_of_get?_spellSections h hd)⟩
  rw [spellSections_of_sections h]
  exact Section.apart_sectioned _ (by decide)

theorem at?_sources {told given file : Entries} {s : Section} (hs : s ∈ Section.all)
    (hfile : OfSections file) (hfileMaps : file.Sectioned) (htold : told.Layer)
    (hgiven : OfSections given) (hgivenMaps : given.Layer) (key : String) :
    (Entries.over (spellSections file) (Entries.over told (spellSections given))).at? s.name key =
      Datum.overlaid (file.at? s.name key)
        (Datum.overlaid (told.at? s.name key) (given.at? s.name key)) := by
  have hupper := layer_spellSections hgiven hgivenMaps
  rw [Entries.at?_over (sectioned_spellSections hfile hfileMaps) (htold.over hupper),
    Entries.at?_over htold.sectioned hupper, at?_spellSections hfile hs,
    at?_spellSections hgiven hs]

/-- What the first source that sets a key has there. -/
def first (vars : List (String × String)) (given file : Entries) (name key : String) :
    Option Datum :=
  (given.at? name key).or (((textOf vars ("callcontract__" ++ name ++ "__" ++ key)).map .text).or
    (file.at? name key))

/-- The flags that a source sets. -/
def flagsIn (es : Entries) : Entries :=
  Datum.inner (es.at? "roles" "flags")

/-- The values of a configuration and where they come from. The flags are those of the combined
sources; a role that is spelled once in each of them comes from the first that has it. -/
structure Precedence (vars : List (String × String)) (home : Path) (given file : Entries)
    (c : Config) : Prop where
  level : Taken (choice .literal Level.options) .info (first vars given file "logging" "level")
    c.logging.level
  outputs : Taken (items .list (LogOutput.ofDatum home)) [.standard]
    ((given.at? "logging" "outputs").or (file.at? "logging" "outputs")) c.logging.outputs
  outputDir : Taken text "./output" (first vars given file "data" "output_dir") c.data.outputDir
  callsJson : Taken text "calls.json" (first vars given file "data" "calls_json") c.data.callsJson
  indexJson : Taken (nullable text) (some "index.scip.json")
    (first vars given file "data" "scip_json") c.data.indexJson
  experimental : Taken boolean false (first vars given file "data" "experimental")
    c.data.experimental
  flags : Taken (mapping integer) RoleSchema.defaultFlags
    (Datum.overlaid (file.at? "roles" "flags") (given.at? "roles" "flags")) c.roles.flags
  roleByRole : (given.at? "roles" "flags").isSome ∨ (file.at? "roles" "flags").isSome →
    ∀ role, SpelledOnce (flagsIn given) role → SpelledOnce (flagsIn file) role →
      Taken (fun d ↦ (integer d).map some) none
        (((flagsIn given).get? role).or ((flagsIn file).get? role)) (c.roles.flags.lookup role)
  definitionRole : Taken text "Definition" (first vars given file "roles" "definition_role")
    c.roles.definitionRole
  referenceMask : Taken integer 14 (first vars given file "roles" "reference_mask")
    c.roles.referenceMask
  bareIsReference : Taken boolean true (first vars given file "roles" "bare_is_reference")
    c.roles.bareIsReference

theorem ofEntries_of_ofSources {c : Config} {home : Path} (h : ofSources home es = .ok c) :
    ofEntries home es = .valid c := by
  rw [ofSources] at h
  split at h
  · cases h
  · split at h
    · rename_i c' hvalid
      cases h
      obtain ⟨f, u, hf, -, rfl⟩ := Checked.seq_eq_valid.1 hvalid
      obtain ⟨c', hc', rfl⟩ := Checked.map_eq_valid.1 hf
      exact hc'
    · cases h
    · split at h <;> cases h

theorem exists_sections {c : Config} {home : Path} (h : ofSources home es = .ok c) :
    (∃ inner, LoggingConfig.ofEntries home inner = .valid c.logging ∧
      ∀ key, Entries.get? key inner = es.at? "logging" key) ∧
    (∃ inner, DataConfig.ofEntries inner = .valid c.data ∧
      ∀ key, Entries.get? key inner = es.at? "data" key) ∧
    ∃ inner, RoleSchema.ofEntries inner = .valid c.roles ∧
      ∀ key, Entries.get? key inner = es.at? "roles" key := by
  have hparts := ofEntries_of_ofSources h
  simp only [ofEntries, Functor.map, Seq.seq, Checked.seq_eq_valid, Checked.map_eq_valid] at hparts
  obtain ⟨_, roles, ⟨_, data, ⟨logging, hlogging, rfl⟩, hdata, rfl⟩, hroles, rfl⟩ := hparts
  exact ⟨exists_of_section rfl hlogging, exists_of_section rfl hdata,
    exists_of_section rfl hroles⟩

theorem readFile_of_read {files : FileTree} {root : Path} {file : Entries} {content : String}
    (hfile : files.entry (root.join fileName) = .octets content.toUTF8.data.toList)
    (hread : Yaml.read (Text.Utf8.normalizeNewlines content.toList) = .ok (.map file)) :
    readFile files root = .ok file := by
  have htext := Text.Utf8.readText_eq_ok_iff.2 ⟨content, rfl, rfl⟩
  simp only [readFile, hfile, Documents.readText, htext, Option.getD_some, Documents.parseYaml,
    String.toList_ofList, hread]
  rfl

theorem distinct_of_readFile {files : FileTree} {root : Path} {file : Entries}
    (h : readFile files root = .ok file) : (Datum.map file).Distinct := by
  rw [readFile] at h
  split at h
  · split at h
    · cases h
    · obtain ⟨d, hparse, hd⟩ := bind_eq_ok_iff.1 h
      have hdistinct := Yaml.distinct_of_read (mapError_eq_ok_iff.1 hparse)
      cases d with
      | map es =>
        cases hd
        exact hdistinct
      | null =>
        cases hd
        exact .map_nil
      | _ => cases hd
  · cases h
    exact .map_nil

theorem load_eq_bind (files : FileTree) (root : Path) (env : Environment) (given : Entries) :
    load files root env given =
      (readFile files root).bind fun file ↦ resolve env given (some file) := by
  rw [load, loadIn]
  cases readFile files root <;> rfl

theorem loadIn_eq (r : Request) (ambient : Ambient) :
    (loadIn r).run ambient = (load r.files r.root r.env r.given, ambient) := by
  rw [load_eq_bind, loadIn]
  cases readFile r.files r.root <;> rfl

theorem mapM_loadIn (requests : List Request) (ambient : Ambient) :
    (requests.mapM loadIn).run ambient =
      (requests.map fun r ↦ load r.files r.root r.env r.given, ambient) := by
  induction requests with
  | nil => rfl
  | cons r requests ih =>
    rw [List.mapM_cons, StateT.run_bind, loadIn_eq]
    show (requests.mapM loadIn >>= fun rest ↦ pure (_ :: rest)).run ambient = _
    rw [StateT.run_bind, ih]
    rfl

/-- What `sources` have under each key: what the three sources have there, laid over each other. A
variable counts where its key holds a single value. -/
def Combines (vars : List (String × String)) (given file sources : Entries) : Prop :=
  ∀ s ∈ Section.all, ∀ key, sources.at? s.name key =
    Datum.overlaid (file.at? s.name key) (Datum.overlaid
      (if s.IsScalar key then (textOf vars (s.keyVariable key)).map .text else none)
      (given.at? s.name key))

/-- A request whose variables each set one key that holds a single value, and whose file and whose
sections handed over are all known sections, each of them a mapping. -/
structure Request.Plain (r : Request) (home : Path) (vars : List (String × String))
    (file : Entries) : Prop where
  environment : r.env = ofList home vars
  plainVars : ∀ v ∈ vars, IsPlain (Text.lower v.1)
  project : readFile r.files r.root = .ok file
  fileSections : OfSections file
  fileMaps : file.Sectioned
  givenSections : OfSections r.given
  givenMaps : r.given.Sectioned
  distinct : (Datum.map r.given).Distinct

section

variable {r : Request} {home : Path} {vars : List (String × String)}
  {given file sources : Entries} {c : Config}

theorem exists_sources (h : r.Plain home vars file)
    (hload : load r.files r.root r.env r.given = .ok c) :
    ∃ sources, ofSources home sources = .ok c ∧ Combines vars r.given file sources := by
  obtain ⟨said, hsaid, hsaidLayer, htold⟩ :=
    exists_entries (isPlain_ofList home h.plainVars) (nodup_ofList home vars)
  have hgivenLayer := h.distinct.layer h.givenMaps
  refine ⟨Entries.over (spellSections file) (Entries.over said (spellSections r.given)), ?_,
    fun s hs key ↦ ?_⟩
  · rw [load_eq_bind, h.project, h.environment] at hload
    simp only [Except.bind, resolve, hsaid] at hload
    exact hload
  · rw [at?_sources hs h.fileSections h.fileMaps hsaidLayer h.givenSections hgivenLayer,
      htold s hs, told, lookup_ofList]

variable {α : Type} {read : Datum → Checked α} {default a : α}

theorem taken_of_scalar (hsources : Combines vars given file sources)
    (hkey : ∃ s ∈ Section.all, s.name = name ∧ s.IsScalar key)
    (hmap : ∀ es, read (.map es) ≠ .valid a)
    (h : Taken read default (sources.at? name key) a) :
    Taken read default (first vars given file name key) a := by
  obtain ⟨s, hs, rfl, hscalar⟩ := hkey
  rw [hsources s hs, if_pos hscalar] at h
  refine Datum.taken_first hmap (fun d hd ↦ ?_) h
  obtain ⟨value, -, rfl⟩ := Option.map_eq_some_iff.1 hd
  exact ⟨value, rfl⟩

theorem at?_of_nested (hsources : Combines vars given file sources)
    (hkey : ∃ s ∈ Section.all, s.name = name ∧ ¬s.IsScalar key) :
    sources.at? name key = Datum.overlaid (file.at? name key) (given.at? name key) := by
  obtain ⟨s, hs, rfl, hnested⟩ := hkey
  rw [hsources s hs, if_neg hnested, Datum.none_overlaid]

theorem taken_logging (hsources : Combines vars given file sources)
    (h : ∃ es, LoggingConfig.ofEntries home es = .valid c.logging ∧
      ∀ key, Entries.get? key es = sources.at? "logging" key) :
    Taken (choice .literal Level.options) .info (first vars given file "logging" "level")
        c.logging.level ∧
      Taken (items .list (LogOutput.ofDatum home)) [.standard]
        ((given.at? "logging" "outputs").or (file.at? "logging" "outputs")) c.logging.outputs := by
  obtain ⟨es, hvalid, hkeys⟩ := h
  simp only [LoggingConfig.ofEntries, Functor.map, Seq.seq, Checked.seq_eq_valid,
    Checked.map_eq_valid] at hvalid
  obtain ⟨_, outputs, ⟨level, hlevel, rfl⟩, houtputs, hlogging⟩ := hvalid
  rw [← hlogging]
  constructor
  · have htaken := taken_of_withDefault hlevel
    rw [hkeys] at htaken
    exact taken_of_scalar hsources (by decide) (fun _ h ↦ by cases h) htaken
  · have htaken := taken_of_withDefault houtputs
    rw [hkeys, at?_of_nested hsources (by decide),
      ← Datum.none_overlaid (given.at? "logging" "outputs")] at htaken
    exact Datum.taken_first (fun _ h ↦ by cases h) (by rintro d ⟨⟩) htaken

theorem taken_data (hsources : Combines vars given file sources)
    (h : ∃ es, DataConfig.ofEntries es = .valid c.data ∧
      ∀ key, Entries.get? key es = sources.at? "data" key) :
    (Taken text "./output" (first vars given file "data" "output_dir") c.data.outputDir ∧
      Taken text "calls.json" (first vars given file "data" "calls_json") c.data.callsJson) ∧
    Taken (nullable text) (some "index.scip.json") (first vars given file "data" "scip_json")
        c.data.indexJson ∧
      Taken boolean false (first vars given file "data" "experimental") c.data.experimental := by
  obtain ⟨es, hvalid, hkeys⟩ := h
  simp only [DataConfig.ofEntries, Functor.map, Seq.seq, Checked.seq_eq_valid,
    Checked.map_eq_valid] at hvalid
  obtain ⟨_, experimental, ⟨_, indexJson, ⟨_, callsJson, ⟨outputDir, houtput, rfl⟩, hcalls, rfl⟩,
    hindex, rfl⟩, hexperimental, hdata⟩ := hvalid
  have houtput := taken_of_withDefault houtput
  have hcalls := taken_of_withDefault hcalls
  have hindex := taken_of_withDefault hindex
  have hexperimental := taken_of_withDefault hexperimental
  rw [hkeys] at houtput hcalls hindex hexperimental
  rw [← hdata]
  exact ⟨⟨taken_of_scalar hsources (by decide) (fun _ h ↦ by cases h) houtput,
      taken_of_scalar hsources (by decide) (fun _ h ↦ by cases h) hcalls⟩,
    taken_of_scalar hsources (by decide) (fun _ h ↦ by cases h) hindex,
    taken_of_scalar hsources (by decide) (fun _ h ↦ by cases h) hexperimental⟩

theorem taken_roles (hsources : Combines vars given file sources)
    (h : ∃ es, RoleSchema.ofEntries es = .valid c.roles ∧
      ∀ key, Entries.get? key es = sources.at? "roles" key) :
    Taken (mapping integer) RoleSchema.defaultFlags
        (Datum.overlaid (file.at? "roles" "flags") (given.at? "roles" "flags")) c.roles.flags ∧
    Taken text "Definition" (first vars given file "roles" "definition_role")
        c.roles.definitionRole ∧
    Taken integer 14 (first vars given file "roles" "reference_mask") c.roles.referenceMask ∧
    Taken boolean true (first vars given file "roles" "bare_is_reference")
        c.roles.bareIsReference := by
  obtain ⟨es, hvalid, hkeys⟩ := h
  have htypes := (RoleSchema.ofDatum_map_eq_valid.1 hvalid).1
  simp only [RoleSchema.readTypes, Functor.map, Seq.seq, Checked.seq_eq_valid,
    Checked.map_eq_valid] at htypes
  obtain ⟨_, bare, ⟨_, mask, ⟨_, definition, ⟨flags, hflags, rfl⟩, hdefinition, rfl⟩, hmask, rfl⟩,
    hbare, hroles⟩ := htypes
  have hflags := taken_of_withDefault hflags
  have hdefinition := taken_of_withDefault hdefinition
  have hmask := taken_of_withDefault hmask
  have hbare := taken_of_withDefault hbare
  rw [hkeys] at hflags hdefinition hmask hbare
  rw [at?_of_nested hsources (by decide)] at hflags
  rw [← hroles]
  exact ⟨hflags, taken_of_scalar hsources (by decide) (fun _ h ↦ by cases h) hdefinition,
    taken_of_scalar hsources (by decide) (fun _ h ↦ by cases h) hmask,
    taken_of_scalar hsources (by decide) (fun _ h ↦ by cases h) hbare⟩

theorem apart_flagsIn {es : Entries} (h : (Datum.map es).Distinct) : (flagsIn es).Apart := by
  rw [flagsIn]
  cases hflags : es.at? "roles" "flags" with
  | none => exact .nil
  | some d =>
    cases d with
    | map flags => exact (h.of_at? hflags).apart
    | _ => exact .nil

theorem precedence_of_load (h : r.Plain home vars file)
    (hload : load r.files r.root r.env r.given = .ok c) :
    Precedence vars home r.given file c := by
  obtain ⟨sources, hsources, hcombines⟩ := exists_sources h hload
  obtain ⟨hlogging, hdata, hroles⟩ := exists_sections hsources
  obtain ⟨hlevel, houtputs⟩ := taken_logging hcombines hlogging
  obtain ⟨⟨houtputDir, hcallsJson⟩, hindexJson, hexperimental⟩ := taken_data hcombines hdata
  obtain ⟨hflags, hdefinition, hmask, hbare⟩ := taken_roles hcombines hroles
  refine ⟨hlevel, houtputs, houtputDir, hcallsJson, hindexJson, hexperimental, hflags,
    fun hset role hhigh hlow ↦ ?_, hdefinition, hmask, hbare⟩
  have hfile := apart_flagsIn (distinct_of_readFile h.project)
  have hgiven := apart_flagsIn h.distinct
  exact Datum.taken_of_tables hset ⟨hfile, hgiven⟩ hlow hhigh (fun es a h ↦ by cases h) hflags

end

/-- Loads leave each other alone, whatever their projects and however they end: each one gives what
it gives by itself. And a configuration that is loaded takes each value from the first source that
has it. -/
theorem load_resolves (requests : List Request) (ambient : Ambient) :
    (requests.mapM loadIn).run ambient =
      (requests.map fun r ↦ load r.files r.root r.env r.given, ambient) ∧
    ∀ r ∈ requests, ∀ {home : Path} {vars : List (String × String)} {file : Entries} {c : Config},
      r.Plain home vars file → load r.files r.root r.env r.given = .ok c →
        Precedence vars home r.given file c := by
  refine ⟨mapM_loadIn requests ambient, fun r _ home vars file c hplain hload ↦ ?_⟩
  exact precedence_of_load hplain hload

namespace TwoSpellings

def content : String :=
  "roles:\n  flags:\n    Definition: 1\n    Import: 2\n    !!binary SW1wb3J0: 8\n"

def root : Path :=
  .ofString "/proj"

def home : Path :=
  .ofString "/home"

def files : FileTree :=
  ⟨root, [(["proj", "callcontract.yaml"], .octets content.toUTF8.data.toList)]⟩

def withFlags (flags : Entries) : Entries :=
  [(.text "roles", .map [(.text "flags", .map flags)])]

def file : Entries :=
  withFlags [(.text "Definition", .int 1), (.text "Import", .int 2),
    (.bytes "Import".toUTF8.data.toList, .int 8)]

def given : Entries :=
  withFlags [(.text "Import", .int 4)]

def vars : List (String × String) :=
  [("CALLCONTRACT__DATA__CALLS_JSON", "graph.json")]

def roles : RoleSchema :=
  { RoleSchema.standard with flags := [("Definition", 1), ("Import", 8)] }

def tokens : List Yaml.Token :=
  [.blockMappingStart, .key, .scalar "roles" true, .value,
    .blockMappingStart, .key, .scalar "flags" true, .value,
    .blockMappingStart, .key, .scalar "Definition" true, .value, .scalar "1" true,
    .key, .scalar "Import" true, .value, .scalar "2" true,
    .key, .tag (some "!!") "binary", .scalar "SW1wb3J0" true, .value, .scalar "8" true,
    .blockEnd, .blockEnd, .blockEnd, .streamEnd]

def tree : Yaml.Node :=
  .mapping .plain [(.scalar .plain "roles", .mapping .plain [(.scalar .plain "flags",
    .mapping .plain [(.scalar .plain "Definition", .scalar .plain "1"),
      (.scalar .plain "Import", .scalar .plain "2"),
      (.scalar (.named "tag:yaml.org,2002:binary") "SW1wb3J0", .scalar .plain "8")])])]

theorem scan_content : Yaml.scan content.toList = .ok tokens := by
  decide +kernel

theorem plainKind_words : (∀ word ∈ ["roles", "flags", "Definition", "Import"],
    Yaml.plainKind word = .text) ∧ ∀ word ∈ ["1", "2", "8"], Yaml.plainKind word = .int := by
  decide +kernel

theorem valueOf_tree : Yaml.valueOf tree = .ok (.map file) := by
  have hwords := plainKind_words
  have hone : Yaml.Spelling.readInt "1" = .ok 1 := by rfl
  have htwo : Yaml.Spelling.readInt "2" = .ok 2 := by rfl
  have height : Yaml.Spelling.readInt "8" = .ok 8 := by rfl
  simp only [List.forall_mem_cons] at hwords
  simp only [tree, Yaml.valueOf, Yaml.mergedEntries, Yaml.splitEntries, Yaml.asKey,
    Yaml.Node.kind?, Yaml.scalarValue, hwords, hone, htwo, height]
  rfl

theorem readFile_files : readFile files root = .ok file := by
  have hplain : Text.Utf8.normalizeNewlines content.toList = content.toList :=
    Text.Utf8.normalizeNewlines_eq_self (by decide)
  have hread : Yaml.read (Text.Utf8.normalizeNewlines content.toList) = .ok (.map file) := by
    rw [hplain, Yaml.read, scan_content]
    exact valueOf_tree
  exact readFile_of_read rfl hread

theorem load_files (vars : List (String × String)) :
    load files root (ofList home vars) given = resolve (ofList home vars) given (some file) := by
  rw [load_eq_bind, readFile_files]
  rfl

theorem load_of_two_spellings :
    load files root (ofList home []) given = .ok { standard with roles := roles } ∧
      (flagsIn given).get? "Import" = some (.int 4) ∧ roles.flags.lookup "Import" = some 8 := by
  refine ⟨?_, rfl, rfl⟩
  rw [load_files]
  rfl

theorem ofSections_withFlags (flags : Entries) : OfSections (withFlags flags) :=
  List.forall_mem_singleton.2 ⟨_, .tail _ (.tail _ (.head _)), rfl⟩

theorem sectioned_withFlags (flags : Entries) : (withFlags flags).Sectioned := by
  intro name d hd
  cases List.mem_singleton.1 (Entries.mem_of_get? hd)
  exact ⟨_, rfl⟩

theorem distinct_given : (Datum.map given).Distinct := by
  have hflags : (Datum.map [(.text "Import", .int 4)]).Distinct :=
    .map (List.pairwise_singleton _ _) (List.forall_mem_singleton.2 (.plain nofun))
  have hroles : (Datum.map [(.text "flags", .map [(.text "Import", .int 4)])]).Distinct :=
    .map (List.pairwise_singleton _ _) (List.forall_mem_singleton.2 hflags)
  exact .map (List.pairwise_singleton _ _) (List.forall_mem_singleton.2 hroles)

theorem isPlain_vars : ∀ v ∈ vars, IsPlain (Text.lower v.1) := by
  have hname : Text.lower "CALLCONTRACT__DATA__CALLS_JSON" = "callcontract__data__calls_json" := by
    decide +kernel
  refine List.forall_mem_singleton.2 (.inl ⟨_, .tail _ (.head _), "calls_json", by decide, ?_⟩)
  exact hname

def request : Request :=
  ⟨files, root, ofList home vars, given⟩

theorem plain_request : request.Plain home vars file where
  environment := rfl
  plainVars := isPlain_vars
  project := readFile_files
  fileSections := ofSections_withFlags _
  fileMaps := sectioned_withFlags _
  givenSections := ofSections_withFlags _
  givenMaps := sectioned_withFlags _
  distinct := distinct_given

theorem resolves_of_two_spellings : request.Plain home vars file ∧
    ∃ c, load files root (ofList home vars) given = .ok c ∧ c.data.callsJson = "graph.json" ∧
      Precedence vars home given file c := by
  have hload : load files root (ofList home vars) given = .ok { standard with
      data := { DataConfig.standard with callsJson := "graph.json" }, roles := roles } := by
    rw [load_files]
    rfl
  have hprecedence := (load_resolves [request] none).2 request (List.mem_singleton_self _)
    plain_request hload
  exact ⟨plain_request, _, hload, rfl, hprecedence⟩

end TwoSpellings

end Config

end GraphContracts
