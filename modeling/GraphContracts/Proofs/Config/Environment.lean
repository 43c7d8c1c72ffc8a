import GraphContracts.Config.Environment
import GraphContracts.Proofs.Config.Overlay
import GraphContracts.Proofs.Outcome
import Mathlib.Data.List.Induction
import Mathlib.Data.List.Nodup

namespace GraphContracts

theorem lookup_cons_eq_ite {β : Type} (n : String) (b : β) (l : List (String × β)) (name : String) :
    ((n, b) :: l).lookup name = if n = name then some b else l.lookup name := by
  rw [List.lookup_cons]
  by_cases h : n = name
  · simp [h]
  · simp [h, beq_eq_false_iff_ne.2 (Ne.symm h)]

namespace Section

/-- A key that holds a single value. -/
def IsScalar (s : Section) (key : String) : Prop :=
  key ∈ s.keys ∧ key ∉ s.nested

instance (s : Section) (key : String) : Decidable (s.IsScalar key) :=
  inferInstanceAs (Decidable (_ ∧ _))

def keyVariable (s : Section) (key : String) : String :=
  s.variableName ++ "__" ++ key

/-- A source with what is said about each section. -/
def sectioned (ss : List Section) (said : Section → Option Datum) : Entries :=
  ss.filterMap fun s ↦ (said s).map fun d ↦ (.text s.name, d)

variable {s : Section} {ss : List Section} {said : Section → Option Datum}

theorem mem_sectioned {e : Datum × Datum} :
    e ∈ sectioned ss said ↔ ∃ s ∈ ss, ∃ d, said s = some d ∧ (.text s.name, d) = e := by
  simp only [sectioned, List.mem_filterMap, Option.map_eq_some_iff]

theorem get?_sectioned (said : Section → Option Datum)
    (hnodup : (ss.map Section.name).Nodup) (hs : s ∈ ss) :
    Entries.get? s.name (sectioned ss said) = said s := by
  induction ss with
  | nil => cases hs
  | cons t ss ih =>
    obtain ⟨hnew, hnodup⟩ := List.nodup_cons.1 hnodup
    have hcons : sectioned (t :: ss) said =
        ((said t).map fun d ↦ (Datum.text t.name, d)).toList ++ sectioned ss said := by
      rw [sectioned, List.filterMap_cons]
      cases said t <;> rfl
    rw [hcons]
    obtain rfl | hs := List.mem_cons.1 hs
    · cases hsaid : said s with
      | none =>
        rw [Option.eq_none_iff_forall_ne_some]
        intro d hd
        obtain ⟨u, hu, d', -, heq⟩ := mem_sectioned.1 (Entries.mem_of_get? hd)
        simp only [Prod.mk.injEq, Datum.text.injEq] at heq
        exact hnew (heq.1 ▸ List.mem_map_of_mem hu)
      | some d => exact if_pos rfl
    · have hne : Datum.text t.name ≠ .text s.name := by
        intro h
        rw [Datum.text.injEq] at h
        exact hnew (h ▸ List.mem_map_of_mem hs)
      cases hsaid : said t with
      | none => exact ih hnodup hs
      | some d => exact (Entries.get?_cons_of_ne_text hne d _).trans (ih hnodup hs)

theorem apart_sectioned (said : Section → Option Datum)
    (hnodup : (ss.map Section.name).Nodup) : Entries.Apart (sectioned ss said) := by
  rw [Entries.Apart, sectioned, List.pairwise_filterMap]
  refine (List.pairwise_map.1 hnodup).imp fun {s t} hne ↦ ?_
  simp only [Option.map_eq_some_iff]
  rintro a ⟨d, -, rfl⟩ b ⟨d', -, rfl⟩
  simpa [Datum.sameKey] using hne

end Section

namespace Environment

open Section

variable {s s' : Section} {key name value : String} {vars : List (String × String)}

theorem pathIn_keyVariable : ∀ s ∈ Section.all, ∀ s' ∈ Section.all, ∀ key ∈ s'.keys,
    key ∉ s'.nested → pathIn s (s'.keyVariable key) = if s = s' then some [key] else none := by
  decide +kernel

theorem pathIn_self (hs : s ∈ Section.all) (hkey : s.IsScalar key) :
    pathIn s (s.keyVariable key) = some [key] := by
  rw [pathIn_keyVariable s hs s hs key hkey.1 hkey.2, if_pos rfl]

theorem keyVariable_injective {other : String} (hs : s ∈ Section.all) (hkey : s.IsScalar key)
    (hother : s.IsScalar other) (h : s.keyVariable key = s.keyVariable other) : key = other := by
  have hpath := pathIn_self hs hkey
  rw [h, pathIn_self hs hother] at hpath
  exact (List.head_eq_of_cons_eq (Option.some.inj hpath)).symm

theorem keyVariable_ne_variableName : ∀ s ∈ Section.all, ∀ s' ∈ Section.all, ∀ key ∈ s'.keys,
    s'.keyVariable key ≠ s.variableName := by
  decide +kernel

/-- A variable is about one key that holds a single value, or says nothing about any section. -/
def IsPlain (name : String) : Prop :=
  (∃ s ∈ Section.all, ∃ key, s.IsScalar key ∧ name = s.keyVariable key) ∨
    ∀ s ∈ Section.all, name ≠ s.variableName ∧ pathIn s name = none

theorem IsPlain.ne_variableName (h : IsPlain name) (hs : s ∈ Section.all) :
    name ≠ s.variableName := by
  obtain ⟨s', hs', key, hkey, rfl⟩ | hforeign := h
  · exact keyVariable_ne_variableName s hs s' hs' key hkey.1
  · exact (hforeign s hs).1

theorem IsPlain.pathIn_cases (h : IsPlain name) (hs : s ∈ Section.all) :
    (∃ key, s.IsScalar key ∧ name = s.keyVariable key ∧ pathIn s name = some [key]) ∨
      pathIn s name = none ∧ ∀ key, s.IsScalar key → name ≠ s.keyVariable key := by
  have hnone : pathIn s name = none → ∀ key, s.IsScalar key → name ≠ s.keyVariable key := by
    rintro hpath key hkey rfl
    rw [pathIn_self hs hkey] at hpath
    cases hpath
  obtain ⟨s', hs', key, hkey, rfl⟩ | hforeign := h
  · by_cases hsame : s = s'
    · subst hsame
      exact .inl ⟨key, hkey, rfl, pathIn_self hs hkey⟩
    · have hpath : pathIn s (s'.keyVariable key) = none := by
        rw [pathIn_keyVariable s hs s' hs' key hkey.1 hkey.2, if_neg hsame]
      exact .inr ⟨hpath, hnone hpath⟩
  · exact .inr ⟨(hforeign s hs).2, hnone (hforeign s hs).2⟩

/-- What the variables in `vars` say about a key of a section. -/
def told (vars : List (String × String)) (s : Section) (key : String) : Option Datum :=
  if s.IsScalar key then (vars.lookup (s.keyVariable key)).map .text else none

theorem told_concat_of_ne (h : s.IsScalar key → name ≠ s.keyVariable key) (value : String) :
    told (vars ++ [(name, value)]) s key = told vars s key := by
  rw [told, told]
  split
  · rename_i hkey
    rw [List.lookup_append, lookup_cons_eq_ite, if_neg (h hkey), List.lookup_nil, Option.or_none]
  · rfl

theorem lookup_eq_none_iff_not_mem : vars.lookup name = none ↔ name ∉ vars.map Prod.fst := by
  rw [List.lookup_eq_none_iff, List.mem_map, not_exists]
  refine forall_congr' fun v ↦ ?_
  rw [not_and, bne_iff_ne]
  exact forall_congr' fun _ ↦ ne_comm

theorem told_concat_self (hkey : s.IsScalar key) (hnew : s.keyVariable key ∉ vars.map Prod.fst)
    (value : String) :
    told (vars ++ [(s.keyVariable key, value)]) s key = some (.text value) := by
  have hnone : vars.lookup (s.keyVariable key) = none := lookup_eq_none_iff_not_mem.2 hnew
  rw [told, if_pos hkey, List.lookup_append, hnone]
  simp

def putVariable (seen : List (String × String)) (name value : String) : List (String × String) :=
  if seen.any fun (n, _) ↦ n = name then
    seen.map fun (n, v) ↦ if n = name then (n, value) else (n, v)
  else seen ++ [(name, value)]

theorem any_name_iff {seen : List (String × String)} :
    (seen.any fun (n, _) ↦ n = name) = true ↔ name ∈ seen.map Prod.fst := by
  rw [List.any_eq_true, List.mem_map]
  refine exists_congr fun v ↦ and_congr_right fun _ ↦ ?_
  exact decide_eq_true_iff

theorem map_fst_putVariable (seen : List (String × String)) (name value : String) :
    (putVariable seen name value).map Prod.fst =
      if name ∈ seen.map Prod.fst then seen.map Prod.fst else seen.map Prod.fst ++ [name] := by
  rw [putVariable]
  by_cases hmem : name ∈ seen.map Prod.fst
  · rw [if_pos (any_name_iff.2 hmem), if_pos hmem, List.map_map]
    refine List.map_congr_left fun v _ ↦ ?_
    simp only [Function.comp_apply]
    split <;> rfl
  · rw [if_neg (mt any_name_iff.1 hmem), if_neg hmem, List.map_append]
    rfl

theorem lookup_replace (seen : List (String × String)) (name value other : String) :
    (seen.map fun (n, v) ↦ if n = name then (n, value) else (n, v)).lookup other =
      if name = other then (seen.lookup other).map fun _ ↦ value else seen.lookup other := by
  induction seen with
  | nil => simp
  | cons v seen ih =>
    obtain ⟨n, v⟩ := v
    rw [List.map_cons, lookup_cons_eq_ite]
    by_cases hname : n = name
    · subst hname
      rw [if_pos rfl, lookup_cons_eq_ite, ih]
      by_cases hother : n = other <;> simp [hother]
    · rw [if_neg hname, lookup_cons_eq_ite, ih]
      by_cases hother : n = other
      · subst hother
        simp [Ne.symm hname]
      · simp [hother]

theorem lookup_putVariable (seen : List (String × String)) (name value other : String) :
    (putVariable seen name value).lookup other =
      if name = other then some value else seen.lookup other := by
  rw [putVariable]
  split
  · rename_i hany
    rw [lookup_replace]
    split
    · rename_i hother
      subst hother
      have hsome : seen.lookup name ≠ none := fun h ↦
        lookup_eq_none_iff_not_mem.1 h (any_name_iff.1 hany)
      obtain ⟨v, hv⟩ := Option.ne_none_iff_exists'.1 hsome
      rw [hv, Option.map_some]
    · rfl
  · rename_i hnew
    rw [List.lookup_append, lookup_cons_eq_ite, List.lookup_nil]
    by_cases hother : name = other
    · subst hother
      have hnone : seen.lookup name = none :=
        lookup_eq_none_iff_not_mem.2 (mt any_name_iff.2 hnew)
      simp [hnone]
    · simp [hother]

theorem ofList_concat (home : Path) (vars : List (String × String)) (name value : String) :
    (ofList home (vars ++ [(name, value)])).vars =
      putVariable (ofList home vars).vars (Text.lower name) value := by
  rw [ofList, List.foldl_append]
  rfl

theorem nodup_ofList (home : Path) (vars : List (String × String)) :
    ((ofList home vars).vars.map Prod.fst).Nodup := by
  induction vars using List.reverseRecOn with
  | nil => exact .nil
  | append_singleton vars v ih =>
    rw [ofList_concat, map_fst_putVariable]
    split
    · exact ih
    · rename_i hnew
      rw [← List.concat_eq_append]
      exact List.Nodup.concat hnew ih

/-- The text of a variable: that of the last one whose name has the same letters, of either case. -/
def textOf (vars : List (String × String)) (name : String) : Option String :=
  (vars.reverse.find? fun v ↦ Text.lower v.1 = name).map Prod.snd

theorem lookup_ofList (home : Path) (vars : List (String × String)) (name : String) :
    (ofList home vars).vars.lookup name = textOf vars name := by
  induction vars using List.reverseRecOn with
  | nil => rfl
  | append_singleton vars v ih =>
    rw [ofList_concat, lookup_putVariable, ih, textOf, textOf, List.reverse_append,
      List.reverse_singleton, List.singleton_append, List.find?_cons]
    by_cases hname : Text.lower v.1 = name <;> simp [hname]

theorem isPlain_ofList (home : Path) {vars : List (String × String)}
    (h : ∀ v ∈ vars, IsPlain (Text.lower v.1)) : ∀ v ∈ (ofList home vars).vars, IsPlain v.1 := by
  suffices hnames : ∀ n ∈ (ofList home vars).vars.map Prod.fst, IsPlain n from
    fun v hv ↦ hnames _ (List.mem_map_of_mem hv)
  induction vars using List.reverseRecOn with
  | nil => exact nofun
  | append_singleton vars v ih =>
    obtain ⟨hvars, hv⟩ := List.forall_mem_append.1 h
    rw [ofList_concat, map_fst_putVariable]
    split
    · exact ih hvars
    · exact List.forall_mem_append.2 ⟨ih hvars, List.forall_mem_singleton.2
        (hv v (List.mem_singleton_self v))⟩

def readVariable (s : Section) (es : Entries) (v : String × String) : Except Fault Entries :=
  match pathIn s v.1 with
  | none => .ok es
  | some path => (valueAt s path v.2).map fun d ↦ place path d es

/-- What is known of a section by `vars`: each of its scalar keys has the text of its variable. -/
structure Known (vars : List (String × String)) (s : Section) (es : Entries) : Prop where
  apart : Entries.Apart es
  keys : ∀ e ∈ es, ∃ key, s.IsScalar key ∧ e.1 = .text key
  told : ∀ key, Entries.get? key es = told vars s key

theorem Known.readVariable {es : Entries} (h : Known vars s es) (hs : s ∈ Section.all)
    (hname : IsPlain name) (hnew : name ∉ vars.map Prod.fst) (value : String) :
    ∃ es', readVariable s es (name, value) = .ok es' ∧ Known (vars ++ [(name, value)]) s es' := by
  rcases hname.pathIn_cases hs with ⟨key, hkey, rfl, hpath⟩ | ⟨hpath, hne⟩
  · have hnested : s.nested.contains key = false := by simpa using hkey.2
    refine ⟨es.set (.text key) (.text value), ?_, ?_, ?_, fun other ↦ ?_⟩
    · simp only [Environment.readVariable, hpath, valueAt, hnested, Bool.false_and]
      rfl
    · exact Entries.apart_set h.apart _ _
    · exact Entries.forall_mem_set (p := fun k ↦ ∃ key, s.IsScalar key ∧ k = .text key) h.keys
        ⟨key, hkey, rfl⟩ _
    · by_cases hother : other = key
      · subst hother
        rw [Entries.get?_set_self, told_concat_self hkey hnew]
      · have hne : s.IsScalar other → s.keyVariable key ≠ s.keyVariable other :=
          fun hscalar h ↦ hother (keyVariable_injective hs hkey hscalar h).symm
        rw [Entries.get?_set_of_ne hother, told_concat_of_ne hne, h.told]
  · refine ⟨es, ?_, h.apart, h.keys, fun key ↦ ?_⟩
    · simp only [Environment.readVariable, hpath]
    · rw [told_concat_of_ne (hne key), h.told]

theorem exists_keysOf (hs : s ∈ Section.all) {env : Environment}
    (hplain : ∀ v ∈ env.vars, IsPlain v.1) (hnodup : (env.vars.map Prod.fst).Nodup) :
    ∃ es, env.keysOf s = .ok es ∧ Known env.vars s es := by
  have hfold : env.keysOf s = env.vars.foldlM (readVariable s) [] := rfl
  rw [hfold]
  generalize env.vars = vars at hplain hnodup
  induction vars using List.reverseRecOn with
  | nil =>
    exact ⟨[], rfl, .nil, nofun, fun key ↦ by simp [told]⟩
  | append_singleton vars v ih =>
    obtain ⟨hplain, hv⟩ := List.forall_mem_append.1 hplain
    rw [List.map_append, List.nodup_append] at hnodup
    obtain ⟨es, hes, hknown⟩ := ih hplain hnodup.1
    have hnew : v.1 ∉ vars.map Prod.fst := fun h ↦ hnodup.2.2 _ h _ (List.mem_singleton_self _) rfl
    obtain ⟨es', hread, hknown'⟩ :=
      hknown.readVariable hs (hv v (List.mem_singleton_self v)) hnew v.2
    refine ⟨es', ?_, hknown'⟩
    rw [List.foldlM_append, hes]
    show readVariable s es v >>= pure = _
    rw [hread]
    rfl

theorem spellKeys_of_known {es : Entries} (hs : s ∈ Section.all)
    (hkeys : ∀ e ∈ es, ∃ key, s.IsScalar key ∧ e.1 = .text key) :
    spellKeys s es = Entries.ofPairs es := by
  have hspelled : ∀ s ∈ Section.all, ∀ key ∈ s.keys,
      (s.keys.find? fun n ↦ n = Text.lower key).getD key = key := by
    decide +kernel
  rw [spellKeys]
  congr 1
  conv_rhs => rw [← List.map_id es]
  refine List.map_congr_left fun e he ↦ ?_
  obtain ⟨key, hkey, hkeyed⟩ := hkeys e he
  obtain ⟨k, v⟩ := e
  obtain rfl : k = .text key := hkeyed
  simp only [hspelled s hs key hkey.1]
  rfl

theorem exists_sectionOf (hs : s ∈ Section.all) {env : Environment}
    (hplain : ∀ v ∈ env.vars, IsPlain v.1) (hnodup : (env.vars.map Prod.fst).Nodup) :
    ∃ said inner, env.sectionOf s = .ok said ∧
      (said = some (.map inner) ∨ said = none ∧ inner = []) ∧
      Entries.Apart inner ∧ ∀ key, Entries.get? key inner = told env.vars s key := by
  obtain ⟨es, hes, hknown⟩ := exists_keysOf hs hplain hnodup
  have hwhole : env.vars.lookup s.variableName = none := by
    rw [lookup_eq_none_iff_not_mem, List.mem_map]
    rintro ⟨v, hv, hname⟩
    exact (hplain v hv).ne_variableName hs hname
  cases es with
  | nil =>
    refine ⟨none, [], ?_, .inr ⟨rfl, rfl⟩, .nil, hknown.told⟩
    simp only [sectionOf, hwhole, hes]
    rfl
  | cons e es =>
    have hspelled : spellKeys s (e :: es) = e :: es := by
      rw [spellKeys_of_known hs hknown.keys, Entries.ofPairs_of_apart hknown.apart]
    refine ⟨_, e :: es, ?_, .inl rfl, hknown.apart, hknown.told⟩
    simp only [sectionOf, hwhole, hes]
    exact congrArg (fun spelled ↦ Except.ok (some (Datum.map spelled))) hspelled

theorem exists_entries {env : Environment} (hplain : ∀ v ∈ env.vars, IsPlain v.1)
    (hnodup : (env.vars.map Prod.fst).Nodup) :
    ∃ es, env.entries = .ok es ∧ es.Layer ∧
      ∀ s ∈ Section.all, ∀ key, es.at? s.name key = told env.vars s key := by
  -- what is said of each section, chosen for all of them at once
  have hsaid : ∀ s : Section, ∃ said inner, s ∈ Section.all → env.sectionOf s = .ok said ∧
      (said = some (.map inner) ∨ said = none ∧ inner = []) ∧
      Entries.Apart inner ∧ ∀ key, Entries.get? key inner = told env.vars s key := by
    intro s
    by_cases hs : s ∈ Section.all
    · obtain ⟨said, inner, h⟩ := exists_sectionOf hs hplain hnodup
      exact ⟨said, inner, fun _ ↦ h⟩
    · exact ⟨none, [], fun h ↦ absurd h hs⟩
  choose said inner hsaid using hsaid
  have hnames : (Section.all.map Section.name).Nodup := by decide
  have hfound : Section.all.mapM (fun s ↦ do
      pure ((← env.sectionOf s).map fun d ↦ (Datum.text s.name, d))) =
        .ok (Section.all.map fun s ↦ (said s).map fun d ↦ (Datum.text s.name, d)) := by
    rw [mapM_eq_ok_iff, List.forall₂_map_right_iff]
    refine List.forall₂_same.2 fun s hs ↦ ?_
    rw [(hsaid s hs).1]
    rfl
  refine ⟨sectioned Section.all said, ?_, ⟨apart_sectioned said hnames, fun name d hd ↦ ?_⟩, ?_⟩
  · rw [entries, hfound]
    exact congrArg _ (List.filterMap_map ..)
  · obtain ⟨s, hs, d', hd', heq⟩ := mem_sectioned.1 (Entries.mem_of_get? hd)
    obtain ⟨-, hmap | ⟨hnone, -⟩, hapart, -⟩ := hsaid s hs
    · rw [hmap] at hd'
      cases hd'
      cases heq
      exact ⟨inner s, rfl, hapart⟩
    · rw [hnone] at hd'
      cases hd'
  · intro s hs key
    obtain ⟨-, hmap | ⟨hnone, hnil⟩, -, htold⟩ := hsaid s hs
    · rw [Entries.at?, get?_sectioned said hnames hs, hmap]
      exact htold key
    · rw [Entries.at?, get?_sectioned said hnames hs, hnone, ← htold, hnil]
      rfl

end Environment

end GraphContracts
