import GraphContracts.Proofs.Reading.Graph
import GraphContracts.Proofs.Reading.Json
import GraphContracts.Proofs.Outcome
import Mathlib.Data.List.Nodup

namespace GraphContracts

open Schema

/-- What the entry of a node holds under its group. -/
def Datum.group? (entry : Datum) : Option Datum :=
  entry.member? ["kind_type", "kindType"]

/-- The group of a call of some kind, by what its entry holds under the group. -/
inductive TakesGroup (kind : CallKind) : Option Datum → Option KindType → Prop
  | named (group : KindType) : TakesGroup kind (some (.text group.name)) (some group)
  | ofKind : TakesGroup kind none (some kind.kindType)
  | withheld : TakesGroup kind (some .null) none

theorem TakesGroup.eq_none_iff {kind : CallKind} {given : Option Datum} {group : Option KindType}
    (h : TakesGroup kind given group) : group = none ↔ given = some .null := by
  cases h <;> simp

namespace Schema

variable {α : Type} {name : String} {es : Entries} {a : α}

theorem record_eq_valid {read : Entries → Checked α} {d : Datum} :
    record name read d = .valid a ↔ ∃ es, d = .map es ∧ read es = .valid a := by
  cases d <;> simp [record, Checked.issue]

theorem nullable_eq_valid {read : Datum → Checked α} {d : Datum} {o : Option α} :
    nullable read d = .valid o ↔
      d = .null ∧ o = none ∨ d ≠ .null ∧ ∃ a, read d = .valid a ∧ o = some a := by
  cases d <;> simp [nullable, eq_comm]

theorem choice_eq_valid {cause : List String → Cause} {options : List (String × α)} {d : Datum}
    (h : choice cause options d = .valid a) : ∃ s, d = .text s ∧ (s, a) ∈ options := by
  cases d with
  | text s =>
    cases hs : options.lookup s with
    | none => simp [choice, hs, Checked.issue] at h
    | some b =>
      obtain rfl : b = a := by simpa [choice, hs] using h
      obtain ⟨before, after, hoptions, -⟩ := List.lookup_eq_some_iff.1 hs
      exact ⟨s, rfl, by simp [hoptions]⟩
  | _ => simp [choice, Checked.issue] at h

theorem forall₂_of_items {read : Datum → Checked α} {cause : Cause} {d : Datum} {as : List α}
    (h : items cause read d = .valid as) :
    List.Forall₂ (fun item a ↦ read item = .valid a) (listItems d) as := by
  have hcollect : ∀ ds, Checked.collect read 0 ds = .valid as →
      List.Forall₂ (fun item a ↦ read item = .valid a) ds as := by
    intro ds hds
    have hall : List.Forall₂ (· = ·) (ds.map read) (as.map Checked.valid) := by
      rw [List.forall₂_eq_eq_eq]
      exact Checked.collect_eq_valid.1 hds
    exact List.forall₂_map_right_iff.1 (List.forall₂_map_left_iff.1 hall)
  cases d with
  | list ds => exact hcollect ds h
  | tuple ds => exact hcollect ds h
  | set ds => exact hcollect ds h
  | _ => cases h

theorem forall₂_of_withDefault_items {read : Datum → Checked α} {cause : Cause} {as : List α}
    (h : withDefault [name] [] (items cause read) es = .valid as) :
    List.Forall₂ (fun item a ↦ read item = .valid a) ((Datum.map es).itemsAt [name]) as := by
  rw [Datum.itemsAt, Datum.member?_single]
  obtain ⟨hnone, rfl⟩ | ⟨n, d, hsome, hread⟩ := withDefault_eq_valid.1 h
  · rw [← spelled?_single, hnone]
    exact .nil
  · rw [(spelled?_singleton.1 hsome).2]
    exact forall₂_of_items hread

end Schema

theorem CallKind.eq_name_of_mem {s : String} {kind : CallKind} (h : (s, kind) ∈ CallKind.options) :
    s = kind.name := by
  obtain ⟨_, -, he⟩ := List.mem_map.1 h
  obtain ⟨rfl, rfl⟩ := Prod.mk.inj he
  rfl

theorem KindType.eq_name_of_mem {s : String} {group : KindType}
    (h : (s, group) ∈ KindType.options) : s = group.name := by
  obtain ⟨_, -, he⟩ := List.mem_map.1 h
  obtain ⟨rfl, rfl⟩ := Prod.mk.inj he
  rfl

theorem KindType.name_injective : Function.Injective KindType.name := by
  intro a b h
  cases a <;> cases b <;> first | rfl | simp [KindType.name] at h

section Filling

variable {es es' : Entries} {groups : List (String × String)}

theorem Datum.group?_map : (Datum.map es).group? = (es.get? "kind_type").or (es.get? "kindType") :=
  Datum.member?_pair es "kind_type" "kindType"

theorem Datum.group?_eq_none :
    (Datum.map es).group? = none ↔ (es.has "kind_type" || es.has "kindType") = false := by
  simp [Datum.group?_map, Entries.has]

theorem Datum.group?_gatherLocation :
    (Datum.map (gatherLocation es)).group? = (Datum.map es).group? := by
  rw [Datum.group?_map, Datum.group?_map, get?_gatherLocation (by decide),
    get?_gatherLocation (by decide)]

theorem get?_of_fillKindType {name : String} (h : fillKindType groups es = .valid es')
    (hname : name ≠ "kind_type") : es'.get? name = es.get? name := by
  revert h
  fun_cases fillKindType groups es <;> intro h <;> cases h
  case case2 => exact Entries.get?_set_of_ne hname _ _
  all_goals rfl

theorem fillKindType_of_group (h : (Datum.map es).group? ≠ none) :
    fillKindType groups es = .valid es := by
  rw [ne_eq, Datum.group?_eq_none, Bool.not_eq_false] at h
  simp [fillKindType, h]

theorem fillKindType_of_kind {kind group : String} (h : (Datum.map es).group? = none)
    (hkind : es.get? "kind" = some (.text kind)) (hgroup : groups.lookup kind = some group) :
    fillKindType groups es = .valid (es.set (.text "kind_type") (.text group)) := by
  simp [fillKindType, Datum.group?_eq_none.1 h, hkind, hgroup]

theorem group?_of_fillKindType {kind group : String} (h : fillKindType groups es = .valid es')
    (hkind : es'.get? "kind" = some (.text kind)) (hgroup : groups.lookup kind = some group) :
    (Datum.map es').group? = some ((Datum.map es).group?.getD (.text group)) := by
  rw [get?_of_fillKindType h (by decide)] at hkind
  cases hgiven : (Datum.map es).group? with
  | none =>
    rw [fillKindType_of_kind hgiven hkind hgroup] at h
    obtain rfl := Checked.valid.inj h
    simp [Datum.group?_map, Entries.get?_set_self]
  | some d =>
    rw [fillKindType_of_group (by simp [hgiven])] at h
    obtain rfl := Checked.valid.inj h
    simp [hgiven]

end Filling

theorem Argument.position_nonneg {item : Datum} {a : Argument} (h : ofDatum item = .valid a) :
    0 ≤ a.position := by
  obtain ⟨es, -, h⟩ := record_eq_valid.1 h
  simp only [ofEntries, Functor.map, Seq.seq, Checked.seq_eq_valid, Checked.map_eq_valid] at h
  obtain ⟨_, _, ⟨_, _, ⟨_, _, ⟨position, hposition, rfl⟩, -, rfl⟩, -, rfl⟩, -, rfl⟩ := h
  obtain ⟨d, -, hread⟩ := required_eq_valid.1 hposition
  obtain ⟨n, -, hn⟩ := Checked.andThen_eq_valid.1 hread
  by_cases hneg : n < 0
  · simp [hneg, Checked.issue] at hn
  · obtain rfl : n = position := by simpa [hneg] using hn
    exact Int.not_lt.1 hneg

namespace Call

variable {es : Entries} {c : Call} {entry : Datum}

theorem lookup_groups (kind : CallKind) : groups.lookup kind.name = some kind.kindType.name := by
  cases kind <;> decide

theorem fields_of_ofFields (h : ofFields es = .valid c) :
    required "kind" (choice .member CallKind.options) es = .valid c.kind ∧
      optionalField ["kind_type", "kindType"] (choice .member KindType.options) es =
        .valid c.kindType ∧
      withDefault ["arguments"] [] (items .tuple Argument.ofDatum) es = .valid c.arguments := by
  simp only [ofFields, Functor.map, Seq.seq, Checked.seq_eq_valid, Checked.map_eq_valid] at h
  obtain ⟨_, arguments, ⟨_, _, ⟨_, _, ⟨_, _, ⟨_, _, ⟨_, _, ⟨_, _, ⟨_, group, ⟨_, kind,
    ⟨_, -, rfl⟩, hkind, rfl⟩, hgroup, rfl⟩, -, rfl⟩, -, rfl⟩, -, rfl⟩, -, rfl⟩, -, rfl⟩, -, rfl⟩,
    harguments, rfl⟩ := h
  exact ⟨hkind, hgroup, harguments⟩

theorem kind_of_ofFields (h : ofFields es = .valid c) :
    es.get? "kind" = some (.text c.kind.name) := by
  obtain ⟨d, hd, hread⟩ := required_eq_valid.1 (fields_of_ofFields h).1
  obtain ⟨s, rfl, hs⟩ := choice_eq_valid hread
  rw [hd, CallKind.eq_name_of_mem hs]

theorem kindType_of_ofFields {d : Datum} (h : ofFields es = .valid c)
    (hd : (Datum.map es).group? = some d) : TakesGroup c.kind (some d) c.kindType := by
  have hspelled : (spelled? ["kind_type", "kindType"] es).map Prod.snd = some d := by
    rw [spelled?_pair, ← Datum.group?_map, hd]
  obtain ⟨hnone, -⟩ | ⟨_, _, hsome, hread⟩ := withDefault_eq_valid.1 (fields_of_ofFields h).2.1
  · simp [hnone] at hspelled
  · obtain rfl : d = _ := by simpa [hsome, eq_comm] using hspelled
    obtain ⟨rfl, hgroup⟩ | ⟨-, group, hgroup, hkindType⟩ := nullable_eq_valid.1 hread
    · exact hgroup ▸ .withheld
    · obtain ⟨s, rfl, hoption⟩ := choice_eq_valid hgroup
      obtain rfl := KindType.eq_name_of_mem hoption
      exact hkindType ▸ .named group

theorem ofEntries_eq_valid :
    ofEntries es = .valid c ↔ ofFields es = .valid c ∧ c.positions.Nodup := by
  rw [ofEntries, Checked.andThen_eq_valid]
  constructor
  · rintro ⟨c', hfields, h⟩
    cases hrepeat : firstRepeated? [] c'.positions with
    | none =>
      rw [hrepeat] at h
      obtain rfl := Checked.valid.inj h
      exact ⟨hfields, (firstRepeated?_eq_none.1 hrepeat).1⟩
    | some p => simp [hrepeat, Checked.issue] at h
  · rintro ⟨hfields, hnodup⟩
    have hrepeat : firstRepeated? [] c.positions = none :=
      firstRepeated?_eq_none.2 ⟨hnodup, by simp⟩
    exact ⟨c, hfields, by rw [hrepeat]⟩

/-- The entry of a call with the fields that it is read from, its group filled in. -/
theorem fields_of_ofDatum (h : ofDatum entry = .valid c) : ∃ es filled, entry = .map es ∧
    fillKindType groups (gatherLocation es) = .valid filled ∧ ofFields filled = .valid c ∧
      c.positions.Nodup := by
  obtain ⟨es, rfl, h⟩ := record_eq_valid.1 h
  obtain ⟨filled, hfill, h⟩ := Checked.andThen_eq_valid.1 h
  obtain ⟨hfields, hnodup⟩ := ofEntries_eq_valid.1 h
  exact ⟨es, filled, rfl, hfill, hfields, hnodup⟩

theorem takesGroup_of_ofDatum (h : ofDatum entry = .valid c) :
    TakesGroup c.kind entry.group? c.kindType := by
  obtain ⟨es, filled, rfl, hfill, hfields, -⟩ := fields_of_ofDatum h
  have hgroup := group?_of_fillKindType hfill (kind_of_ofFields hfields) (lookup_groups _)
  rw [Datum.group?_gatherLocation] at hgroup
  have htakes := kindType_of_ofFields hfields hgroup
  cases hgiven : (Datum.map es).group? with
  | some d => rwa [hgiven] at htakes
  | none =>
    -- The group that was filled in is the one of the kind.
    rw [hgiven, Option.getD_none] at htakes
    generalize hname : some (Datum.text c.kind.kindType.name) = given at htakes
    generalize c.kindType = taken at htakes
    cases htakes with
    | named group =>
      obtain rfl : c.kind.kindType = group := KindType.name_injective (by simpa using hname)
      exact .ofKind
    | ofKind => cases hname
    | withheld => cases hname

theorem positions_of_ofDatum (h : ofDatum entry = .valid c) :
    (∀ p ∈ c.positions, 0 ≤ p) ∧ c.positions.Nodup := by
  obtain ⟨es, filled, -, -, hfields, hnodup⟩ := fields_of_ofDatum h
  refine ⟨List.forall_mem_map.2 ?_, hnodup⟩
  exact forall_mem_of_forall₂ (forall₂_of_withDefault_items (fields_of_ofFields hfields).2.2)
    fun _ _ ↦ Argument.position_nonneg

theorem argumentAt_eq_some_iff (h : c.positions.Nodup) {p : Int} {a : Argument} :
    c.argumentAt p = some a ↔ a ∈ c.arguments ∧ a.position = p := by
  constructor
  · intro ha
    exact ⟨List.mem_of_find?_eq_some ha, by simpa using List.find?_some ha⟩
  · rintro ⟨ha, rfl⟩
    cases hfound : c.argumentAt a.position with
    | none => exact absurd (List.mem_map_of_mem ha) (argumentAt_eq_none.1 hfound)
    | some b =>
      have hb : b.position = a.position := by simpa using List.find?_some hfound
      rw [List.inj_on_of_nodup_map h (List.mem_of_find?_eq_some hfound) ha hb]

end Call

namespace CallGraph

theorem nodes_of_decode {source : String} {d : Datum} {g : CallGraph}
    (h : decode source d = .ok g) :
    List.Forall₂ (fun entry v ↦ Value.ofDatum entry = .valid v) (d.itemsAt ["values"]) g.values ∧
      List.Forall₂ (fun entry c ↦ Call.ofDatum entry = .valid c) (d.itemsAt ["calls"]) g.calls := by
  cases d with
  | map es =>
    cases hread : GraphDocument.ofEntries es with
    | valid document =>
      obtain rfl : ⟨document, source⟩ = g := by simpa [decode, hread] using h
      simp only [GraphDocument.ofEntries, Functor.map, Seq.seq, Checked.seq_eq_valid,
        Checked.map_eq_valid] at hread
      obtain ⟨_, _, ⟨_, _, ⟨_, -, rfl⟩, hvalues, rfl⟩, hcalls, rfl⟩ := hread
      exact ⟨forall₂_of_withDefault_items hvalues, forall₂_of_withDefault_items hcalls⟩
    | invalid issues => simp [decode, hread] at h
    | aborted cause => simp [decode, hread] at h
  | _ => cases h

/-- Every call of a graph that was read takes its group, none exactly where its entry says so, and
has arguments at distinct positions from zero on, each found by its own. -/
theorem calls_of_ofDatum {source : String} {d : Datum} {g : CallGraph}
    (h : (ofDatum source d).result = .ok g) :
    List.Forall₂ (fun entry c ↦ TakesGroup c.kind entry.group? c.kindType ∧
        (c.kindType = none ↔ entry.group? = some .null)) (d.itemsAt ["calls"]) g.calls ∧
      ∀ c ∈ g.calls, (∀ p ∈ c.positions, 0 ≤ p) ∧ c.positions.Nodup ∧ ∀ p,
        (∀ a, c.argumentAt p = some a ↔ a ∈ c.arguments ∧ a.position = p) ∧
        (c.argumentAt p = none ↔ p ∉ c.positions) := by
  rw [ofDatum_result] at h
  have hcalls := (nodes_of_decode h).2
  constructor
  · refine hcalls.imp fun entry c hc ↦ ?_
    have htakes := Call.takesGroup_of_ofDatum hc
    exact ⟨htakes, htakes.eq_none_iff⟩
  · refine forall_mem_of_forall₂ hcalls fun entry c hc ↦ ?_
    obtain ⟨hnonneg, hnodup⟩ := Call.positions_of_ofDatum hc
    exact ⟨hnonneg, hnodup, fun p ↦
      ⟨fun a ↦ Call.argumentAt_eq_some_iff hnodup, Call.argumentAt_eq_none⟩⟩

end CallGraph

namespace GivenGroups

def argument (position : Datum) : Datum :=
  .object [("position", position), ("value_expr", .text "1")]

def entry (id : String) (group : List (String × Datum)) : Datum :=
  .object ([("id", .text id), ("kind", .text "method"), ("caller", .text "App/Service#run()."),
    ("arguments", .list [argument (.text " 2 "), argument (.bool false)])] ++ group)

def document : Datum :=
  .object [("calls", .list [entry "a" [], entry "b" [("kindType", .text "operator")],
    entry "c" [("kind_type", .null), ("kindType", .text "access")]])]

def call (id : String) (group : Option KindType) : Call :=
  ⟨id, .method, group, "App/Service#run().", none, none, none, none, none,
    [⟨2, none, none, some "1"⟩, ⟨0, none, none, some "1"⟩]⟩

def graph : CallGraph :=
  ⟨⟨"0.0", [], [call "a" (some .invocation), call "b" (some .operator), call "c" none]⟩, "<memory>"⟩

theorem calls_of_document : (CallGraph.ofDatum "<memory>" document).result = .ok graph ∧
    (∀ c ∈ graph.calls, c.positions.Nodup ∧ (∀ p ∈ c.positions, 0 ≤ p) ∧
      c.argumentAt 2 = some ⟨2, none, none, some "1"⟩ ∧ c.argumentAt 1 = none) ∧
    List.Forall₂ (fun entry c ↦ TakesGroup c.kind entry.group? c.kindType)
      (document.itemsAt ["calls"]) graph.calls := by
  have hread : (CallGraph.ofDatum "<memory>" document).result = .ok graph := rfl
  obtain ⟨hgroups, hcalls⟩ := CallGraph.calls_of_ofDatum hread
  refine ⟨hread, fun c hc ↦ ?_, hgroups.imp fun _ _ h ↦ h.1⟩
  have hsecond : ∀ c ∈ graph.calls, (⟨2, none, none, some "1"⟩ : Argument) ∈ c.arguments := by
    decide
  have hfirst : ∀ c ∈ graph.calls, 1 ∉ c.positions := by decide
  obtain ⟨hnonneg, hnodup, hargument⟩ := hcalls c hc
  exact ⟨hnodup, hnonneg, ((hargument 2).1 _).2 ⟨hsecond c hc, rfl⟩,
    (hargument 1).2.2 (hfirst c hc)⟩

theorem kindType_of_withheld :
    let withheld := Datum.object [("calls", .list [.object [("id", .text "c"),
      ("kind", .text "method"), ("kind_type", .null), ("caller", .text "App/Service#run().")]])]
    let read : Call := ⟨"c", .method, none, "App/Service#run().", none, none, none, none, none, []⟩
    (CallGraph.ofDatum "<memory>" withheld).result = .ok ⟨⟨"0.0", [], [read]⟩, "<memory>"⟩ ∧
      read.kindType = none := by
  exact ⟨rfl, rfl⟩

end GivenGroups

end GraphContracts
