import GraphContracts.Proofs.Reading.Alike
import GraphContracts.Proofs.Reading.Graph
import GraphContracts.Proofs.Reading.Ranges
import Mathlib.Logic.Relation

namespace GraphContracts

open Schema Checked

/-- The fields that are spelled with underscores or in camel case. -/
def spellings : List (String × String) :=
  [("kind_type", "kindType"), ("source_call_id", "sourceCallId"),
    ("source_value_id", "sourceValueId"), ("return_type", "returnType"),
    ("receiver_value_id", "receiverValueId"), ("result_value_id", "resultValueId"),
    ("value_id", "valueId"), ("value_expr", "valueExpr")]

/-- What stands under a name stands under another one, under which there was nothing. -/
structure Renames (name other : String) (es es' : Entries) : Prop where
  absent : es.get? other = none
  moved : es'.get? other = es.get? name
  gone : es'.get? name = none
  kept : ∀ n, n ≠ name → n ≠ other → es'.get? n = es.get? n

/-- A place with a file and a line is no longer a record of its own but stands beside the other
fields. -/
structure Spreads (place es es' : Entries) : Prop where
  nested : es.get? "location" = some (.map place)
  file : place.has "file" = true
  line : place.has "line" = true
  alone : ∀ name ∈ ["file", "line", "col"], es.get? name = none
  spread : ∀ name ∈ ["file", "line", "col"], es'.get? name = place.get? name
  gone : es'.get? "location" = none
  kept : ∀ name ∉ ["location", "file", "line", "col"], es'.get? name = es.get? name

/-- One field of a record is put into camel case, or its place is spread. -/
inductive RespellsRecord (es es' : Entries) : Prop
  | field {name other : String} :
    (name, other) ∈ spellings → Renames name other es es' → RespellsRecord es es'
  | place {place : Entries} : Spreads place es es' → RespellsRecord es es'

inductive Respells : Datum → Datum → Prop
  | same (d : Datum) : Respells d d
  | record {es es' : Entries} : RespellsRecord es es' → Respells (.map es) (.map es')

inductive RespellsNodes (d d' : Datum) : Prop
  | values : ReplacesItems "values" Respells d d' → RespellsNodes d d'
  | calls : ReplacesItems "calls" Respells d d' → RespellsNodes d d'
  | arguments : ReplacesItems "calls" (ReplacesItems "arguments" Respells) d d' → RespellsNodes d d'

def variedNames : List String :=
  ["location", "file", "line", "col", "arguments"] ++ spellings.flatMap fun p ↦ [p.1, p.2]

/-- The same fields, up to their spelling, the place and the arguments. -/
structure SameFields (es es' : Entries) : Prop where
  respelled : ∀ p ∈ spellings,
    (es'.get? p.1).or (es'.get? p.2) = (es.get? p.1).or (es.get? p.2)
  other : ∀ name ∉ variedNames, es'.get? name = es.get? name

/-- Entries of nodes that are read alike. -/
structure SameNode (es es' : Entries) : Prop extends SameFields es es' where
  place : (optionalField ["location"] (record "Location" Location.ofEntries) es).Alike
    (optionalField ["location"] (record "Location" Location.ofEntries) es')
  arguments : (withDefault ["arguments"] [] (items .tuple Argument.ofDatum) es).Alike
    (withDefault ["arguments"] [] (items .tuple Argument.ofDatum) es')

variable {es es' place : Entries} {name other : String}

def renameKey (name other : String) : Datum × Datum → Datum × Datum
  | (.text key, value) => (.text (if key = name then other else key), value)
  | entry => entry

theorem get?_map_renameKey (habsent : es.get? other = none) (n : String) :
    Entries.get? n (es.map (renameKey name other)) =
      if n = other then es.get? name else if n = name then none else es.get? n := by
  induction es with
  | nil => simp
  | cons entry es ih =>
    obtain ⟨key, value⟩ := entry
    cases key with
    | text key =>
      have hkey : key ≠ other := by
        rintro rfl
        simp [Entries.get?] at habsent
      have ih := ih (by simpa [Entries.get?, hkey] using habsent)
      simp only [List.map_cons, renameKey, Entries.get?]
      grind
    | _ => exact ih habsent

theorem renames_map (hne : name ≠ other) (habsent : es.get? other = none) :
    Renames name other es (es.map (renameKey name other)) where
  absent := habsent
  moved := by rw [get?_map_renameKey habsent, if_pos rfl]
  gone := by rw [get?_map_renameKey habsent, if_neg hne, if_pos rfl]
  kept n h h' := by rw [get?_map_renameKey habsent, if_neg h', if_neg h]

theorem Renames.sameFields (hp : (name, other) ∈ spellings) (h : Renames name other es es') :
    SameFields es es' := by
  -- Different fields share no spelling.
  have hapart : ∀ p ∈ spellings, ∀ q ∈ spellings, q ≠ p →
      (q.1 ≠ p.1 ∧ q.1 ≠ p.2) ∧ q.2 ≠ p.1 ∧ q.2 ≠ p.2 := by decide
  constructor
  · intro q hq
    by_cases hqp : q = (name, other)
    · subst hqp
      simp [h.absent, h.moved, h.gone]
    · obtain ⟨h1, h2⟩ := hapart _ hp q hq hqp
      rw [h.kept _ h1.1 h1.2, h.kept _ h2.1 h2.2]
  · intro n hn
    have hvaried : ∀ p ∈ spellings, p.1 ∈ variedNames ∧ p.2 ∈ variedNames := by decide
    refine h.kept n ?_ ?_
    · rintro rfl
      exact hn (hvaried _ hp).1
    · rintro rfl
      exact hn (hvaried _ hp).2

namespace SameFields

theorem symm (h : SameFields es es') : SameFields es' es :=
  ⟨fun p hp ↦ (h.respelled p hp).symm, fun n hn ↦ (h.other n hn).symm⟩

theorem trans {es'' : Entries} (h : SameFields es es') (h' : SameFields es' es'') :
    SameFields es es'' :=
  ⟨fun p hp ↦ (h'.respelled p hp).trans (h.respelled p hp),
    fun n hn ↦ (h'.other n hn).trans (h.other n hn)⟩

/-- The fields stay the same where only names are touched that no field is spelled by. -/
theorem of_kept {touched : List String} (hspelled : ∀ p ∈ spellings, p.1 ∉ touched ∧ p.2 ∉ touched)
    (hvaried : touched ⊆ variedNames) (h : ∀ name ∉ touched, es'.get? name = es.get? name) :
    SameFields es es' := by
  constructor
  · intro p hp
    rw [h _ (hspelled p hp).1, h _ (hspelled p hp).2]
  · exact fun n hn ↦ h n fun hmem ↦ hn (hvaried hmem)

theorem gathered (es : Entries) : SameFields es (gatherLocation es) :=
  of_kept (by decide) (by decide) fun _ hname ↦ get?_gatherLocation hname

theorem gatherLocation (h : SameFields es es') :
    SameFields (gatherLocation es) (GraphContracts.gatherLocation es') :=
  (gathered es).symm.trans (h.trans (gathered es'))

end SameFields

theorem Spreads.sameFields (h : Spreads place es es') : SameFields es es' :=
  .of_kept (by decide) (by decide) h.kept

theorem get?_location_gatherLocation (es : Entries) :
    (gatherLocation es).get? "location" = (es.get? "location").or ((es.get? "file").map fun file ↦
      .object [("file", file), ("line", (es.get? "line").getD (.int 0)),
        ("col", (es.get? "col").getD (.int 0))]) := by
  unfold gatherLocation
  split
  · rename_i hlocation hfile
    rw [hlocation, hfile, Entries.get?_set_self]
    rfl
  · rename_i hneither
    cases hlocation : es.get? "location" with
    | some d => rfl
    | none =>
      cases hfile : es.get? "file" with
      | none => rfl
      | some file => exact absurd hfile (hneither file hlocation)

theorem Location.alike_ofEntries (hfile : es'.get? "file" = es.get? "file")
    (hline : es'.get? "line" = es.get? "line")
    (hcol : (withDefault ["col"] 0 integer es).Alike (withDefault ["col"] 0 integer es')) :
    (Location.ofEntries es).Alike (Location.ofEntries es') :=
  (((alike_required hfile).map Location.mk).seq (alike_required hline)).seq hcol

/-- A place that was spread is gathered to one that is read as before; a column that was left out
counts as zero either way. -/
theorem Spreads.alike_place (h : Spreads place es es') :
    (optionalField ["location"] (record "Location" Location.ofEntries) (gatherLocation es)).Alike
      (optionalField ["location"] (record "Location" Location.ofEntries) (gatherLocation es')) := by
  obtain ⟨file, hfile⟩ := Option.isSome_iff_exists.1 h.file
  obtain ⟨line, hline⟩ := Option.isSome_iff_exists.1 h.line
  have hgathered : (gatherLocation es').get? "location" = some (.object [("file", file),
      ("line", line), ("col", (place.get? "col").getD (.int 0))]) := by
    rw [get?_location_gatherLocation, h.gone, h.spread "file" (by decide),
      h.spread "line" (by decide), h.spread "col" (by decide), hfile, hline]
    rfl
  have hkept : (gatherLocation es).get? "location" = some (.map place) := by
    rw [get?_location_gatherLocation, h.nested]
    rfl
  have hcol : (withDefault ["col"] 0 integer place).Alike (withDefault ["col"] 0 integer
      [(.text "file", file), (.text "line", line),
        (.text "col", (place.get? "col").getD (.int 0))]) := by
    cases hplace : place.get? "col" with
    | none => exact .of_eq (by simp [withDefault, spelled?, hplace, Entries.get?, integer, within])
    | some col => exact alike_withDefault 0 (by rw [spelled?_single, spelled?_single, hplace]; rfl)
  rw [optionalField, optionalField, withDefault_of_get? hkept, withDefault_of_get? hgathered]
  refine Alike.within (Alike.map (Location.alike_ofEntries ?_ ?_ hcol) some) _ _
  · exact hfile.symm
  · exact hline.symm

namespace SameFields

variable {α : Type} {read : Datum → Checked α}

theorem alike_required (h : SameFields es es') (hname : name ∉ variedNames) :
    (required name read es).Alike (required name read es') :=
  Schema.alike_required (h.other name hname)

theorem alike_plain (h : SameFields es es') (hname : name ∉ variedNames) :
    (optionalText [name] es).Alike (optionalText [name] es') :=
  alike_withDefault none (by rw [spelled?_single, spelled?_single, h.other name hname])

theorem alike_spelled (h : SameFields es es') (hp : (name, other) ∈ spellings) :
    (optionalField [name, other] read es).Alike (optionalField [name, other] read es') :=
  alike_optionalField (h.respelled _ hp)

end SameFields

theorem Argument.alike_ofEntries (h : SameFields es es') :
    (ofEntries es).Alike (ofEntries es') := by
  unfold ofEntries
  exact ((((h.alike_required (by decide)).map _).seq (h.alike_plain (by decide))).seq
    (h.alike_spelled (by decide))).seq (h.alike_spelled (by decide))

theorem Value.alike_ofEntries (h : SameNode es es') : (ofEntries es).Alike (ofEntries es') := by
  have hname : (optionalText ["name", "declared_name"] es).Alike
      (optionalText ["name", "declared_name"] es') :=
    alike_optionalField (by rw [h.other "name" (by decide), h.other "declared_name" (by decide)])
  unfold ofEntries
  exact ((((((((((h.alike_required (by decide)).map _).seq (h.alike_required (by decide))).seq
    (h.alike_spelled (by decide))).seq (h.alike_plain (by decide))).seq
    (h.alike_plain (by decide))).seq (h.alike_plain (by decide))).seq
    (h.alike_spelled (by decide))).seq (h.alike_spelled (by decide))).seq h.place).seq hname

theorem Call.alike_ofFields (h : SameNode es es') : (ofFields es).Alike (ofFields es') := by
  unfold ofFields
  exact ((((((((((h.alike_required (by decide)).map _).seq (h.alike_required (by decide))).seq
    (h.alike_spelled (by decide))).seq (h.alike_required (by decide))).seq
    (h.alike_plain (by decide))).seq (h.alike_spelled (by decide))).seq
    (h.alike_spelled (by decide))).seq (h.alike_spelled (by decide))).seq h.place).seq h.arguments

theorem Call.alike_ofEntries (h : SameNode es es') : (ofEntries es).Alike (ofEntries es') := by
  refine (alike_ofFields h).andThen fun c ↦ ?_
  cases firstRepeated? [] c.positions with
  | none => exact .valid c
  | some p => exact .invalid _ _

theorem SameNode.set_kindType (h : SameNode es es') (group : Datum) :
    SameNode (es.set (.text "kind_type") group) (es'.set (.text "kind_type") group) := by
  have hsecond : ∀ p ∈ spellings, p.2 ≠ "kind_type" := by decide
  constructor
  · constructor
    · intro p hp
      by_cases hkind : p.1 = "kind_type"
      · rw [hkind, Entries.get?_set_self, Entries.get?_set_self]
        rfl
      · rw [Entries.get?_set_of_ne hkind, Entries.get?_set_of_ne (hsecond p hp),
          Entries.get?_set_of_ne hkind, Entries.get?_set_of_ne (hsecond p hp)]
        exact h.respelled p hp
    · intro n hn
      have hkind : n ≠ "kind_type" := by
        rintro rfl
        exact hn (by decide)
      rw [Entries.get?_set_of_ne hkind, Entries.get?_set_of_ne hkind]
      exact h.other n hn
  · rw [optionalField, optionalField, withDefault_congr (Entries.get?_set_of_ne (by decide) _ es),
      withDefault_congr (Entries.get?_set_of_ne (by decide) _ es')]
    exact h.place
  · rw [withDefault_congr (Entries.get?_set_of_ne (by decide) _ es),
      withDefault_congr (Entries.get?_set_of_ne (by decide) _ es')]
    exact h.arguments

/-- Nodes are read alike from entries that are alike, as both have a group filled in or neither. -/
theorem SameNode.alike_filled {α : Type} {read : Entries → Checked α}
    (hread : ∀ {es es'}, SameNode es es' → (read es).Alike (read es'))
    (groups : List (String × String)) (h : SameNode es es') :
    ((fillKindType groups es).andThen read).Alike ((fillKindType groups es').andThen read) := by
  have hgiven : (es'.has "kind_type" || es'.has "kindType") =
      (es.has "kind_type" || es.has "kindType") := by
    have hgroup := congrArg Option.isSome (h.respelled ("kind_type", "kindType") (by decide))
    simpa [Entries.has] using hgroup
  unfold fillKindType
  rw [hgiven, h.other "kind" (by decide)]
  split
  · exact hread h
  · split
    · split
      · exact hread (h.set_kindType _)
      · exact hread h
    · split
      · exact hread h
      · exact .aborted _
    · exact hread h

theorem RespellsRecord.sameFields (h : RespellsRecord es es') : SameFields es es' := by
  cases h with
  | field hp hrenames => exact hrenames.sameFields hp
  | place hspreads => exact hspreads.sameFields

/-- A node whose place and arguments are read alike, once its place is gathered. -/
theorem SameFields.sameNode (h : SameFields es es')
    (hplace : (optionalField ["location"] (record "Location" Location.ofEntries)
        (GraphContracts.gatherLocation es)).Alike
      (optionalField ["location"] (record "Location" Location.ofEntries)
        (GraphContracts.gatherLocation es')))
    (harguments : (withDefault ["arguments"] [] (items .tuple Argument.ofDatum) es).Alike
      (withDefault ["arguments"] [] (items .tuple Argument.ofDatum) es')) :
    SameNode (GraphContracts.gatherLocation es) (GraphContracts.gatherLocation es') where
  toSameFields := h.gatherLocation
  place := hplace
  arguments := by
    rw [withDefault_congr (get?_gatherLocation (by decide)),
      withDefault_congr (get?_gatherLocation (by decide))]
    exact harguments

theorem alike_place_of_kept
    (h : ∀ name ∈ ["location", "file", "line", "col"], es'.get? name = es.get? name) :
    (optionalField ["location"] (record "Location" Location.ofEntries) (gatherLocation es)).Alike
      (optionalField ["location"] (record "Location" Location.ofEntries) (gatherLocation es')) := by
  refine alike_of_kept ?_ none
  rw [get?_location_gatherLocation, get?_location_gatherLocation, h "location" (by decide),
    h "file" (by decide), h "line" (by decide), h "col" (by decide)]

theorem RespellsRecord.sameNode (h : RespellsRecord es es') :
    SameNode (gatherLocation es) (gatherLocation es') := by
  cases h with
  | field hp hrenames =>
    have hapart : ∀ p ∈ spellings, ∀ name ∈ ["location", "file", "line", "col", "arguments"],
        name ≠ p.1 ∧ name ≠ p.2 := by decide
    have hkept : ∀ name ∈ ["location", "file", "line", "col", "arguments"],
        es'.get? name = es.get? name := fun name hname ↦
      hrenames.kept name (hapart _ hp name hname).1 (hapart _ hp name hname).2
    refine (hrenames.sameFields hp).sameNode
      (alike_place_of_kept fun name hname ↦ hkept name (List.mem_append_left ["arguments"] hname))
      (alike_of_kept (hkept "arguments" (by decide)) [])
  | place hspreads =>
    exact hspreads.sameFields.sameNode hspreads.alike_place
      (alike_of_kept (hspreads.kept "arguments" (by decide)) [])

theorem alike_argument {d d' : Datum} (h : Respells d d') :
    (Argument.ofDatum d).Alike (Argument.ofDatum d') := by
  cases h with
  | same => exact .refl _
  | record hrecord => exact Argument.alike_ofEntries hrecord.sameFields

theorem alike_value {d d' : Datum} (h : Respells d d') :
    (Value.ofDatum d).Alike (Value.ofDatum d') := by
  cases h with
  | same => exact .refl _
  | record hrecord => exact hrecord.sameNode.alike_filled Value.alike_ofEntries Value.groups

theorem alike_call {d d' : Datum} (h : Respells d d') :
    (Call.ofDatum d).Alike (Call.ofDatum d') := by
  cases h with
  | same => exact .refl _
  | record hrecord => exact hrecord.sameNode.alike_filled Call.alike_ofEntries Call.groups

theorem alike_replacedItems {α : Type} {read : Datum → Checked α} {alike : Datum → Datum → Prop}
    {ds ds' : List Datum} (hread : ∀ d d', alike d d' → (read d).Alike (read d'))
    (hget : es.get? name = some (.list ds)) (h : List.Forall₂ alike ds ds') :
    (withDefault [name] [] (items .tuple read) es).Alike
      (withDefault [name] [] (items .tuple read) (es.set (.text name) (.list ds'))) := by
  rw [withDefault_of_get? hget, withDefault_of_get? (Entries.get?_set_self _ _ _)]
  exact (alike_collect (h.imp hread) 0).within _ _

theorem alike_call_of_arguments {d d' : Datum} (h : ReplacesItems "arguments" Respells d d') :
    (Call.ofDatum d).Alike (Call.ofDatum d') := by
  cases h with
  | same => exact .refl _
  | @replaced es ds ds' hget hds =>
    have hkept : ∀ n ∉ ["arguments"],
        (es.set (.text "arguments") (.list ds')).get? n = es.get? n :=
      fun n hn ↦ Entries.get?_set_of_ne (by simpa using hn) _ _
    have hplace : ∀ n ∈ ["location", "file", "line", "col"], n ∉ ["arguments"] := by decide
    have hfields : SameFields es (es.set (.text "arguments") (.list ds')) :=
      .of_kept (by decide) (by decide) hkept
    have hnode := hfields.sameNode (alike_place_of_kept fun n hn ↦ hkept n (hplace n hn))
      (alike_replacedItems (fun _ _ ↦ alike_argument) hget hds)
    exact hnode.alike_filled Call.alike_ofEntries Call.groups

namespace GraphDocument

variable {alike : Datum → Datum → Prop} {d d' : Datum}

theorem alike_of_values (hread : ∀ d d', alike d d' → (Value.ofDatum d).Alike (Value.ofDatum d'))
    (h : ReplacesItems "values" alike d d') : (ofDatum d).Alike (ofDatum d') := by
  cases h with
  | same => exact .refl _
  | @replaced es ds ds' hget hds =>
    have hkept : ∀ n, n ≠ "values" → (es.set (.text "values") (.list ds')).get? n = es.get? n :=
      fun n hn ↦ Entries.get?_set_of_ne hn _ _
    exact (((alike_of_kept (hkept "version" (by decide)) "0.0").map GraphDocument.mk).seq
      (alike_replacedItems hread hget hds)).seq (alike_of_kept (hkept "calls" (by decide)) [])

theorem alike_of_calls (hread : ∀ d d', alike d d' → (Call.ofDatum d).Alike (Call.ofDatum d'))
    (h : ReplacesItems "calls" alike d d') : (ofDatum d).Alike (ofDatum d') := by
  cases h with
  | same => exact .refl _
  | @replaced es ds ds' hget hds =>
    have hkept : ∀ n, n ≠ "calls" → (es.set (.text "calls") (.list ds')).get? n = es.get? n :=
      fun n hn ↦ Entries.get?_set_of_ne hn _ _
    exact (((alike_of_kept (hkept "version" (by decide)) "0.0").map GraphDocument.mk).seq
      (alike_of_kept (hkept "values" (by decide)) [])).seq (alike_replacedItems hread hget hds)

theorem alike_of_respellsNodes (h : RespellsNodes d d') : (ofDatum d).Alike (ofDatum d') := by
  cases h with
  | values h => exact alike_of_values (fun _ _ ↦ alike_value) h
  | calls h => exact alike_of_calls (fun _ _ ↦ alike_call) h
  | arguments h => exact alike_of_calls (fun _ _ ↦ alike_call_of_arguments) h

theorem alike_of_respelled (h : Relation.EqvGen RespellsNodes d d') :
    (ofDatum d).Alike (ofDatum d') := by
  induction h with
  | rel _ _ h => exact alike_of_respellsNodes h
  | refl => exact .refl _
  | symm _ _ _ ih => exact ih.symm
  | trans _ _ _ _ _ ih ih' => exact ih.trans ih'

end GraphDocument

namespace CallGraph

variable {source : String} {d d' : Datum} {g : CallGraph}

theorem decode_eq_ok_iff : decode source d = .ok g ↔
    ∃ document, GraphDocument.ofDatum d = .valid document ∧ ⟨document, source⟩ = g := by
  cases d with
  | map es =>
    rw [decode]
    change _ ↔ ∃ document, GraphDocument.ofEntries es = .valid document ∧ _
    cases GraphDocument.ofEntries es <;> simp
  | _ => simp [decode, GraphDocument.ofDatum, record, Checked.issue]

theorem decode_eq_failure_iff : (∃ f, decode source d = .error (.failure f)) ↔
    ∃ issues, GraphDocument.ofDatum d = .invalid issues := by
  cases d with
  | map es =>
    rw [decode]
    change _ ↔ ∃ issues, GraphDocument.ofEntries es = .invalid issues
    cases GraphDocument.ofEntries es <;> simp
  | _ => exact ⟨fun _ ↦ ⟨_, rfl⟩, fun _ ↦ ⟨_, rfl⟩⟩

/-- A document in other spellings is read as the same graph, with the same warnings, or it is
refused as before. -/
theorem ofDatum_of_respelled (source : String) (h : Relation.EqvGen RespellsNodes d d') :
    (∀ g, (ofDatum source d').result = .ok g ↔ (ofDatum source d).result = .ok g) ∧
      ((∃ f, (ofDatum source d').result = .error (.failure f)) ↔
        ∃ f, (ofDatum source d).result = .error (.failure f)) ∧
      (ofDatum source d').events = (ofDatum source d).events := by
  have halike := GraphDocument.alike_of_respelled h
  have hok : ∀ g, decode source d' = .ok g ↔ decode source d = .ok g := fun g ↦ by
    simp only [decode_eq_ok_iff, halike.eq_valid_iff]
  rw [ofDatum_result, ofDatum_result, decode_eq_failure_iff, decode_eq_failure_iff,
    halike.exists_invalid_iff]
  refine ⟨hok, .rfl, ?_⟩
  unfold ofDatum
  cases hd : decode source d with
  | ok g =>
    rw [(hok g).2 hd]
  | error e =>
    cases hd' : decode source d' with
    | ok g => exact absurd ((hok g).1 hd') (by simp [hd])
    | error e' => rfl

end CallGraph

namespace MixedSpellings

def order (location : List (String × Datum)) : Datum :=
  .object ([("id", .text "order"), ("kind", .text "parameter")] ++ location)

def total (source : String) : Datum :=
  .object [("id", .text "r"), ("kind", .text "result"), (source, .text "r")]

def argument (value : String) : Datum :=
  .object [("position", .int 0), (value, .text "order")]

def reading (group value : String) : Datum :=
  .object [("id", .text "r"), ("kind", .text "method"), (group, .text "operator"),
    ("caller", .text "App/Service#run()."), ("arguments", .list [argument value])]

def document (location : List (String × Datum)) (source group value : String) : Datum :=
  .object [("values", .list [order location, total source]), ("calls", .list [reading group value])]

def located : List (String × Datum) :=
  [("file", .text "src/Service.php"), ("line", .int 7)]

def graph : CallGraph :=
  ⟨⟨"0.0",
    [⟨"order", .parameter, some "value", none, none, none, none, none,
        some ⟨"src/Service.php", 7, 0⟩, none⟩,
      ⟨"r", .result, some "value", none, none, none, some "r", none, none, none⟩],
    [⟨"r", .method, some .operator, "App/Service#run().", none, none, none, none, none,
      [⟨0, none, some "order", none⟩]⟩]⟩, "<memory>"⟩

theorem respells_order : Respells (order [("location", .object located)]) (order located) := by
  refine .record (.place ⟨rfl, rfl, rfl, by simp [Entries.get?], by simp [Entries.get?, located],
    rfl, fun n hn ↦ ?_⟩)
  simp only [List.mem_cons, List.not_mem_nil, or_false, not_or] at hn
  simp [Entries.get?, located, Ne.symm hn.1, Ne.symm hn.2.1, Ne.symm hn.2.2.1]

theorem respells_total : Respells (total "source_call_id") (total "sourceCallId") :=
  .record (.field (by decide : ("source_call_id", "sourceCallId") ∈ spellings)
    (renames_map (by decide) rfl))

theorem respells_argument : Respells (argument "value_id") (argument "valueId") :=
  .record (.field (by decide : ("value_id", "valueId") ∈ spellings) (renames_map (by decide) rfl))

theorem respells_reading (value : String) :
    Respells (reading "kind_type" value) (reading "kindType" value) :=
  .record (.field (by decide : ("kind_type", "kindType") ∈ spellings)
    (renames_map (by decide) rfl))

theorem document_respelled : Relation.EqvGen RespellsNodes
    (document [("location", .object located)] "source_call_id" "kindType" "value_id")
    (document located "sourceCallId" "kind_type" "valueId") := by
  have hvalues : RespellsNodes
      (document [("location", .object located)] "source_call_id" "kindType" "value_id")
      (document located "sourceCallId" "kindType" "value_id") :=
    .values (.replaced rfl (.cons respells_order (.cons respells_total .nil)))
  have harguments : RespellsNodes (document located "sourceCallId" "kindType" "value_id")
      (document located "sourceCallId" "kindType" "valueId") :=
    .arguments (.replaced rfl (.cons (.replaced rfl (.cons respells_argument .nil)) .nil))
  have hcalls : RespellsNodes (document located "sourceCallId" "kind_type" "valueId")
      (document located "sourceCallId" "kindType" "valueId") :=
    .calls (.replaced rfl (.cons (respells_reading "valueId") .nil))
  exact .trans _ _ _ (.rel _ _ hvalues)
    (.trans _ _ _ (.rel _ _ harguments) (.symm _ _ (.rel _ _ hcalls)))

theorem result_of_respelled_document :
    (CallGraph.ofDatum "<memory>" (document [("location", .object located)] "source_call_id"
      "kindType" "value_id")).result = .ok graph ∧
    (CallGraph.ofDatum "<memory>" (document located "sourceCallId" "kind_type" "valueId")).result =
      .ok graph := by
  have hread : (CallGraph.ofDatum "<memory>" (document [("location", .object located)]
      "source_call_id" "kindType" "value_id")).result = .ok graph := rfl
  exact ⟨hread, ((CallGraph.ofDatum_of_respelled "<memory>" document_respelled).1 graph).2 hread⟩

end MixedSpellings

end GraphContracts
