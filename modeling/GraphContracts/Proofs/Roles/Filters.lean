import GraphContracts.Index.Query
import GraphContracts.Proofs.Roles

namespace GraphContracts

theorem filter_eq_filter_iff {α : Type} {l : List α} {p p' : α → Bool} :
    l.filter p = l.filter p' ↔ ∀ a ∈ l, (p a = true ↔ p' a = true) := by
  constructor
  · intro h a ha
    have hmem : a ∈ l.filter p ↔ a ∈ l.filter p' := by rw [h]
    simpa [ha] using hmem
  · intro h
    exact List.filter_congr fun a ha ↦ Bool.eq_iff_iff.2 (h a ha)

namespace OccurrenceQuery

variable {q q' : OccurrenceQuery} {n : String}

def KeepsNamed (q q' : OccurrenceQuery) (n : String) : Prop :=
  q'.all = q.all.filter fun o ↦ n ∈ q.index.roleNames o

theorem keepsNamed_filtered_iff {label : String} {test : Occurrence → Bool} :
    q.KeepsNamed (q.filtered label test) n ↔
      ∀ o ∈ q.all, (test o = true ↔ n ∈ q.index.roles.names o.roles) := by
  rw [KeepsNamed, all_filtered, filter_eq_filter_iff]
  simp only [decide_eq_true_iff]
  rfl

/-- What the filters by role keep, where `bits` are the flags and `place` is that of the
definition. -/
structure FiltersByRole (q : OccurrenceQuery) (bits : List (String × ℕ)) : Prop where
  hasRole : ∀ n k, (n, k) ∈ bits → ∃ q', q.hasRole n = .ok q' ∧
    q'.all = q.all.filter (fun o ↦ o.roles.testBit k) ∧
    (q.KeepsNamed q' n ↔ (n = "Reference" → ∀ o ∈ q.all,
      q.index.roles.isReference o.roles = true → o.roles.testBit k = true))
  isDefinition : q.KeepsNamed q.isDefinition q.index.roles.definitionRole ↔
    (q.index.roles.definitionRole = "Reference" → ∀ o ∈ q.all,
      q.index.roles.isReference o.roles = true → q.index.roles.isDefinition o.roles = true)
  isReference : q.KeepsNamed q.isReference "Reference" ↔
    ∀ k, ("Reference", k) ∈ bits → ∀ o ∈ q.all,
      o.roles.testBit k = true → q.index.roles.isReference o.roles = true

end OccurrenceQuery

namespace RoleSchema

variable {s : RoleSchema} {bits : List (String × ℕ)} {place : ℕ} {n : String} {k : ℕ}

/-- What a number is decoded into. -/
structure Decodes (s : RoleSchema) (bits : List (String × ℕ)) (place : ℕ) (r : Int) : Prop where
  names : s.names r = ((bits.filter fun f ↦ r.testBit f.2).map Prod.fst) ++
    if s.isReference r then ["Reference"] else []
  nodup : (s.names r).Nodup ↔
    ¬(s.isReference r = true ∧ ∃ k, ("Reference", k) ∈ bits ∧ r.testBit k = true)
  isDefinition : s.isDefinition r = r.testBit place
  isReference : s.isReference r = true ↔
    (∃ i, r.testBit i = true ∧ s.referenceMask.testBit i = true) ∨
      s.bareIsReference = true ∧ r.testBit place = false
  covered : s.bareIsReference = true → s.isDefinition r = true ∨ s.isReference r = true

namespace Placed

theorem decodes (h : s.Placed bits place) (r : Int) : s.Decodes bits place r where
  names := h.names_eq r
  nodup := h.nodup_names_iff
  isDefinition := h.isDefinition_eq r
  isReference := h.isReference_iff
  covered hbare := isDefinition_or_isReference hbare r

theorem eq_of_mem (h : s.Placed bits place) (hn : (n, k) ∈ bits) {k' : ℕ} (hn' : (n, k') ∈ bits) :
    k' = k := by
  have heq : some k' = some k := by
    rw [← (lookup_eq_some_iff_mem h.nodup).2 hn, (lookup_eq_some_iff_mem h.nodup).2 hn']
  exact Option.some.inj heq

/-- A flag is among the names exactly where its bit is set, but for one with the name of the derived
role, which is among them wherever the number is a reference. -/
theorem testBit_iff_mem_names (h : s.Placed bits place) (hn : (n, k) ∈ bits) (r : Int) :
    (r.testBit k = true ↔ n ∈ s.names r) ↔
      (n = "Reference" → s.isReference r = true → r.testBit k = true) := by
  have hbit : (∃ k', (n, k') ∈ bits ∧ r.testBit k' = true) ↔ r.testBit k = true := by
    constructor
    · intro ⟨k', hn', hset⟩
      rwa [h.eq_of_mem hn hn'] at hset
    · intro hset
      exact ⟨k, hn, hset⟩
  rw [h.mem_names_iff, hbit]
  constructor
  · intro hiff hname hreference
    exact hiff.2 (.inr ⟨hname, hreference⟩)
  · intro himp
    refine ⟨.inl, fun hor ↦ ?_⟩
    obtain hset | ⟨hname, hreference⟩ := hor
    · exact hset
    · exact himp hname hreference

theorem isReference_iff_mem_names (h : s.Placed bits place) (r : Int) :
    (s.isReference r = true ↔ "Reference" ∈ s.names r) ↔
      ∀ k, ("Reference", k) ∈ bits → r.testBit k = true → s.isReference r = true := by
  rw [h.mem_names_iff]
  constructor
  · intro hiff k hk hset
    exact hiff.2 (.inl ⟨k, hk, hset⟩)
  · intro himp
    refine ⟨fun hreference ↦ .inr ⟨rfl, hreference⟩, fun hor ↦ ?_⟩
    obtain ⟨k, hk, hset⟩ | ⟨-, hreference⟩ := hor
    · exact himp k hk hset
    · exact hreference

theorem filtersByRole {q : OccurrenceQuery} (h : q.index.roles.Placed bits place) :
    q.FiltersByRole bits where
  hasRole n k hn := by
    have hbit : q.index.roles.bit n = .ok (2 ^ k) := by rw [bit, h.lookup_eq hn]
    have hrole : q.hasRole n =
        .ok (q.filtered s!"role={n}" fun o ↦ sharesBit o.roles (2 ^ k)) := by
      rw [OccurrenceQuery.hasRole, hbit]
      rfl
    simp only [sharesBit_two_pow] at hrole
    refine ⟨_, hrole, OccurrenceQuery.all_filtered .., ?_⟩
    rw [OccurrenceQuery.keepsNamed_filtered_iff]
    simp only [h.testBit_iff_mem_names hn]
    exact ⟨fun hall hname o ho ↦ hall o ho hname, fun hall o ho hname ↦ hall hname o ho⟩
  isDefinition := by
    rw [OccurrenceQuery.isDefinition, OccurrenceQuery.keepsNamed_filtered_iff]
    simp only [h.isDefinition_eq, h.testBit_iff_mem_names h.definition]
    exact ⟨fun hall hname o ho ↦ hall o ho hname, fun hall o ho hname ↦ hall hname o ho⟩
  isReference := by
    rw [OccurrenceQuery.isReference, OccurrenceQuery.keepsNamed_filtered_iff]
    simp only [h.isReference_iff_mem_names]
    exact ⟨fun hall k hk o ho ↦ hall o ho k hk, fun hall o ho k hk ↦ hall k hk o ho⟩

end Placed

/-- Which records are accepted as a schema, what a schema decodes a number into, and what the
filters of an index with the schema keep. -/
theorem decodes_of_valid (s : RoleSchema) :
    (∀ es, ofDatum (.map es) = .valid s ↔ readTypes es = .valid s ∧ s.IsNumbered) ∧
    ∀ d, ofDatum d = .valid s → (∃ bits place, s.Placed bits place) ∧
      ∀ bits place, s.Placed bits place → (∀ r, s.Decodes bits place r) ∧
        ∀ q : OccurrenceQuery, q.index.roles = s → q.FiltersByRole bits := by
  refine ⟨fun es ↦ ofDatum_map_eq_valid, fun d hvalid ↦ ⟨exists_placed hvalid, ?_⟩⟩
  intro bits place hplaced
  refine ⟨hplaced.decodes, fun q hroles ↦ ?_⟩
  rw [← hroles] at hplaced
  exact hplaced.filtersByRole

end RoleSchema

namespace OwnRoles

def flags : List (String × Datum) :=
  [("Def", .int 4), ("Use", .int 1), ("Also", .text "4")]

def document : Datum :=
  .object [("flags", .object flags), ("definition_role", .text "Def"), ("reference_mask", .int 1)]

def schema : RoleSchema :=
  ⟨[("Def", 4), ("Use", 1), ("Also", 4)], "Def", 1, true⟩

def bits : List (String × ℕ) :=
  [("Def", 2), ("Use", 0), ("Also", 2)]

def occurrence (roles : Int) : Occurrence :=
  ⟨"App/Order#", "src/Order.php", 2, 6, 2, 11, roles⟩

def index : SymbolIndex :=
  ⟨[], [occurrence (-4), occurrence 1, occurrence 0], schema, "<memory>"⟩

theorem decodes_negative :
    RoleSchema.ofDatum document = .valid schema ∧ schema.IsNumbered ∧
      schema.names (-4) = ["Def", "Also"] ∧
      schema.names (-1) = ["Def", "Use", "Also", "Reference"] ∧
      (schema.names (-1)).Nodup ∧
      ∃ q', index.occurrenceQuery.hasRole "Also" = .ok q' ∧ q'.all = [occurrence (-4)] ∧
        index.occurrenceQuery.KeepsNamed q' "Also" := by
  have hread : RoleSchema.ofDatum document = .valid schema := rfl
  have hplaced : schema.Placed bits 2 := ⟨by decide, by decide, by decide⟩
  obtain ⟨haccepts, hvalid⟩ := RoleSchema.decodes_of_valid schema
  obtain ⟨hdecodes, hfilters⟩ := (hvalid document hread).2 bits 2 hplaced
  have hfilter := hfilters index.occurrenceQuery rfl
  obtain ⟨q', hq', hall, hnamed⟩ := hfilter.hasRole "Also" 2 (by decide)
  refine ⟨hread, ((haccepts _).1 hread).2, ?_, ?_, (hdecodes (-1)).nodup.2 ?_, q', hq', ?_,
    hnamed.2 (by decide)⟩
  · rw [(hdecodes (-4)).names]
    decide
  · rw [(hdecodes (-1)).names]
    decide
  · intro ⟨_, k, hk, _⟩
    simp [bits] at hk
  · rw [hall]
    decide

end OwnRoles

namespace FlaggedReference

def document : Datum :=
  .object [("flags", .object [("Definition", .int 1), ("Reference", .int 16)])]

def schema : RoleSchema :=
  ⟨[("Definition", 1), ("Reference", 16)], "Definition", 14, true⟩

def place (roles : Int) : Occurrence :=
  ⟨"App/Order#", "src/Order.php", 2, 6, 2, 11, roles⟩

def index : SymbolIndex :=
  ⟨[], [place 2, place 17], schema, "<memory>"⟩

theorem names_of_flagged :
    RoleSchema.ofDatum document = .valid schema ∧
      schema.names 18 = ["Reference", "Reference"] ∧ ¬(schema.names 18).Nodup ∧
      index.roleNames (place 2) = ["Reference"] ∧
      (∃ q', index.occurrenceQuery.hasRole "Reference" = .ok q' ∧ q'.all = [place 17]) ∧
      index.roleNames (place 17) = ["Definition", "Reference"] ∧
      index.occurrenceQuery.isReference.all = [place 2] := by
  exact ⟨rfl, by decide, by decide, by decide, ⟨_, rfl, by decide⟩, by decide, by decide⟩

end FlaggedReference

end GraphContracts
