import GraphContracts.Graph.Store
import GraphContracts.Proofs.Reading.Settled

namespace GraphContracts

open Schema

/-- The fields of a node that names no group and whose kind cannot be looked up. -/
structure UnhashableKind (es : Entries) : Prop where
  noGroup : ∀ name ∈ ["kind_type", "kindType"], es.get? name = none
  kind : ∃ d, es.get? "kind" = some d ∧ d.isHashable = false

def Datum.HasUnhashableKind (d : Datum) : Prop :=
  ∃ es : Entries, d = .map es ∧ ∃ name ∈ ["values", "calls"], ∃ nodes, es.get? name = some nodes ∧
    ∃ fields, .map fields ∈ listItems nodes ∧ UnhashableKind fields

/-- What is told about a document that is refused: its first issue, or that it is no mapping. -/
inductive Mismatch (source : String) : Failure → Prop
  | root : Mismatch source
      (.schemaMismatch source "<root>" "document must be a JSON object")
  | issue (i : Issue) : Mismatch source (.schemaMismatch source i.location i.cause.message)

variable {name : String} {es : Entries}

theorem get?_gatherLocation (h : name ∉ ["location", "file", "line", "col"]) :
    (gatherLocation es).get? name = es.get? name := by
  simp only [List.mem_cons, List.not_mem_nil, or_false, not_or] at h
  obtain ⟨hlocation, hfile, hline, hcol⟩ := h
  unfold gatherLocation
  split
  · rw [Entries.get?_set_of_ne hlocation, Entries.get?_erase_of_ne hcol,
      Entries.get?_erase_of_ne hline, Entries.get?_erase_of_ne hfile]
  · rfl

theorem unhashableKind_gatherLocation : UnhashableKind (gatherLocation es) ↔ UnhashableKind es := by
  have hgroup : ∀ name ∈ ["kind_type", "kindType"], (gatherLocation es).get? name = es.get? name :=
    fun name hname ↦ get?_gatherLocation (by revert name; decide)
  have hkind : (gatherLocation es).get? "kind" = es.get? "kind" := get?_gatherLocation (by decide)
  constructor
  · rintro ⟨h, hd⟩
    exact ⟨fun name hname ↦ hgroup name hname ▸ h name hname, hkind ▸ hd⟩
  · rintro ⟨h, hd⟩
    exact ⟨fun name hname ↦ (hgroup name hname).trans (h name hname), hkind.symm ▸ hd⟩

theorem unhashableKind_iff {kind : Datum} (hgroup : ∀ name ∈ ["kind_type", "kindType"],
    es.get? name = none) (hkind : es.get? "kind" = some kind) :
    UnhashableKind es ↔ kind.isHashable = false := by
  constructor
  · rintro ⟨-, d, hd, hno⟩
    obtain rfl := Option.some.inj (hkind.symm.trans hd)
    exact hno
  · intro hno
    exact ⟨hgroup, kind, hkind, hno⟩

theorem fillKindType_settledUnless (groups : List (String × String)) (es : Entries) :
    (fillKindType groups es).SettledUnless (UnhashableKind es) := by
  unfold fillKindType
  split
  · rename_i hnamed
    exact .valid es fun h ↦ by simp [Entries.has, h.noGroup] at hnamed
  · rename_i hnamed
    have hgroup : ∀ name ∈ ["kind_type", "kindType"], es.get? name = none := by
      simpa [Entries.has] using hnamed
    cases hkind : es.get? "kind" with
    | none =>
      refine .valid es ?_
      rintro ⟨-, d, hd, -⟩
      cases hkind.symm.trans hd
    | some kind =>
      rw [unhashableKind_iff hgroup hkind]
      cases kind with
      | text s => cases hs : groups.lookup s <;> simp [hs, Datum.isHashable]
      | list ds => exact .aborted rfl
      | set ds => exact .aborted rfl
      | map fields => exact .aborted rfl
      | _ => simp [Datum.isHashable]

theorem node_settledUnless {α : Type} {read : Entries → Checked α} (h : ∀ es, (read es).Settled)
    (name : String) (groups : List (String × String)) (d : Datum) :
    (node name groups read d).SettledUnless (∃ es, d = .map es ∧ UnhashableKind es) :=
  settledUnless_record (fun _ ↦ ((fillKindType_settledUnless groups _).andThen h).congr
    unhashableKind_gatherLocation) name d

theorem Location.settled_ofEntries (es : Entries) : (Location.ofEntries es).Settled := by
  unfold Location.ofEntries
  repeat' apply Checked.settled_seq
  all_goals simp

theorem Value.settled_ofEntries (es : Entries) : (Value.ofEntries es).Settled := by
  unfold Value.ofEntries
  repeat' apply Checked.settled_seq
  all_goals simp [Location.settled_ofEntries]

theorem Argument.settled_ofEntries (es : Entries) : (Argument.ofEntries es).Settled := by
  have hposition : ∀ d, (position? d).Settled := fun d ↦
    (settled_integer d).andThen fun n ↦ by split <;> simp
  unfold Argument.ofEntries
  repeat' apply Checked.settled_seq
  all_goals simp [hposition]

theorem Call.settled_ofFields (es : Entries) : (Call.ofFields es).Settled := by
  have harguments : ∀ d, (Argument.ofDatum d).Settled :=
    settled_record Argument.settled_ofEntries "Argument"
  unfold Call.ofFields
  repeat' apply Checked.settled_seq
  all_goals simp [Location.settled_ofEntries, harguments]

theorem Call.settled_ofEntries (es : Entries) : (Call.ofEntries es).Settled := by
  refine (Call.settled_ofFields es).andThen fun c ↦ ?_
  cases firstRepeated? [] c.positions with
  | none => simp
  | some p => simp

theorem spelled?_singleton {n : String} {d : Datum} :
    spelled? [name] es = some (n, d) ↔ n = name ∧ es.get? name = some d := by
  cases h : es.get? name with
  | none => simp [spelled?, h]
  | some e => simp [spelled?, h, eq_comm]

theorem settledUnless_nodes {α : Type} {read : Entries → Checked α} (h : ∀ es, (read es).Settled)
    (field name : String) (groups : List (String × String)) (es : Entries) :
    (withDefault [field] [] (items .tuple (node name groups read)) es).SettledUnless
      (∃ nodes, es.get? field = some nodes ∧
        ∃ fields, .map fields ∈ listItems nodes ∧ UnhashableKind fields) := by
  refine (settledUnless_withDefault
    (settledUnless_items (node_settledUnless h name groups) .tuple) [field] [] es).congr ?_
  constructor
  · rintro ⟨_, nodes, hfield, _, hnode, fields, rfl, hkind⟩
    exact ⟨nodes, (spelled?_singleton.1 hfield).2, fields, hnode, hkind⟩
  · rintro ⟨nodes, hfield, fields, hnode, hkind⟩
    exact ⟨field, nodes, spelled?_singleton.2 ⟨rfl, hfield⟩, _, hnode, fields, rfl, hkind⟩

namespace GraphDocument

theorem settledUnless_ofEntries (es : Entries) : (ofEntries es).SettledUnless
    (Datum.HasUnhashableKind (.map es)) := by
  have hversion : (withDefault ["version"] "0.0" text es).Settled := by simp
  have hvalues := settledUnless_nodes Value.settled_ofEntries "values" "Value" Value.groups es
  have hcalls := settledUnless_nodes Call.settled_ofEntries "calls" "Call" Call.groups es
  exact (((hversion.map GraphDocument.mk).seq hvalues).seq hcalls).congr
    (by simp [Datum.HasUnhashableKind])

end GraphDocument

namespace CallGraph

theorem ofDatum_result (source : String) (d : Datum) :
    (ofDatum source d).result = decode source d := by
  unfold ofDatum
  cases decode source d <;> rfl

/-- A document becomes a graph or is refused with an announced error that tells its first issue,
unless a kind in it cannot be looked up: that ends the reading without an announced error. -/
theorem ofDatum_result_cases (source : String) (d : Datum) :
    ¬d.HasUnhashableKind ∧ ((∃ g, (ofDatum source d).result = .ok g) ∨
        ∃ f, (ofDatum source d).result = .error (.failure f) ∧ f.family = .parse ∧
          f.code = .schemaMismatch ∧ Mismatch source f) ∨
      d.HasUnhashableKind ∧ (ofDatum source d).result = .error (.aborted .unhashable) := by
  rw [ofDatum_result]
  cases d with
  | map es =>
    have h := GraphDocument.settledUnless_ofEntries es
    rw [decode]
    generalize GraphDocument.ofEntries es = read at h ⊢
    cases h with
    | valid document hno => exact .inl ⟨hno, .inl ⟨_, rfl⟩⟩
    | invalid i issues hno => exact .inl ⟨hno, .inr ⟨_, rfl, rfl, rfl, .issue i⟩⟩
    | aborted hkind => exact .inr ⟨hkind, rfl⟩
  | _ =>
    have hno : ∀ d, (∀ es, d ≠ .map es) → ¬Datum.HasUnhashableKind d := by
      rintro d hd ⟨es, rfl, -⟩
      exact hd es rfl
    exact .inl ⟨hno _ (by simp), .inr ⟨_, rfl, rfl, rfl, .root⟩⟩

theorem ofDatum_listedKind :
    let listed : Datum := .object [("id", .text "v"), ("kind", .list [])]
    (ofDatum "<memory>" (.object [("values", .list [listed])])).result =
      .error (.aborted .unhashable) := by
  rfl

end CallGraph

end GraphContracts
