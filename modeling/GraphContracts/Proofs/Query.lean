import GraphContracts.Graph.Query
import GraphContracts.Proofs.Outcome

namespace GraphContracts

theorem CallKind.name_injective : Function.Injective CallKind.name :=
  injective_of_readBack ofName?_name

theorem ValueKind.name_injective : Function.Injective ValueKind.name :=
  injective_of_readBack ofName?_name

theorem Text.contains_iff_isInfix {needle text : String} :
    Text.contains needle text = true ↔ needle.toList <:+: text.toList := by
  rw [Text.contains_eq_true]
  exact exists₂_congr fun _ _ ↦ eq_comm

namespace NodeQuery

variable {α : Type} {q : NodeQuery α} {a : α}

@[simp] theorem labels_filtered (label : String) (test : α → Bool) :
    (q.filtered label test).labels = q.labels ++ [label] := by
  simp [labels, filtered]

@[simp] theorem accepts_filtered (label : String) (test : α → Bool) :
    (q.filtered label test).accepts a = (q.accepts a && test a) := by
  simp [accepts, filtered]

theorem accepts_calleeContains_iff {q : CallQuery} {c : Call} {part : String} :
    (q.calleeContains part).accepts c = true ↔ q.accepts c = true ∧
      ∃ name, c.callee = some name ∧ part.toList <:+: name.toList := by
  simp only [calleeContains, accepts_filtered, Bool.and_eq_true, Option.any_eq_true,
    Text.contains_iff_isInfix]

variable [Node α]

theorem first_eq_some_iff :
    q.first = some a ↔ q.accepts a = true ∧ ∃ before after,
      Node.nodes q.graph = before ++ a :: after ∧ ∀ b ∈ before, q.accepts b = false := by
  simp only [first, all, List.head?_filter, List.find?_eq_some_iff_append, Bool.not_eq_true']

/-- The first match of a query that asks for a property: an entry that has it, behind none that
has. -/
theorem first_eq_some_iff_of_accepts {p : α → Prop}
    (hq : ∀ b ∈ Node.nodes q.graph, q.accepts b = true ↔ p b) :
    q.first = some a ↔ p a ∧ ∃ before after,
      Node.nodes q.graph = before ++ a :: after ∧ ∀ b ∈ before, ¬p b := by
  rw [first_eq_some_iff]
  constructor
  · rintro ⟨ha, before, after, hnodes, hbefore⟩
    refine ⟨(hq a (by simp [hnodes])).1 ha, before, after, hnodes, fun b hb hp ↦ ?_⟩
    have hno := hbefore b hb
    rw [(hq b (by simp [hnodes, hb])).2 hp] at hno
    cases hno
  · rintro ⟨hp, before, after, hnodes, hbefore⟩
    refine ⟨(hq a (by simp [hnodes])).2 hp, before, after, hnodes, fun b hb ↦ ?_⟩
    exact Bool.eq_false_iff.2 fun hacc ↦ hbefore b hb ((hq b (by simp [hnodes, hb])).1 hacc)

theorem first_eq_none_iff_of_accepts {p : α → Prop}
    (hq : ∀ b ∈ Node.nodes q.graph, q.accepts b = true ↔ p b) :
    q.first = none ↔ ∀ b ∈ Node.nodes q.graph, ¬p b := by
  simp only [first, all, List.head?_eq_none_iff, List.filter_eq_nil_iff]
  exact forall₂_congr fun b hb ↦ not_congr (hq b hb)

theorem mem_all_of_first (h : q.first = some a) : a ∈ q.all :=
  List.mem_of_head? h

theorem mem_of_first (h : q.first = some a) : a ∈ Node.nodes q.graph ∧ q.accepts a = true := by
  obtain ⟨ha, before, after, he, -⟩ := first_eq_some_iff.1 h
  exact ⟨by simp [he], ha⟩

end NodeQuery

namespace CallGraph

@[simp] theorem all_valueQuery (g : CallGraph) : g.valueQuery.all = g.values :=
  List.filter_eq_self.2 fun _ _ ↦ rfl

@[simp] theorem all_callQuery (g : CallGraph) : g.callQuery.all = g.calls :=
  List.filter_eq_self.2 fun _ _ ↦ rfl

end CallGraph

end GraphContracts
