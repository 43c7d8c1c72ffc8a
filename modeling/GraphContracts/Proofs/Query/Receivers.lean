import GraphContracts.Proofs.Groups
import GraphContracts.Proofs.Query
import Mathlib.Data.Set.Subsingleton
import Mathlib.Data.String.Basic

namespace GraphContracts

namespace NodeQuery

variable {q : CallQuery} {r : String}

/-- A match with a receiver has this one. -/
def Receives (q : CallQuery) (r : String) : Prop :=
  ∃ c ∈ q.hasReceiver.all, c.receiverValueId = some r

theorem receives_iff : q.Receives r ↔ ∃ c ∈ q.all, c.receiverValueId = some r := by
  simp only [Receives, hasReceiver, all_filtered, List.mem_filter]
  constructor
  · intro ⟨c, hc, hr⟩
    exact ⟨c, hc.1, hr⟩
  · intro ⟨c, hc, hr⟩
    exact ⟨c, ⟨hc, by rw [hr, Option.isSome_some]⟩, hr⟩

theorem mem_receivers : r ∈ q.receivers ↔ q.Receives r ∧ r ≠ "" := by
  rw [receives_iff, receivers, (List.mergeSort_perm _ _).mem_iff, List.mem_eraseDups,
    List.mem_filterMap]
  simp only [nonEmpty_eq_some]
  constructor
  · intro ⟨c, hc, hr, hne⟩
    exact ⟨⟨c, hc, hr⟩, hne⟩
  · intro ⟨⟨c, hc, hr⟩, hne⟩
    exact ⟨c, hc, hr, hne⟩

theorem nodup_receivers (q : CallQuery) : q.receivers.Nodup :=
  (List.mergeSort_perm _ _).nodup_iff.2 (nodup_eraseDups _)

theorem sorted_receivers (q : CallQuery) : q.receivers.Pairwise (· < ·) := by
  have hle : q.receivers.Pairwise (· ≤ ·) := by
    refine (List.pairwise_mergeSort ?_ ?_ _).imp of_decide_eq_true
    · intro a b c hab hbc
      simp only [decide_eq_true_eq] at hab hbc ⊢
      exact le_trans hab hbc
    · intro a b
      simpa using le_total a b
  exact (hle.and (nodup_receivers q)).imp fun h ↦ lt_of_le_of_ne h.1 h.2

theorem allShareReceiver_iff :
    q.allShareReceiver = true ↔ {r | q.Receives r ∧ r ≠ ""}.Subsingleton := by
  have hmem : {r | q.Receives r ∧ r ≠ ""} = {r | r ∈ q.receivers} :=
    Set.ext fun r ↦ mem_receivers.symm
  have hsorted := sorted_receivers q
  rw [hmem, allShareReceiver, decide_eq_true_iff]
  generalize q.receivers = rs at hsorted
  constructor
  · intro hlen
    have hone : ∀ r ∈ rs, ∀ s ∈ rs, r = s := by
      match rs with
      | [] => simp
      | [r] => simp
      | _ :: _ :: _ => simp at hlen
    exact fun r hr s hs ↦ hone r hr s hs
  · intro hone
    match rs with
    | [] => simp
    | [_] => simp
    | r :: s :: _ =>
      have hrs : r < s := (List.pairwise_cons.1 hsorted).1 s List.mem_cons_self
      have heq : r = s := hone (by simp) (by simp)
      exact absurd heq (ne_of_lt hrs)

/-- Receivers that differ go unseen exactly where there are two and one of them has an empty id. -/
theorem subsingleton_receives_iff : {r | q.Receives r}.Subsingleton ↔
    q.allShareReceiver = true ∧ ¬(q.Receives "" ∧ ∃ r, q.Receives r ∧ r ≠ "") := by
  rw [allShareReceiver_iff]
  constructor
  · intro h
    refine ⟨h.anti fun r hr ↦ hr.1, ?_⟩
    intro ⟨hempty, r, hr, hne⟩
    exact hne (h hr hempty)
  · intro ⟨hnamed, hno⟩ r hr s hs
    by_cases hr' : r = ""
    · by_cases hs' : s = ""
      · rw [hr', hs']
      · exact absurd ⟨hr' ▸ hr, s, hs, hs'⟩ hno
    · by_cases hs' : s = ""
      · exact absurd ⟨hs' ▸ hs, r, hr, hr'⟩ hno
      · exact hnamed ⟨hr, hr'⟩ ⟨hs, hs'⟩

/-- What a query says about the receivers of its matches, and what it refuses. -/
theorem verdict_of_receivers (q : CallQuery) :
    (q.allShareReceiver = true ↔ {r | q.Receives r ∧ r ≠ ""}.Subsingleton) ∧
    ({r | q.Receives r}.Subsingleton ↔
      q.allShareReceiver = true ∧ ¬(q.Receives "" ∧ ∃ r, q.Receives r ∧ r ≠ "")) ∧
    ∃ rs : List String, rs.Pairwise (· < ·) ∧ (∀ r, r ∈ rs ↔ q.Receives r ∧ r ≠ "") ∧
      q.assertAllShareReceiver =
        if q.allShareReceiver then .ok q
        else
          let listed := Text.joinWith ", " rs
          let message := s!"Expected one shared receiver, found {rs.length} ({listed})"
          .error (.violation s!"{message}. Filters applied: {q.describeFilters}"
            [("filters", .texts q.labels), ("receivers", .texts rs)]) :=
  ⟨allShareReceiver_iff, subsingleton_receives_iff, q.receivers, sorted_receivers q,
    fun _ ↦ mem_receivers, rfl⟩

end NodeQuery

namespace UnnamedReceiver

def entry (id receiver : String) : Datum :=
  .object [("id", .text id), ("kind", .text "method"), ("caller", .text "App/Service#run()."),
    ("receiver_value_id", .text receiver)]

def document : Datum :=
  .object [("calls", .list [entry "a" "", entry "b" "order"])]

def call (id receiver : String) : Call :=
  ⟨id, .method, some .invocation, "App/Service#run().", none, none, some receiver, none, none, []⟩

def graph : CallGraph :=
  ⟨⟨"0.0", [], [call "a" "", call "b" "order"]⟩, "<memory>"⟩

theorem receives_iff_mem {r : String} : graph.callQuery.Receives r ↔ r = "" ∨ r = "order" := by
  rw [NodeQuery.receives_iff, CallGraph.all_callQuery]
  simp [graph, CallGraph.calls, call, eq_comm]

theorem allShareReceiver_of_unnamed :
    (CallGraph.ofDatum "<memory>" document).result = .ok graph ∧
      graph.callQuery.hasReceiver.all.map Call.receiverValueId = [some "", some "order"] ∧
      ¬{r | graph.callQuery.Receives r}.Subsingleton ∧
      graph.callQuery.allShareReceiver = true ∧
      graph.callQuery.assertAllShareReceiver = .ok graph.callQuery := by
  have hempty : graph.callQuery.Receives "" := receives_iff_mem.2 (.inl rfl)
  have horder : graph.callQuery.Receives "order" := receives_iff_mem.2 (.inr rfl)
  have hshare : graph.callQuery.allShareReceiver = true := by
    refine NodeQuery.allShareReceiver_iff.2 fun r hr s hs ↦ ?_
    rw [(receives_iff_mem.1 hr.1).resolve_left hr.2, (receives_iff_mem.1 hs.1).resolve_left hs.2]
  refine ⟨rfl, rfl, ?_, hshare, ?_⟩
  · intro hone
    exact absurd (hone hempty horder) (by decide)
  · rw [NodeQuery.assertAllShareReceiver, if_pos hshare]

end UnnamedReceiver

end GraphContracts
