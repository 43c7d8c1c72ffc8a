import GraphContracts.Proofs.Query.Filter

namespace GraphContracts

namespace NodeQuery

variable {α β : Type} {q q' : NodeQuery α} {g : CallGraph} {labels labels' : List String}
  {asks asks' : α → Prop}

section Answers

variable [Node α]

/-- An outcome is a broken promise about the matches of a query. -/
def Refuses (q : NodeQuery α) (outcome : Except Failure β) : Prop :=
  ∃ (message : String) (details : List (String × Datum)), outcome = .error
    (.violation s!"{message}. Filters applied: {q.describeFilters}"
      (("filters", .texts q.labels) :: ("count", .nat q.all.length) :: details))

/-- A promise that holds gives the query back, and one that does not is refused. -/
structure Promises (q : NodeQuery α) (outcome : Except Failure (NodeQuery α)) (holds : Prop) :
    Prop where
  kept : outcome = .ok q ↔ holds
  broken : ¬holds → q.Refuses outcome

/-- What a query answers that goes through a graph, lists these labels and asks for this
property. -/
structure Answers (q : NodeQuery α) (g : CallGraph) (labels : List String) (asks : α → Prop) :
    Prop where
  labels : q.labels = labels
  all : ∀ [DecidablePred asks], q.all = (Node.nodes g).filter fun a ↦ asks a
  first : q.first = q.all.head?
  count : q.count = q.all.length
  isInhabited : q.isInhabited = true ↔ q.all ≠ []
  one : ∀ a, q.one = .ok a ↔ q.all = [a]
  one_refused : q.all.length ≠ 1 → q.Refuses q.one
  assertCount : ∀ n : Int, q.Promises (q.assertCount n) (q.all.length = n)
  assertExists : q.Promises q.assertExists (0 < q.all.length)
  assertEmpty : q.Promises q.assertEmpty (q.all.length = 0)

theorem isInhabited_iff : q.isInhabited = true ↔ q.all ≠ [] := by
  rw [isInhabited, first, List.isSome_head?]

theorem refuses_one (h : q.all.length ≠ 1) : q.Refuses q.one := by
  unfold one Expect.one
  split
  · rename_i a hall
    exact absurd (by rw [hall]; rfl) h
  · exact ⟨_, [], rfl⟩

theorem promises_assertCount (n : Int) : q.Promises (q.assertCount n) (q.all.length = n) := by
  unfold assertCount Expect.count
  split
  · rename_i h
    exact ⟨iff_of_true rfl h, fun hno ↦ absurd h hno⟩
  · rename_i h
    exact ⟨iff_of_false nofun h, fun _ ↦ ⟨_, [("expected", .int n)], rfl⟩⟩

theorem promises_assertExists : q.Promises q.assertExists (0 < q.all.length) := by
  have hiff : q.isInhabited = true ↔ 0 < q.all.length := by
    rw [isInhabited_iff, List.length_pos_iff]
  unfold assertExists Expect.atLeastOne
  split
  · rename_i h
    exact ⟨iff_of_true rfl (hiff.1 h), fun hno ↦ absurd (hiff.1 h) hno⟩
  · rename_i h
    refine ⟨iff_of_false nofun fun hpos ↦ h (hiff.2 hpos), fun hno ↦ ?_⟩
    rw [Refuses, Nat.eq_zero_of_not_pos hno]
    exact ⟨_, [], rfl⟩

theorem promises_assertEmpty : q.Promises q.assertEmpty (q.all.length = 0) := by
  have hlength : (q.all.map Node.id).length = q.all.length := List.length_map _
  unfold assertEmpty
  split
  · rename_i hids
    have hzero : q.all.length = 0 := by rw [← hlength, hids, List.length_nil]
    exact ⟨iff_of_true rfl hzero, fun hno ↦ absurd hzero hno⟩
  · rename_i hids
    have hne : q.all.length ≠ 0 := by rwa [← hlength, ne_eq, List.length_eq_zero_iff]
    refine ⟨iff_of_false nofun hne, fun _ ↦ ?_⟩
    rw [Refuses, ← hlength]
    exact ⟨_, [("ids", .texts (q.all.map Node.id))], rfl⟩

theorem Narrowed.all_eq (h : q.Narrowed g labels asks) [DecidablePred asks] :
    q.all = (Node.nodes g).filter fun a ↦ asks a := by
  rw [all, h.graph]
  exact List.filter_congr fun a _ ↦ Bool.eq_iff_iff.2 ((h.accepts a).trans decide_eq_true_iff.symm)

theorem Narrowed.answers (h : q.Narrowed g labels asks) : q.Answers g labels asks where
  labels := h.labels
  all := h.all_eq
  first := rfl
  count := rfl
  isInhabited := isInhabited_iff
  one _ := Expect.one_eq_ok
  one_refused := refuses_one
  assertCount := promises_assertCount
  assertExists := promises_assertExists
  assertEmpty := promises_assertEmpty

theorem Narrowed.all_congr (h : q.Narrowed g labels asks) (h' : q'.Narrowed g labels' asks')
    (hasks : ∀ a, asks a ↔ asks' a) : q.all = q'.all := by
  classical
  rw [h.all_eq, h'.all_eq]
  exact List.filter_congr fun a _ ↦ decide_eq_decide.2 (hasks a)

end Answers

theorem Narrowed.foldl {φ : Type} {apply : NodeQuery α → φ → NodeQuery α} {label : φ → String}
    {Asks : φ → α → Prop}
    (hstep : ∀ {q : NodeQuery α} {labels asks}, q.Narrowed g labels asks → ∀ f,
      (apply q f).Narrowed g (labels ++ [label f]) fun a ↦ asks a ∧ Asks f a)
    (h : q.Narrowed g labels asks) (fs : List φ) :
    (fs.foldl apply q).Narrowed g (labels ++ fs.map label) fun a ↦
      asks a ∧ ∀ f ∈ fs, Asks f a := by
  induction fs generalizing q labels asks with
  | nil => simpa using h
  | cons f fs ih =>
    simpa [List.forall_mem_cons, and_assoc] using ih (hstep h f)

end NodeQuery

section Sequences

variable (g : CallGraph) (origin : Origin)

def Origin.valuesBy (fs : List ValueFilter) : ValueQuery :=
  fs.foldl (fun q f ↦ f.apply q) (origin.valueQuery g)

def Origin.callsBy (fs : List CallFilter) : CallQuery :=
  fs.foldl (fun q f ↦ f.apply q) (origin.callQuery g)

theorem Origin.narrowed_valuesBy (fs : List ValueFilter) :
    (origin.valuesBy g fs).Narrowed g (origin.valueLabels ++ fs.map ValueFilter.label) fun v ↦
      origin.AsksValue g v ∧ ∀ f ∈ fs, f.Asks v :=
  (origin.narrowed_valueQuery g).foldl (fun h f ↦ f.narrowed_apply h) fs

theorem Origin.narrowed_callsBy (fs : List CallFilter) :
    (origin.callsBy g fs).Narrowed g (origin.callLabels ++ fs.map CallFilter.label) fun c ↦
      origin.AsksCall c ∧ ∀ f ∈ fs, f.Asks c :=
  (origin.narrowed_callQuery g).foldl (fun h f ↦ f.narrowed_apply h) fs

/-- A query answers the nodes at its start that every filter asks for, and lists its filters as they
were applied. Their order and their number make no difference to the answer, and a query that is
narrowed further answers as before. -/
theorem Origin.answers_by_filters :
    (∀ fs : List ValueFilter, (origin.valuesBy g fs).Answers g
      (origin.valueLabels ++ fs.map ValueFilter.label) fun v ↦
        origin.AsksValue g v ∧ ∀ f ∈ fs, f.Asks v) ∧
    (∀ fs : List CallFilter, (origin.callsBy g fs).Answers g
      (origin.callLabels ++ fs.map CallFilter.label) fun c ↦
        origin.AsksCall c ∧ ∀ f ∈ fs, f.Asks c) ∧
    (∀ fs fs' : List ValueFilter, (∀ f, f ∈ fs ↔ f ∈ fs') →
      (origin.valuesBy g fs).all = (origin.valuesBy g fs').all) ∧
    (∀ fs fs' : List CallFilter, (∀ f, f ∈ fs ↔ f ∈ fs') →
      (origin.callsBy g fs).all = (origin.callsBy g fs').all) ∧
    ∀ (m : Script.Machine) (i : Int) (maker : Nat),
      (∀ q (f : ValueFilter), m.register? i = some ⟨maker, .values q⟩ →
        m.Derives i ⟨maker, .values q⟩ (f.step i) (.values (f.apply q))) ∧
      ∀ q (f : CallFilter), m.register? i = some ⟨maker, .calls q⟩ →
        m.Derives i ⟨maker, .calls q⟩ (f.step i) (.calls (f.apply q)) := by
  refine ⟨fun fs ↦ (origin.narrowed_valuesBy g fs).answers,
    fun fs ↦ (origin.narrowed_callsBy g fs).answers, fun fs fs' hmem ↦ ?_, fun fs fs' hmem ↦ ?_,
    fun m i maker ↦ ⟨fun q f h ↦ f.derives h, fun q f h ↦ f.derives h⟩⟩
  · refine (origin.narrowed_valuesBy g fs).all_congr (origin.narrowed_valuesBy g fs') fun v ↦ ?_
    simp only [hmem]
  · refine (origin.narrowed_callsBy g fs).all_congr (origin.narrowed_callsBy g fs') fun c ↦ ?_
    simp only [hmem]

end Sequences

namespace SavedOrder

def parameter (id symbol : String) : Value :=
  ⟨id, .parameter, none, some symbol, none, none, none, none, none, none⟩

def saved : Value :=
  parameter "p" "App/Order#save().($order)"

def loaded : Value :=
  parameter "q" "App/Order#load().($order)"

def result : Value :=
  ⟨"r", .result, none, none, none, none, some "c", none, none, none⟩

def put : Call :=
  ⟨"c", .method, none, "App/Order#save().", some "App/Orders#put().", none, none, some "r", none,
    []⟩

def graph : CallGraph :=
  ⟨⟨"1.0", [saved, loaded, result], [put]⟩, "<memory>"⟩

def save : Origin :=
  .method "App\\Order" "save"

def parameters : List ValueFilter :=
  [.shared (.kind "parameter"), .named "order"]

def repeated : List ValueFilter :=
  [.named "order", .shared (.kind "parameter"), .named "order"]

def calls : List CallFilter :=
  [.calleeContains "put", .shared (.kind "method")]

def machine : Script.Machine :=
  ⟨[some ⟨0, .values (save.valuesBy graph parameters)⟩,
      some ⟨1, .calls (save.callsBy graph calls)⟩], 0, [], []⟩

theorem answers_by_parameters :
    let q := save.valuesBy graph parameters
    let p := save.callsBy graph calls
    q.labels = ["scope=App/Order#save()", "kind=parameter", "name=$order"] ∧ q.one = .ok saved ∧
      q.Refuses q.assertEmpty ∧ (save.valuesBy graph repeated).all = [saved] ∧
      p.Refuses (p.assertCount 2) ∧ (save.callsBy graph calls.reverse).all = [put] ∧
      machine.Derives 0 ⟨0, .values q⟩ ((ValueFilter.symbol "none").step 0)
        (.values (q.symbol "none")) ∧
      machine.Derives 1 ⟨1, .calls p⟩ (CallFilter.hasReceiver.step 1) (.calls p.hasReceiver) := by
  obtain ⟨hvalues, hcalls, hvalues', hcalls', hderives⟩ := Origin.answers_by_filters graph save
  have hq : (save.valuesBy graph parameters).all = [saved] := by decide
  have hp : (save.callsBy graph calls).all = [put] := by decide
  have hmem : ∀ f, f ∈ parameters ↔ f ∈ repeated := by
    intro f
    simp only [parameters, repeated, List.mem_cons, List.not_mem_nil, or_false]
    rw [or_left_comm, or_self]
  refine ⟨(hvalues parameters).labels, ((hvalues parameters).one saved).2 hq,
    (hvalues parameters).assertEmpty.broken (by simp [hq]), ?_,
    ((hcalls calls).assertCount 2).broken (by simp [hp]), ?_,
    (hderives machine 0 0).1 _ (.symbol "none") rfl, (hderives machine 1 1).2 _ .hasReceiver rfl⟩
  · rw [← hvalues' parameters repeated hmem, hq]
  · rw [← hcalls' calls calls.reverse fun f ↦ List.mem_reverse.symm, hp]

end SavedOrder

end GraphContracts
