import GraphContracts.Contract.Binding
import GraphContracts.Proofs.Glob
import GraphContracts.Proofs.Query
import GraphContracts.Proofs.Scope

namespace GraphContracts

/-- A callee fits a text: it contains the text or, where the text has a star or a question mark, is
one of those that the pattern stands for. -/
def CalleeMeets (text callee : String) : Prop :=
  if '*' ∈ text.toList ∨ '?' ∈ text.toList then Text.Glob.StandsFor text.toList callee.toList
  else text.toList <:+: callee.toList

theorem calleeFits_eq_true_iff {text callee : String} :
    calleeFits text callee = true ↔ CalleeMeets text callee := by
  simp only [calleeFits, CalleeMeets, Text.isGlob, Bool.or_eq_true, List.contains_iff_mem]
  split
  · exact Text.globMatches_some_iff
  · rw [Text.contains_eq_true]
    constructor
    · rintro ⟨before, after, h⟩
      exact ⟨before, after, h.symm⟩
    · rintro ⟨before, after, h⟩
      exact ⟨before, after, h.symm⟩

theorem BindingViolation.exists_failure_eq (v : BindingViolation) : ∃ message, v.failure =
    .violation message ([("scope", .text v.label),
      ("call_id", .optional .text (v.call.map Call.id)), ("position", .int v.position)] ++
        v.reason.details) :=
  ⟨_, rfl⟩

/-- What can be expected of a bound value. -/
inductive Expectation where
  | localVariable (name : String)
  | parameter (name : String)
  | literal
  | resultOf (kind callee : String)

namespace Expectation

def kind : Expectation → ValueKind
  | localVariable _ => .localVariable
  | parameter _ => .parameter
  | literal => .literal
  | resultOf _ _ => .result

inductive Met (g : CallGraph) (v : Value) : Expectation → Prop
  | localVariable {name : String} : v.kind = .localVariable →
      v.name = some (Symbol.normalizeVariable name) → Met g v (.localVariable name)
  | parameter {name : String} : v.kind = .parameter →
      v.name = some (Symbol.normalizeVariable name) → Met g v (.parameter name)
  | literal : v.kind = .literal → Met g v .literal
  | resultOf {kind callee id : String} {source : Call} : v.kind = .result →
      v.sourceCallId = some id → g.getCall id = some source → source.kind.name = kind →
      CalleeMeets callee (source.callee.getD "") → Met g v (.resultOf kind callee)

end Expectation

namespace BindingContract

def expecting (a : BindingContract) : Expectation → BindingContract
  | .localVariable name => a.pointsToLocal name
  | .parameter name => a.pointsToParameter name
  | .literal => a.pointsToLiteral
  | .resultOf kind callee => a.pointsToResultOf kind callee

/-- What is expected of the value: to expect it again would change nothing. -/
def Expects (a : BindingContract) (e : Expectation) : Prop :=
  a.expecting e = a

/-- A call of the method with the callee and the line that were asked for, as far as they were. -/
structure Asked (a : BindingContract) (s : MethodScope) (c : Call) : Prop where
  mem : c ∈ s.calls.all
  callee : ∀ part, a.callee = some part →
    ∃ name, c.callee = some name ∧ part.toList <:+: name.toList
  line : ∀ line, a.line = some line → c.line = some line

/-- The first of these calls in the document. -/
def AskedFirst (a : BindingContract) (s : MethodScope) (c : Call) : Prop :=
  a.Asked s c ∧ ∃ before after, s.graph.calls = before ++ c :: after ∧ ∀ d ∈ before, ¬a.Asked s d

def Binds (g : CallGraph) (c : Call) (position : Int) (v : Value) : Prop :=
  ∃ argument id, c.argumentAt position = some argument ∧ argument.valueId = some id ∧
    g.getValue id = some v

/-- Nothing is missing that is needed before anything is looked up. -/
structure Complete (a : BindingContract) : Prop where
  className : a.className ≠ none
  methodName : a.methodName ≠ none
  call : a.callee ≠ none ∨ a.line ≠ none
  position : a.argumentPosition ≠ none
  expectation : a.expectedKind ≠ none

variable {a : BindingContract} {s : MethodScope} {v : Value} {c : Call} {position : Int}
  {expected : ValueKind} {className methodName : String}

theorem accepts_atLine_iff {q : CallQuery} {line : Int} :
    (q.atLine line).accepts c = true ↔ q.accepts c = true ∧ c.line = some line := by
  simp only [NodeQuery.atLine, NodeQuery.accepts_filtered, Bool.and_eq_true, decide_eq_true_eq]
  rfl

theorem exists_query (a : BindingContract) (s : MethodScope) :
    ∃ q : CallQuery, a.findCall s = q.first ∧ q.graph = s.graph ∧
      ∀ d ∈ s.graph.calls, q.accepts d = true ↔ a.Asked s d := by
  have hasked : ∀ d, a.Asked s d ↔ d ∈ s.calls.all ∧
      (∀ part, a.callee = some part →
        ∃ name, d.callee = some name ∧ part.toList <:+: name.toList) ∧
      ∀ line, a.line = some line → d.line = some line :=
    fun d ↦ ⟨fun h ↦ ⟨h.mem, h.callee, h.line⟩, fun ⟨hmem, hcallee, hline⟩ ↦ ⟨hmem, hcallee, hline⟩⟩
  refine ⟨_, rfl, ?_, fun d hd ↦ ?_⟩
  · cases a.callee <;> cases a.line <;> rfl
  · rw [hasked, ← MethodScope.accepts_calls_iff hd]
    cases a.callee <;> cases a.line <;>
      simp [NodeQuery.accepts_calleeContains_iff, accepts_atLine_iff, and_assoc]

theorem findCall_eq_some_iff : a.findCall s = some c ↔ a.AskedFirst s c := by
  obtain ⟨q, hq, hgraph, haccepts⟩ := a.exists_query s
  rw [hq, AskedFirst, ← hgraph]
  exact NodeQuery.first_eq_some_iff_of_accepts (hgraph ▸ haccepts)

theorem boundValue_eq_ok_iff {g : CallGraph} :
    boundValue g c position = .ok v ↔ Binds g c position v := by
  unfold boundValue Binds
  cases hargument : c.argumentAt position with
  | none => split <;> simp
  | some argument =>
    have hne : c.arguments.isEmpty = false := by
      rw [List.isEmpty_eq_false_iff]
      exact List.ne_nil_of_mem (List.mem_of_find?_eq_some hargument)
    simp only [hne, Bool.false_eq_true, if_false]
    cases hid : argument.valueId with
    | none => simp [hid]
    | some id => cases hv : g.getValue id <;> simp [hid, hv]

theorem checkSource_eq_ok_iff : a.checkSource v = .ok () ↔ ∀ callee, a.resultCallee = some callee →
    ∃ source, a.graph.sourceCallOf v = some source ∧
      (∀ kind, a.resultKind = some kind → source.kind.name = kind) ∧
      CalleeMeets callee (source.callee.getD "") := by
  unfold checkSource
  cases a.resultCallee with
  | none => simp
  | some callee =>
    cases a.graph.sourceCallOf v with
    | none => simp
    | some source =>
      simp only [Option.some.injEq, forall_eq', exists_eq_left', ← calleeFits_eq_true_iff]
      cases hother : a.resultKind.filter fun k ↦ source.kind.name ≠ k with
      | some kind =>
        obtain ⟨hkind, hne⟩ := Option.filter_eq_some_iff.1 hother
        have hbad : ¬∀ kind, a.resultKind = some kind → source.kind.name = kind :=
          fun hall ↦ absurd (hall kind hkind) (by simpa using hne)
        simp [hbad]
      | none =>
        have hsame : ∀ kind, a.resultKind = some kind → source.kind.name = kind := by
          simpa [Option.filter_eq_none_iff] using hother
        simp only [ite_eq_left_iff, reduceCtorEq, imp_false, not_not]
        exact (and_iff_right hsame).symm

theorem checkValue_eq_ok_iff : a.checkValue v expected = .ok () ↔ v.kind = expected ∧
    (∀ name, a.expectedName = some name → v.name = some name) ∧
    (expected = .result → a.checkSource v = .ok ()) := by
  unfold checkValue
  by_cases hkind : v.kind = expected
  · simp only [hkind, ne_eq, not_true_eq_false, if_false, true_and]
    cases hother : a.expectedName.filter fun n ↦ v.name ≠ some n with
    | some name =>
      obtain ⟨hname, hne⟩ := Option.filter_eq_some_iff.1 hother
      have hbad : ¬∀ name, a.expectedName = some name → v.name = some name :=
        fun hall ↦ absurd (hall name hname) (by simpa using hne)
      simp [hbad]
    | none =>
      have hsame : ∀ name, a.expectedName = some name → v.name = some name := by
        simpa [Option.filter_eq_none_iff] using hother
      simp only [ite_eq_right_iff]
      exact (and_iff_right hsame).symm
  · simp [hkind]

theorem checkValue_expect_eq_ok_iff {name : Option String} :
    (a.expect expected name).checkValue v expected = .ok () ↔
      v.kind = expected ∧ ∀ wanted, name = some wanted → v.name = some wanted := by
  rw [checkValue_eq_ok_iff, checkSource_eq_ok_iff]
  constructor
  · intro ⟨hkind, hname, _⟩
    exact ⟨hkind, hname⟩
  · intro ⟨hkind, hname⟩
    exact ⟨hkind, hname, nofun⟩

theorem checkValue_expecting_eq_ok_iff {e : Expectation} :
    (a.expecting e).checkValue v e.kind = .ok () ↔ e.Met a.graph v := by
  cases e with
  | localVariable name =>
    apply checkValue_expect_eq_ok_iff.trans
    constructor
    · intro ⟨hkind, hname⟩
      exact .localVariable hkind (hname _ rfl)
    · intro h
      cases h with
      | localVariable hkind hname => exact ⟨hkind, by simpa using hname⟩
  | parameter name =>
    apply checkValue_expect_eq_ok_iff.trans
    constructor
    · intro ⟨hkind, hname⟩
      exact .parameter hkind (hname _ rfl)
    · intro h
      cases h with
      | parameter hkind hname => exact ⟨hkind, by simpa using hname⟩
  | literal =>
    apply checkValue_expect_eq_ok_iff.trans
    constructor
    · intro ⟨hkind, _⟩
      exact .literal hkind
    · intro h
      cases h with
      | literal hkind => exact ⟨hkind, nofun⟩
  | resultOf kind callee =>
    rw [checkValue_eq_ok_iff, checkSource_eq_ok_iff]
    constructor
    · intro ⟨hkind, _, hsource⟩
      obtain ⟨source, hcall, hsame, hcallee⟩ := hsource rfl _ rfl
      obtain ⟨id, hid, hget⟩ := Option.bind_eq_some_iff.1 hcall
      exact .resultOf hkind hid hget (hsame _ rfl) hcallee
    · intro h
      cases h with
      | @resultOf _ _ id source hkind hid hget hsame hcallee =>
        refine ⟨hkind, nofun, fun _ _ hc ↦ ?_⟩
        obtain rfl := Option.some.inj hc
        have hcall : a.graph.sourceCallOf v = some source :=
          Option.bind_eq_some_iff.2 ⟨id, hid, hget⟩
        refine ⟨source, hcall, fun _ hk ↦ ?_, hcallee⟩
        exact hsame.trans (Option.some.inj hk)

theorem verifyIn_eq_ok_iff : a.verifyIn s position expected = .ok v ↔ ∃ c, a.AskedFirst s c ∧
    Binds a.graph c position v ∧ a.checkValue v expected = .ok () := by
  simp only [← findCall_eq_some_iff, ← boundValue_eq_ok_iff]
  unfold verifyIn
  cases a.findCall s with
  | none => simp
  | some c =>
    simp only [mapError_eq_ok_iff, bind_eq_ok_iff, pure, Except.pure, Except.ok.injEq,
      Option.some.injEq, exists_eq_left']
    constructor
    · rintro ⟨w, hw, ⟨⟩, hcheck, rfl⟩
      exact ⟨hw, hcheck⟩
    · intro ⟨hv, hcheck⟩
      exact ⟨v, hv, (), hcheck, rfl⟩

/-- Whatever is wrong, it is told where: with the method, the position and the call that was found,
if one was. -/
theorem place_of_verifyIn_eq_error {violation : BindingViolation}
    (h : a.verifyIn s position expected = .error violation) :
    violation.label = s.label ∧ violation.call = a.findCall s ∧ violation.position = position := by
  unfold verifyIn at h
  cases hcall : a.findCall s with
  | none =>
    simp only [hcall, Except.error.injEq] at h
    exact h ▸ ⟨rfl, rfl, rfl⟩
  | some c =>
    rw [hcall, mapError_eq_error_iff] at h
    obtain ⟨reason, -, rfl⟩ := h
    exact ⟨rfl, rfl, rfl⟩

theorem expects_expecting (a : BindingContract) (e : Expectation) : (a.expecting e).Expects e := by
  cases e <;> rfl

theorem Expects.expectedKind {e : Expectation} (h : a.Expects e) :
    a.expectedKind = some e.kind := by
  rw [← h]
  cases e <;> rfl

theorem isNone_and_isNone_eq_false_iff :
    (a.callee.isNone && a.line.isNone) = false ↔ a.callee ≠ none ∨ a.line ≠ none := by
  cases a.callee <;> cases a.line <;> simp

theorem verify_eq_verifyIn (hclass : a.className = some className)
    (hmethod : a.methodName = some methodName) (hasked : a.callee ≠ none ∨ a.line ≠ none)
    (hposition : a.argumentPosition = some position) (hexpected : a.expectedKind = some expected) :
    a.verify = (a.verifyIn (.ofNames a.graph className methodName) position expected).mapError
      .violated := by
  have hsome := isNone_and_isNone_eq_false_iff.2 hasked
  simp only [verify, hclass, hmethod, hsome, hposition, hexpected, Bool.false_eq_true, if_false]

theorem not_complete_iff : ¬a.Complete ↔
    ∃ gap, ∀ g, { a with graph := g }.verify = .error (.incomplete gap) := by
  constructor
  · intro h
    cases hclass : a.className with
    | none => exact ⟨.method, fun _ ↦ rfl⟩
    | some className =>
    cases hmethod : a.methodName with
    | none => exact ⟨.method, fun _ ↦ rfl⟩
    | some methodName =>
    by_cases hasked : a.callee = none ∧ a.line = none
    · exact ⟨.call, fun _ ↦ by simp [verify, hasked]⟩
    have hasked' := not_and_or.1 hasked
    have hsome := isNone_and_isNone_eq_false_iff.2 hasked'
    cases hposition : a.argumentPosition with
    | none => exact ⟨.position, fun _ ↦ by simp [verify, hsome]⟩
    | some position =>
    cases hexpected : a.expectedKind with
    | none => exact ⟨.expectation, fun _ ↦ by simp [verify, hsome]⟩
    | some expected =>
      refine absurd ⟨?_, ?_, hasked', ?_, ?_⟩ h
      · simp [hclass]
      · simp [hmethod]
      · simp [hposition]
      · simp [hexpected]
  · -- with everything there only a violation can be told
    intro ⟨gap, hgap⟩ h
    obtain ⟨className, hclass⟩ := Option.ne_none_iff_exists'.1 h.className
    obtain ⟨methodName, hmethod⟩ := Option.ne_none_iff_exists'.1 h.methodName
    obtain ⟨position, hposition⟩ := Option.ne_none_iff_exists'.1 h.position
    obtain ⟨expected, hexpected⟩ := Option.ne_none_iff_exists'.1 h.expectation
    have hverify := hgap a.graph
    rw [verify_eq_verifyIn hclass hmethod h.call hposition hexpected,
      mapError_eq_error_iff] at hverify
    obtain ⟨_, _, hviolated⟩ := hverify
    cases hviolated

/-- The verdict on a binding. Where the description is complete, the value is returned that stands
at the position of the first call that was asked for, if there is such a call, there is such a
value, and it is as expected. Everything else is a violation, which tells the method, the call that
was found and the position. Where the description is not complete, nothing is looked up. -/
theorem verdict_of_binding (a : BindingContract) :
    (∀ className methodName position e, a.className = some className →
      a.methodName = some methodName → (a.callee ≠ none ∨ a.line ≠ none) →
      a.argumentPosition = some position → a.Expects e →
      let s := MethodScope.ofNames a.graph className methodName
      (∀ v, a.verify = .ok v ↔
        ∃ c, a.AskedFirst s c ∧ Binds a.graph c position v ∧ e.Met a.graph v) ∧
      ∀ fault, a.verify = .error fault → ∃ violation message more found,
        fault = .violated violation ∧
        violation.failure = .violation message ([("scope", .text s.label),
          ("call_id", .optional .text (found.map Call.id)), ("position", .int position)] ++ more) ∧
        ∀ c, found = some c ↔ a.AskedFirst s c) ∧
    (¬a.Complete ↔ ∃ gap, ∀ g, { a with graph := g }.verify = .error (.incomplete gap)) := by
  refine ⟨?_, not_complete_iff⟩
  intro className methodName position e hclass hmethod hasked hposition hexpects s
  have hverify := verify_eq_verifyIn hclass hmethod hasked hposition hexpects.expectedKind
  constructor
  · intro v
    have hcheck : a.checkValue v e.kind = .ok () ↔ e.Met a.graph v := by
      rw [← checkValue_expecting_eq_ok_iff, hexpects]
    rw [hverify, mapError_eq_ok_iff, verifyIn_eq_ok_iff]
    simp only [hcheck, s]
  · intro fault h
    rw [hverify, mapError_eq_error_iff] at h
    obtain ⟨violation, hviolation, rfl⟩ := h
    obtain ⟨hlabel, hcall, rfl⟩ := place_of_verifyIn_eq_error hviolation
    obtain ⟨message, hfailure⟩ := violation.exists_failure_eq
    rw [hlabel] at hfailure
    refine ⟨violation, message, _, violation.call, rfl, hfailure, fun c ↦ ?_⟩
    rw [hcall, findCall_eq_some_iff]

end BindingContract

namespace MailSent

open BindingContract

def address : Value :=
  ⟨"v", .result, none, none, none, none, some "e", none, none, none⟩

def read : Call :=
  ⟨"e", .access, none, "App/Service#run().", some "App/User#$email.", none, none, none, none, []⟩

def send : Call :=
  ⟨"s", .method, none, "App/Service#run().", some "App/Mailer#send().", none, none, none, none,
    [⟨0, none, some "v", none⟩]⟩

def graph : CallGraph :=
  ⟨⟨"1.0", [address], [read, send]⟩, "<memory>"⟩

def argument (position : Int) : BindingContract :=
  (((ofGraph graph).inMethod "App\\Service" "run").atCall "send").position position

def sent (position : Int) : BindingContract :=
  (argument position).pointsToResultOf "access" "*#$emai?."

theorem askedFirst_send (position : Int) :
    (sent position).AskedFirst (.ofNames graph "App\\Service" "run") send := by
  have hcall : (sent 0).findCall (.ofNames graph "App\\Service" "run") = some send := by decide
  exact findCall_eq_some_iff.1 hcall

theorem met_address : (Expectation.resultOf "access" "*#$emai?.").Met graph address := by
  have hread : graph.getCall "e" = some read := by decide
  refine .resultOf rfl rfl hread rfl (calleeFits_eq_true_iff.1 ?_)
  decide

theorem verdicts_of_mail :
    (sent 0).verify = .ok address ∧
    (∃ violation message more, (sent 1).verify = .error (.violated violation) ∧
      violation.failure = .violation message ([("scope", .text "App\\Service::run"),
        ("call_id", .text "s"), ("position", .int 1)] ++ more)) ∧
    ∃ gap, ∀ g, { ofGraph graph with graph := g }.verify = .error (.incomplete gap) := by
  have hexpects : ∀ position, (sent position).Expects (.resultOf "access" "*#$emai?.") :=
    fun position ↦ expects_expecting (argument position) (.resultOf "access" "*#$emai?.")
  have hverdict : ∀ position, _ := fun position ↦ (verdict_of_binding (sent position)).1
    (Symbol.bareClass "App\\Service") "run" position _ rfl rfl (.inl nofun) rfl (hexpects position)
  refine ⟨?_, ?_, ?_⟩
  · apply ((hverdict 0).1 address).2
    exact ⟨send, askedFirst_send 0, ⟨_, _, rfl, rfl, by decide⟩, met_address⟩
  · have hmissed : (sent 1).verify = .error (.violated
        ⟨"App\\Service::run", some send, 1, .noPosition [0]⟩) := by decide
    obtain ⟨violation, message, more, found, hfault, hfailure, hfound⟩ := (hverdict 1).2 _ hmissed
    obtain rfl := (hfound send).2 (askedFirst_send 1)
    exact ⟨violation, message, more, hfault ▸ hmissed, hfailure⟩
  · apply (verdict_of_binding (ofGraph graph)).2.1
    intro h
    exact h.className rfl

end MailSent

end GraphContracts
