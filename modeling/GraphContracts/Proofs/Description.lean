import GraphContracts.Contract.Reference
import GraphContracts.Proofs.Binding.Verdict
import GraphContracts.Proofs.Chain.Verify
import GraphContracts.Proofs.Symbol

namespace GraphContracts

section Latest

variable {σ α β γ : Type}

/-- What the last of some calls given, among those that say anything. -/
def latest (given : α → Option β) (calls : List α) : Option β :=
  calls.reverse.findSome? given

theorem latest_concat (given : α → Option β) (calls : List α) (c : α) :
    latest given (calls ++ [c]) = (given c).or (latest given calls) := by
  rw [latest, List.reverse_concat, List.findSome?_cons]
  cases given c <;> rfl

theorem foldl_latest {ask : σ → α → σ} {field : σ → γ} {given : α → Option β} {put : β → γ}
    (h : ∀ s c, field (ask s c) = ((given c).map put).getD (field s)) (s : σ) (calls : List α) :
    field (calls.foldl ask s) = ((latest given calls).map put).getD (field s) := by
  induction calls using List.reverseRecOn with
  | nil => rfl
  | append_singleton calls c ih =>
    rw [List.foldl_concat, h, ih, latest_concat]
    cases given c <;> rfl

end Latest

/-- A call that describes a chain. A kind is given by its name. -/
inductive ChainRequest where
  | startingAt (id : String)
  | startingFrom (className methodName name : String)
  | throughAccess (property : String)
  | throughMethod (name : String)
  | endingAtKind (kind : String)
  | withLength (calls : Int)
  deriving DecidableEq, Repr

inductive ChainStart where
  | value (id : String)
  | variableOf (className methodName name : String)
  deriving DecidableEq, Repr

namespace ChainRequest

def start? : ChainRequest → Option ChainStart
  | startingAt id => some (.value id)
  | startingFrom className methodName name => some (.variableOf className methodName name)
  | _ => none

def hop? : ChainRequest → Option Hop
  | throughAccess property => some (.access, property)
  | throughMethod name => some (.method, name)
  | _ => none

def endKind? : ChainRequest → Option ValueKind
  | endingAtKind kind => ValueKind.ofName? kind
  | _ => none

def length? : ChainRequest → Option Int
  | withLength calls => some calls
  | _ => none

def restarts : ChainRequest → Bool
  | startingAt _ => true
  | _ => false

/-- The hops behind the last start at a value. -/
def hopsSince (calls : List ChainRequest) : List Hop :=
  (calls.reverse.takeWhile fun q ↦ !q.restarts).reverse.filterMap hop?

theorem hopsSince_concat (calls : List ChainRequest) (q : ChainRequest) :
    hopsSince (calls ++ [q]) = if q.restarts then [] else hopsSince calls ++ q.hop?.toList := by
  rw [hopsSince, List.reverse_concat, List.takeWhile_cons]
  cases hq : q.restarts with
  | true => rfl
  | false =>
    rw [Bool.not_false, if_pos rfl, if_neg Bool.false_ne_true, List.reverse_cons,
      List.filterMap_append, hopsSince]
    cases hhop : q.hop? <;> simp [hhop]

end ChainRequest

namespace ChainContract

/-- The contract after a call. A call with a kind that there is not is refused. -/
def tell (a : ChainContract) : ChainRequest → Except String ChainContract
  | .startingAt id => .ok (a.startingAt id)
  | .startingFrom className methodName name => .ok (a.startingFrom className methodName name)
  | .throughAccess property => .ok (a.throughAccess property)
  | .throughMethod name => .ok (a.throughMethod name)
  | .endingAtKind kind => (ValueKind.ofDatum (.text kind)).map a.endingAtKind
  | .withLength calls => .ok (a.withLength calls)

/-- The contract that is at hand after a call: where the call is refused, the one before it. -/
def ask (a : ChainContract) (q : ChainRequest) : ChainContract :=
  (a.tell q).toOption.getD a

variable {a : ChainContract}

theorem ask_endingAtKind (a : ChainContract) (kind : String) : a.ask (.endingAtKind kind) =
    { a with endKind := ((ValueKind.ofName? kind).map some).getD a.endKind } := by
  simp only [ask, tell, ValueKind.ofDatum, memberNamed]
  cases ValueKind.ofName? kind <;> rfl

theorem graph_ask (a : ChainContract) (q : ChainRequest) : (a.ask q).graph = a.graph := by
  cases q with
  | endingAtKind kind => rw [ask_endingAtKind]
  | _ => rfl

theorem hops_ask (a : ChainContract) (q : ChainRequest) :
    (a.ask q).hops = if q.restarts then [] else a.hops ++ q.hop?.toList := by
  cases q with
  | endingAtKind kind =>
    rw [ask_endingAtKind]
    exact (List.append_nil _).symm
  | startingFrom | withLength => exact (List.append_nil _).symm
  | _ => rfl

theorem endKind_ask (a : ChainContract) (q : ChainRequest) :
    (a.ask q).endKind = (q.endKind?.map some).getD a.endKind := by
  cases q with
  | endingAtKind kind =>
    rw [ask_endingAtKind]
    rfl
  | _ => rfl

theorem length_ask (a : ChainContract) (q : ChainRequest) :
    (a.ask q).length = (q.length?.map some).getD a.length := by
  cases q with
  | endingAtKind kind =>
    rw [ask_endingAtKind]
    rfl
  | _ => rfl

def Starts (a : ChainContract) : Option ChainStart → Prop
  | none => a.startValueId = none ∧ a.startVariable = none
  | some (.value id) => a.startValueId = some id ∧ a.startVariable = none
  | some (.variableOf className methodName name) =>
    a.startValueId = none ∧ a.startVariable = some name ∧
      a.className = some (Symbol.bareClass className) ∧ a.methodName = some methodName

theorem starts_ask {start : Option ChainStart} (h : a.Starts start) (q : ChainRequest) :
    (a.ask q).Starts (q.start?.or start) := by
  have hkept : ∀ b : ChainContract, b.startValueId = a.startValueId →
      b.startVariable = a.startVariable → b.className = a.className →
      b.methodName = a.methodName → b.Starts start := by
    intro b hid hname hclass hmethod
    cases start with
    | none => simpa only [Starts, hid, hname] using h
    | some start => cases start <;> simpa only [Starts, hid, hname, hclass, hmethod] using h
  cases q with
  | startingAt id => exact ⟨rfl, rfl⟩
  | startingFrom className methodName name => exact ⟨rfl, rfl, rfl, rfl⟩
  | endingAtKind kind =>
    rw [ask_endingAtKind]
    exact hkept _ rfl rfl rfl rfl
  | _ => exact hkept _ rfl rfl rfl rfl

theorem starts_foldl (g : CallGraph) (calls : List ChainRequest) :
    (calls.foldl ask (ofGraph g)).Starts (latest ChainRequest.start? calls) := by
  induction calls using List.reverseRecOn with
  | nil => exact ⟨rfl, rfl⟩
  | append_singleton calls q ih =>
    rw [List.foldl_concat, latest_concat]
    exact starts_ask ih q

theorem graph_foldl (g : CallGraph) (calls : List ChainRequest) :
    (calls.foldl ask (ofGraph g)).graph = g := by
  induction calls using List.reverseRecOn with
  | nil => rfl
  | append_singleton calls q ih => rw [List.foldl_concat, graph_ask, ih]

theorem hops_foldl (g : CallGraph) (calls : List ChainRequest) :
    (calls.foldl ask (ofGraph g)).hops = ChainRequest.hopsSince calls := by
  induction calls using List.reverseRecOn with
  | nil => rfl
  | append_singleton calls q ih =>
    rw [List.foldl_concat, hops_ask, ih, ChainRequest.hopsSince_concat]

theorem Starts.one {start : Option ChainStart} (h : a.Starts start) :
    a.startValueId = none ∨ a.startVariable = none := by
  cases start with
  | none => exact .inl h.1
  | some start =>
    cases start with
    | value id => exact .inr h.2
    | variableOf className methodName name => exact .inl h.1

/-- The chain from a start along hops. One that starts at a value has no use for hops; one that
starts from a variable is not looked for without any. -/
def walkOf (g : CallGraph) (hops : List Hop) : Option ChainStart → Except ChainFault Chain
  | none => .error .noStart
  | some (.value id) => (g.chainTo id).mapError .violated
  | some (.variableOf className methodName name) =>
    if hops = [] then .error .noHops
    else ((MethodScope.ofNames g className methodName).chainFrom name hops).mapError .violated

/-- A chain, where its end is as it has to be. -/
def conclude (endKind : Option ValueKind) (length : Option Int) (chain : Chain) :
    Except ChainFault Chain :=
  match endKind.filter fun kind ↦ chain.root.kind ≠ kind,
    length.filter fun calls ↦ (chain.stepCount : Int) ≠ calls with
  | some kind, _ => .error (.violated (.wrongEnd kind chain))
  | none, some calls => .error (.violated (.wrongLength calls chain))
  | none, none => .ok chain

theorem walk_eq_walkOf {start : Option ChainStart} (h : a.Starts start) :
    a.walk = walkOf a.graph a.hops start := by
  cases start with
  | none => simp only [walk, walkOf, h.1, h.2]
  | some start =>
    cases start with
    | value id => exact walk_eq_chainTo h.1
    | variableOf className methodName name =>
      obtain ⟨hid, hname, hclass, hmethod⟩ := h
      have hscope : a.scope = .ofNames a.graph className methodName := by
        simp [scope, hclass, hmethod, MethodScope.ofNames]
      by_cases hhops : a.hops = []
      · simp [walk, walkOf, hid, hname, hhops]
      · rw [walk_eq_chainFrom hid hname hhops, hscope, walkOf, if_neg hhops]

theorem verify_eq_conclude (a : ChainContract) :
    a.verify = a.walk >>= conclude a.endKind a.length := by
  rw [verify]
  refine bind_congr fun chain ↦ ?_
  unfold brokenEnd? conclude
  cases a.endKind.filter fun kind ↦ chain.root.kind ≠ kind with
  | some kind => rfl
  | none => cases a.length.filter fun calls ↦ (chain.stepCount : Int) ≠ calls <;> rfl

theorem verify_foldl (g : CallGraph) (calls : List ChainRequest) :
    (calls.foldl ask (ofGraph g)).verify =
      walkOf g (ChainRequest.hopsSince calls) (latest ChainRequest.start? calls) >>=
        conclude (latest ChainRequest.endKind? calls) (latest ChainRequest.length? calls) := by
  have hkind := foldl_latest endKind_ask (ofGraph g) calls
  have hlength := foldl_latest length_ask (ofGraph g) calls
  rw [verify_eq_conclude, walk_eq_walkOf (starts_foldl g calls), graph_foldl, hops_foldl,
    hkind, hlength]
  cases latest ChainRequest.endKind? calls <;> cases latest ChainRequest.length? calls <;> rfl

end ChainContract

inductive BindingRequest where
  | inMethod (className methodName : String)
  | atCall (calleePart : String)
  | atLine (line : Int)
  | position (position : Int)
  | expecting (e : Expectation)

namespace BindingRequest

def method? : BindingRequest → Option (String × String)
  | inMethod className methodName => some (className, methodName)
  | _ => none

def callee? : BindingRequest → Option String
  | atCall calleePart => some calleePart
  | _ => none

def line? : BindingRequest → Option Int
  | atLine line => some line
  | _ => none

def position? : BindingRequest → Option Int
  | position n => some n
  | _ => none

def expectation? : BindingRequest → Option Expectation
  | expecting e => some e
  | _ => none

end BindingRequest

namespace BindingContract

def ask (a : BindingContract) : BindingRequest → BindingContract
  | .inMethod className methodName => a.inMethod className methodName
  | .atCall calleePart => a.atCall calleePart
  | .atLine line => a.atLine line
  | .position n => a.position n
  | .expecting e => a.expecting e

/-- The contract with one call of each sort at most. -/
def described (g : CallGraph) (method : Option (String × String)) (callee : Option String)
    (line position : Option Int) (e : Option Expectation) : BindingContract :=
  let selected := { ofGraph g with
    className := method.map fun m ↦ Symbol.bareClass m.1, methodName := method.map Prod.snd,
    callee := callee, line := line, argumentPosition := position }
  (e.map selected.expecting).getD selected

theorem ask_described (g : CallGraph) (method : Option (String × String)) (callee : Option String)
    (line position : Option Int) (e : Option Expectation) (q : BindingRequest) :
    (described g method callee line position e).ask q =
      described g (q.method?.or method) (q.callee?.or callee) (q.line?.or line)
        (q.position?.or position) (q.expectation?.or e) := by
  cases q with
  | expecting e' =>
    -- the new expectation leaves nothing of the one before it
    cases e with
    | none => cases e' <;> rfl
    | some e => cases e <;> cases e' <;> rfl
  | _ =>
    cases e with
    | none => rfl
    | some e => cases e <;> rfl

/-- Whatever the calls were, the contract is the one that the last of each sort describe. -/
theorem foldl_eq_described (g : CallGraph) (calls : List BindingRequest) :
    calls.foldl ask (ofGraph g) =
      described g (latest BindingRequest.method? calls) (latest BindingRequest.callee? calls)
        (latest BindingRequest.line? calls) (latest BindingRequest.position? calls)
        (latest BindingRequest.expectation? calls) := by
  induction calls using List.reverseRecOn with
  | nil => rfl
  | append_singleton calls q ih =>
    rw [List.foldl_concat, ih, ask_described]
    simp only [latest_concat]

end BindingContract

inductive ReferenceRequest where
  | inMethod (className methodName : String)
  | forParameter (name : String)
  | forLocal (name : String)
  | declaredAt (line : Int)
  deriving DecidableEq, Repr

namespace ReferenceRequest

def method? : ReferenceRequest → Option (String × String)
  | inMethod className methodName => some (className, methodName)
  | _ => none

def asked? : ReferenceRequest → Option (ValueKind × String)
  | forParameter name => some (.parameter, name)
  | forLocal name => some (.localVariable, name)
  | _ => none

def line? : ReferenceRequest → Option Int
  | declaredAt line => some line
  | _ => none

end ReferenceRequest

namespace ReferenceContract

def ask (a : ReferenceContract) : ReferenceRequest → ReferenceContract
  | .inMethod className methodName => a.inMethod className methodName
  | .forParameter name => a.forParameter name
  | .forLocal name => a.forLocal name
  | .declaredAt line => a.declaredAt line

def described (g : CallGraph) (method : Option (String × String))
    (asked : Option (ValueKind × String)) (line : Option Int) : ReferenceContract :=
  { graph := g, className := method.map fun m ↦ Symbol.bareClass m.1,
    methodName := method.map Prod.snd,
    variableName := asked.map fun v ↦ Symbol.normalizeVariable v.2,
    variableKind := (asked.map Prod.fst).getD .parameter, line := line }

theorem foldl_eq_described (g : CallGraph) (calls : List ReferenceRequest) :
    calls.foldl ask (ofGraph g) =
      described g (latest ReferenceRequest.method? calls) (latest ReferenceRequest.asked? calls)
        (latest ReferenceRequest.line? calls) := by
  induction calls using List.reverseRecOn with
  | nil => rfl
  | append_singleton calls q ih =>
    rw [List.foldl_concat, ih]
    simp only [latest_concat]
    cases q <;> rfl

end ReferenceContract

/-- Contracts are last-wins. A chain has one start at most. It is followed backward from the value,
where that was its last start, forward along the hops behind the last start at a value, where it was
last started from a variable and has any hops, and not at all otherwise; nothing but the last
conditions on its end is asked of it then. A binding and a reference are as the last call of each
sort describes them, so that equal last calls have equal verdicts. -/
theorem verdicts_of_last_calls (g : CallGraph) :
    (∀ calls : List ChainRequest, let a := calls.foldl ChainContract.ask (.ofGraph g)
      (a.startValueId = none ∨ a.startVariable = none) ∧
      a.verify = ChainContract.walkOf g (ChainRequest.hopsSince calls)
          (latest ChainRequest.start? calls) >>=
        ChainContract.conclude (latest ChainRequest.endKind? calls)
          (latest ChainRequest.length? calls)) ∧
    (∀ calls : List BindingRequest, calls.foldl BindingContract.ask (.ofGraph g) =
      .described g (latest BindingRequest.method? calls) (latest BindingRequest.callee? calls)
        (latest BindingRequest.line? calls) (latest BindingRequest.position? calls)
        (latest BindingRequest.expectation? calls)) ∧
    ∀ calls : List ReferenceRequest, calls.foldl ReferenceContract.ask (.ofGraph g) =
      .described g (latest ReferenceRequest.method? calls)
        (latest ReferenceRequest.asked? calls) (latest ReferenceRequest.line? calls) :=
  ⟨fun calls ↦ ⟨(ChainContract.starts_foldl g calls).one, ChainContract.verify_foldl g calls⟩,
    BindingContract.foldl_eq_described g, ReferenceContract.foldl_eq_described g⟩

namespace LoneOrder

def order : Value :=
  ⟨"order", .parameter, none, some "App/Service#run().($order)", none, none, none, none, none, none⟩

def graph : CallGraph :=
  ⟨⟨"1.0", [order], []⟩, "<memory>"⟩

def calls : List ChainRequest :=
  [.startingFrom "App\\Service" "run" "$order"]

theorem verify_without_hops :
    latest ChainRequest.start? calls = some (.variableOf "App\\Service" "run" "$order") ∧
    ChainRequest.hopsSince calls = [] ∧
    (MethodScope.ofNames graph "App\\Service" "run").chainFrom "$order" [] =
      .ok ⟨[.value order], order, order, 0⟩ ∧
    (calls.foldl ChainContract.ask (.ofGraph graph)).verify = .error .noHops := by
  decide

end LoneOrder

end GraphContracts
