import GraphContracts.Proofs.Glob
import GraphContracts.Proofs.Registers
import GraphContracts.Proofs.Scope
import GraphContracts.Proofs.Symbol.Segment

namespace GraphContracts

/-- A filter that values and calls have in common. -/
inductive NodeFilter where
  | kind (wanted : String)
  | kindType (wanted : String)
  | inFile (part : String)
  | atLine (line : Int)

inductive ValueFilter where
  | shared (f : NodeFilter)
  | symbol (wanted : String)
  | symbolContains (part : String)
  | symbolMatches (pattern : String)
  | named (name : String)
  | hasSourceCall
  | hasSourceValue
  | withType (type : String)

inductive CallFilter where
  | shared (f : NodeFilter)
  | callerContains (part : String)
  | calleeContains (part : String)
  | symbolContains (part : String)
  | callerMatches (pattern : String)
  | calleeMatches (pattern : String)
  | symbolMatches (pattern : String)
  | withReceiver (id : String)
  | hasReceiver
  | callerInScope (fragment : String)
  | inMethod (className methodName : String)

def HasPart (part : String) (text : Option String) : Prop :=
  ∃ t, text = some t ∧ part.toList <:+: t.toList

/-- A text is there and a pattern stands for it. -/
def HasPattern (pattern : String) (text : Option String) : Prop :=
  ∃ t, text = some t ∧ Text.Glob.StandsFor pattern.toList t.toList

/-- A text is there and a fragment stands in it as a whole segment: behind the start, a blank or a
slash, and in front of a dot, the end or a line break at the end. -/
def HasSegment (fragment : String) (text : Option String) : Prop :=
  ∃ t before after, text = some t ∧ t.toList = before ++ fragment.toList ++ after ∧
    (before = [] ∨ before.getLast? = some ' ' ∨ before.getLast? = some '/') ∧
    (after = [] ∨ after = ['\n'] ∨ after.head? = some '.')

namespace NodeFilter

variable {α : Type} [Node α]

def apply : NodeFilter → NodeQuery α → NodeQuery α
  | kind wanted, q => q.kind wanted
  | kindType wanted, q => q.kindType wanted
  | inFile part, q => q.inFile part
  | atLine line, q => q.atLine line

def label : NodeFilter → String
  | kind wanted => s!"kind={wanted}"
  | kindType wanted => s!"kind_type={wanted}"
  | inFile part => s!"file~{part}"
  | atLine line => s!"line={line}"

def Asks : NodeFilter → α → Prop
  | kind wanted, a => Node.kindName a = wanted
  | kindType wanted, a =>
    Node.kindTypeName a = some wanted ∨ Node.kindTypeName a = none ∧ wanted = ""
  | inFile part, a => HasPart part (Node.file a)
  | atLine line, a => Node.line a = some line

def call : NodeFilter → String × List Datum
  | kind wanted => ("kind", [.text wanted])
  | kindType wanted => ("kind_type", [.text wanted])
  | inFile part => ("in_file", [.text part])
  | atLine line => ("at_line", [.int line])

end NodeFilter

namespace ValueFilter

def apply : ValueFilter → ValueQuery → ValueQuery
  | shared f, q => f.apply q
  | symbol wanted, q => q.symbol wanted
  | symbolContains part, q => q.symbolContains part
  | symbolMatches pattern, q => q.symbolMatches pattern
  | named name, q => q.named name
  | hasSourceCall, q => q.hasSourceCall
  | hasSourceValue, q => q.hasSourceValue
  | withType type, q => q.withType type

def label : ValueFilter → String
  | shared f => f.label
  | symbol wanted => s!"symbol={wanted}"
  | symbolContains part => s!"symbol~{part}"
  | symbolMatches pattern => s!"symbol={Text.quoted pattern}"
  | named name => s!"name={Symbol.normalizeVariable name}"
  | hasSourceCall => "has_source_call"
  | hasSourceValue => "has_source_value"
  | withType type => s!"type={type}"

def Asks : ValueFilter → Value → Prop
  | shared f, v => f.Asks v
  | symbol wanted, v => v.symbol = some wanted
  | symbolContains part, v => HasPart part v.symbol
  | symbolMatches pattern, v => HasPattern pattern v.symbol
  | named name, v => v.name = some (Symbol.normalizeVariable name)
  | hasSourceCall, v => v.sourceCallId ≠ none
  | hasSourceValue, v => v.sourceValueId ≠ none
  | withType type, v => v.type = some type

def call : ValueFilter → String × List Datum
  | shared f => f.call
  | symbol wanted => ("symbol", [.text wanted])
  | symbolContains part => ("symbol_contains", [.text part])
  | symbolMatches pattern => ("symbol_matches", [.text pattern])
  | named name => ("named", [.text name])
  | hasSourceCall => ("has_source_call_id", [])
  | hasSourceValue => ("has_source_value_id", [])
  | withType type => ("with_type", [.text type])

end ValueFilter

namespace CallFilter

def apply : CallFilter → CallQuery → CallQuery
  | shared f, q => f.apply q
  | callerContains part, q => q.callerContains part
  | calleeContains part, q => q.calleeContains part
  | symbolContains part, q => q.calleeContains part
  | callerMatches pattern, q => q.callerMatches pattern
  | calleeMatches pattern, q => q.calleeMatches pattern
  | symbolMatches pattern, q => q.calleeMatches pattern
  | withReceiver id, q => q.withReceiver id
  | hasReceiver, q => q.hasReceiver
  | callerInScope fragment, q => q.callerInScope fragment
  | inMethod className methodName, q => q.inMethod className methodName

def label : CallFilter → String
  | shared f => f.label
  | callerContains part => s!"caller~{part}"
  | calleeContains part | symbolContains part => s!"callee~{part}"
  | callerMatches pattern => s!"caller={Text.quoted pattern}"
  | calleeMatches pattern | symbolMatches pattern => s!"callee={Text.quoted pattern}"
  | withReceiver id => s!"receiver={id}"
  | hasReceiver => "has_receiver"
  | callerInScope fragment => s!"caller in {fragment}"
  | inMethod className methodName => s!"caller in {Symbol.scopePattern className methodName}"

def Asks : CallFilter → Call → Prop
  | shared f, c => f.Asks c
  | callerContains part, c => part.toList <:+: c.caller.toList
  | calleeContains part, c | symbolContains part, c => HasPart part c.callee
  | callerMatches pattern, c => Text.Glob.StandsFor pattern.toList c.caller.toList
  | calleeMatches pattern, c | symbolMatches pattern, c => HasPattern pattern c.callee
  | withReceiver id, c => c.receiverValueId = some id
  | hasReceiver, c => c.receiverValueId ≠ none
  | callerInScope fragment, c => HasSegment fragment (some c.caller)
  | inMethod className methodName, c =>
    HasSegment (Symbol.scopePattern className methodName) (some c.caller)

def call : CallFilter → String × List Datum
  | shared f => f.call
  | callerContains part => ("caller_contains", [.text part])
  | calleeContains part => ("callee_contains", [.text part])
  | symbolContains part => ("symbol_contains", [.text part])
  | callerMatches pattern => ("caller_matches", [.text pattern])
  | calleeMatches pattern => ("callee_matches", [.text pattern])
  | symbolMatches pattern => ("symbol_matches", [.text pattern])
  | withReceiver id => ("with_receiver_value_id", [.text id])
  | hasReceiver => ("has_receiver", [])
  | callerInScope fragment => ("caller_in_scope", [.text fragment])
  | inMethod className methodName => ("in_method", [.text className, .text methodName])

end CallFilter

/-- Where a query starts: at all nodes of a graph, or at the nodes of one method. -/
inductive Origin where
  | plain
  | method (className methodName : String)

namespace Origin

variable (g : CallGraph)

def valueQuery : Origin → ValueQuery
  | plain => g.valueQuery
  | method className methodName => (MethodScope.ofNames g className methodName).values

def callQuery : Origin → CallQuery
  | plain => g.callQuery
  | method className methodName => (MethodScope.ofNames g className methodName).calls

/-- What the start of a query asks of a value: it has a symbol that lies in the method, or it has no
symbol and the caller of its source call lies there. -/
def AsksValue : Origin → Value → Prop
  | plain, _ => True
  | method className methodName, v =>
    let fragment := Symbol.scopePattern className methodName
    HasSegment fragment v.symbol ∨
      v.symbol = none ∧ ∃ c, g.sourceCallOf v = some c ∧ HasSegment fragment (some c.caller)

def AsksCall : Origin → Call → Prop
  | plain, _ => True
  | method className methodName, c =>
    HasSegment (Symbol.scopePattern className methodName) (some c.caller)

def valueLabels : Origin → List String
  | plain => []
  | method className methodName => [s!"scope={Symbol.scopePattern className methodName}"]

def callLabels : Origin → List String
  | plain => []
  | method className methodName => [s!"caller in {Symbol.scopePattern className methodName}"]

end Origin

/-- A query goes through a graph, lists these labels and asks for this property. -/
structure NodeQuery.Narrowed {α : Type} (q : NodeQuery α) (g : CallGraph) (labels : List String)
    (asks : α → Prop) : Prop where
  graph : q.graph = g
  labels : q.labels = labels
  accepts : ∀ a, q.accepts a = true ↔ asks a

section Narrowed

variable {α : Type} {q : NodeQuery α} {g : CallGraph} {labels : List String} {asks : α → Prop}

theorem NodeQuery.Narrowed.filtered (h : q.Narrowed g labels asks) (label : String)
    {test : α → Bool} {further : α → Prop} (htest : ∀ a, test a = true ↔ further a) :
    (q.filtered label test).Narrowed g (labels ++ [label]) fun a ↦ asks a ∧ further a where
  graph := h.graph
  labels := by rw [NodeQuery.labels_filtered, h.labels]
  accepts a := by rw [NodeQuery.accepts_filtered, Bool.and_eq_true, h.accepts, htest]

theorem NodeQuery.Narrowed.congr (h : q.Narrowed g labels asks) {asks' : α → Prop}
    (hasks : ∀ a, asks a ↔ asks' a) : q.Narrowed g labels asks' :=
  ⟨h.graph, h.labels, fun a ↦ (h.accepts a).trans (hasks a)⟩

theorem hasPart_iff {part : String} {text : Option String} :
    text.any (Text.contains part) = true ↔ HasPart part text := by
  simp only [Option.any_eq_true, Text.contains_iff_isInfix, HasPart]

theorem hasPattern_iff {pattern : String} {text : Option String} :
    Text.globMatches pattern text = true ↔ HasPattern pattern text := by
  cases text with
  | none => simp [Text.globMatches, HasPattern]
  | some t => simp [Text.globMatches_some_iff, HasPattern]

theorem hasSegment_iff {fragment : String} {text : Option String} :
    Symbol.inScope fragment text = true ↔ HasSegment fragment text := by
  cases text with
  | none => simp [Symbol.inScope, HasSegment]
  | some t =>
    rw [Symbol.inScope, Option.any_some, Symbol.holdsSegment_eq_true]
    simp [HasSegment, Symbol.opensSegment_eq_true_iff, Symbol.closesSegment, or_assoc]

theorem getD_empty_iff {name : Option String} {wanted : String} :
    name.getD "" = wanted ↔ name = some wanted ∨ name = none ∧ wanted = "" := by
  cases name <;> simp [eq_comm]

theorem NodeFilter.narrowed_apply [Node α] (h : q.Narrowed g labels asks) (f : NodeFilter) :
    (f.apply q).Narrowed g (labels ++ [f.label]) fun a ↦ asks a ∧ f.Asks a := by
  cases f with
  | kind wanted => exact h.filtered _ fun a ↦ decide_eq_true_iff
  | kindType wanted => exact h.filtered _ fun a ↦ decide_eq_true_iff.trans getD_empty_iff
  | inFile part => exact h.filtered _ fun a ↦ hasPart_iff
  | atLine line => exact h.filtered _ fun a ↦ decide_eq_true_iff

theorem ValueFilter.narrowed_apply {q : ValueQuery} {asks : Value → Prop}
    (h : q.Narrowed g labels asks) (f : ValueFilter) :
    (f.apply q).Narrowed g (labels ++ [f.label]) fun v ↦ asks v ∧ f.Asks v := by
  cases f with
  | shared f => exact f.narrowed_apply h
  | symbol wanted => exact h.filtered _ fun v ↦ decide_eq_true_iff
  | symbolContains part => exact h.filtered _ fun v ↦ hasPart_iff
  | symbolMatches pattern => exact h.filtered _ fun v ↦ hasPattern_iff
  | named name => exact h.filtered _ fun v ↦ decide_eq_true_iff
  | hasSourceCall => exact h.filtered _ fun v ↦ Option.isSome_iff_ne_none
  | hasSourceValue => exact h.filtered _ fun v ↦ Option.isSome_iff_ne_none
  | withType type => exact h.filtered _ fun v ↦ decide_eq_true_iff

theorem CallFilter.narrowed_apply {q : CallQuery} {asks : Call → Prop}
    (h : q.Narrowed g labels asks) (f : CallFilter) :
    (f.apply q).Narrowed g (labels ++ [f.label]) fun c ↦ asks c ∧ f.Asks c := by
  cases f with
  | shared f => exact f.narrowed_apply h
  | callerContains part => exact h.filtered _ fun c ↦ Text.contains_iff_isInfix
  | calleeContains part => exact h.filtered _ fun c ↦ hasPart_iff
  | symbolContains part => exact h.filtered _ fun c ↦ hasPart_iff
  | callerMatches pattern => exact h.filtered _ fun c ↦ Text.globMatches_some_iff
  | calleeMatches pattern => exact h.filtered _ fun c ↦ hasPattern_iff
  | symbolMatches pattern => exact h.filtered _ fun c ↦ hasPattern_iff
  | withReceiver id => exact h.filtered _ fun c ↦ decide_eq_true_iff
  | hasReceiver => exact h.filtered _ fun c ↦ Option.isSome_iff_ne_none
  | callerInScope fragment => exact h.filtered _ fun c ↦ hasSegment_iff
  | inMethod className methodName => exact h.filtered _ fun c ↦ hasSegment_iff

end Narrowed

namespace Origin

variable {α : Type}

theorem narrowed_nil (g : CallGraph) :
    (⟨g, []⟩ : NodeQuery α).Narrowed g [] fun _ ↦ True where
  graph := rfl
  labels := rfl
  accepts _ := iff_of_true rfl trivial

theorem narrowed_valueQuery (g : CallGraph) (origin : Origin) :
    (origin.valueQuery g).Narrowed g origin.valueLabels (origin.AsksValue g) := by
  cases origin with
  | plain => exact narrowed_nil g
  | method className methodName =>
    let s := MethodScope.ofNames g className methodName
    have hdeclares : ∀ v, s.declares v = true ↔ (method className methodName).AsksValue g v := by
      intro v
      rw [MethodScope.declares_eq_true, MethodScope.hasSymbol_iff, MethodScope.produces_iff]
      simp only [MethodScope.encloses, AsksValue, s, MethodScope.pattern_ofNames, hasSegment_iff]
      rfl
    rw [valueQuery, valueLabels, MethodScope.values, MethodScope.pattern_ofNames]
    exact ((narrowed_nil g).filtered _ hdeclares).congr fun v ↦ and_iff_right trivial

theorem narrowed_callQuery (g : CallGraph) (origin : Origin) :
    (origin.callQuery g).Narrowed g origin.callLabels origin.AsksCall := by
  cases origin with
  | plain => exact narrowed_nil g
  | method className methodName =>
    rw [callQuery, callLabels, MethodScope.calls, MethodScope.pattern_ofNames]
    exact ((narrowed_nil g).filtered _ fun c ↦ hasSegment_iff).congr fun c ↦ and_iff_right trivial

end Origin

section Derives

open Script

variable {m : Machine} {i : Int} {maker : Nat}

def ValueFilter.step (f : ValueFilter) (i : Int) : Step :=
  question i f.call.1 f.call.2

def CallFilter.step (f : CallFilter) (i : Int) : Step :=
  question i f.call.1 f.call.2

theorem ValueFilter.derives {q : ValueQuery} (h : m.register? i = some ⟨maker, .values q⟩)
    (f : ValueFilter) : m.Derives i ⟨maker, .values q⟩ (f.step i) (.values (f.apply q)) := by
  refine Machine.derives_question h ?_ rfl rfl ?_
  · cases f with
    | shared f => cases f <;> rfl
    | _ => rfl
  · cases f with
    | shared f => cases f <;> rfl
    | _ => rfl

theorem CallFilter.derives {q : CallQuery} (h : m.register? i = some ⟨maker, .calls q⟩)
    (f : CallFilter) : m.Derives i ⟨maker, .calls q⟩ (f.step i) (.calls (f.apply q)) := by
  refine Machine.derives_question h ?_ rfl rfl ?_
  · cases f with
    | shared f => cases f <;> rfl
    | _ => rfl
  · cases f with
    | shared f => cases f <;> rfl
    | _ => rfl

end Derives

end GraphContracts
