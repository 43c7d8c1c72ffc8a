import GraphContracts.Contract.Integrity
import GraphContracts.Proofs.Groups
import GraphContracts.Proofs.Lookup
import Mathlib.Order.BooleanAlgebra.Defs

namespace GraphContracts

def Value.IsParameter (v : Value) (scope name : String) : Prop :=
  v.kind = .parameter ∧ v.scope = some scope ∧ v.name = some name

def Value.IsLocal (v : Value) (scope name : String) (line : Option Int) : Prop :=
  v.kind = .localVariable ∧ v.scope = some scope ∧ v.name = some name ∧
    v.declarationLine = .ok line

instance (v : Value) (scope name : String) : Decidable (v.IsParameter scope name) :=
  inferInstanceAs (Decidable (_ ∧ _ ∧ _))

instance (v : Value) (scope name : String) (line : Option Int) :
    Decidable (v.IsLocal scope name line) :=
  inferInstanceAs (Decidable (_ ∧ _ ∧ _ ∧ _))

/-- The digits of the line in the symbol of a value. -/
def Value.lineDigits? (v : Value) : Option (List Char) :=
  (v.symbol.bind Symbol.shape?).bind Symbol.Shape.lineDigits?

def Argument.HasOneForm (a : Argument) : Prop :=
  Xor (a.valueId ≠ none) (∃ text, a.valueExpr = some text ∧ text ≠ "")

namespace CallGraph

/-- A link to a value that is not set, or leads to one. -/
def LeadsToValue (g : CallGraph) (link : Option String) : Prop :=
  ∀ id, link = some id → ∃ v ∈ g.valuesById, v.id = id

def LeadsToCall (g : CallGraph) (link : Option String) : Prop :=
  ∀ id, link = some id → ∃ c ∈ g.callsById, c.id = id

/-- The type that a call returns is the one of its result, where both are known. -/
def TypesAgree (g : CallGraph) (c : Call) : Prop :=
  ∀ expected v found, c.returnType = some expected → g.resultOf c = some v →
    v.type = some found → expected = found

/-- No line in a symbol has more digits than are read. -/
def ReadableLines (g : CallGraph) : Prop :=
  ∀ v ∈ g.values, ∀ digits, v.lineDigits? = some digits → digits.length ≤ Symbol.digitLimit

theorem readableLines_of_forall_eq_none {g : CallGraph}
    (h : ∀ v ∈ g.values, v.lineDigits? = none) : g.ReadableLines := by
  intro v hv digits hdigits
  rw [h v hv] at hdigits
  cases hdigits

/-- What all checks together ask of a graph. -/
structure Intact (g : CallGraph) : Prop where
  parameters : ∀ scope name, ¬Twice (·.IsParameter scope name) g.values
  locals : ∀ scope name line, ¬Twice (·.IsLocal scope name line) g.values
  receivers : ∀ c ∈ g.calls, g.LeadsToValue c.receiverValueId
  argumentValues : ∀ c ∈ g.calls, ∀ a ∈ c.arguments, g.LeadsToValue a.valueId
  sourceCalls : ∀ v ∈ g.values, g.LeadsToCall v.sourceCallId
  sourceValues : ∀ v ∈ g.values, g.LeadsToValue v.sourceValueId
  results : ∀ c ∈ g.calls, ∃ v, g.resultOf c = some v
  resultTypes : ∀ c ∈ g.calls, g.TypesAgree c
  argumentForms : ∀ c ∈ g.calls, ∀ a ∈ c.arguments, a.HasOneForm

open scoped Classical in
/-- How often a graph offends against a check: the keys that two declarations share, and the links,
calls and arguments that do not hold. -/
noncomputable def offences (g : CallGraph) : Check → ℕ∞
  | .parameterDuplicates =>
    {key : String × String | Twice (·.IsParameter key.1 key.2) g.values}.encard
  | .localDuplicates =>
    {key : String × String × Option Int |
      Twice (·.IsLocal key.1 key.2.1 key.2.2) g.values}.encard
  | .receivers => g.calls.countP fun c ↦ ¬g.LeadsToValue c.receiverValueId
  | .argumentValues =>
    (g.calls.flatMap Call.arguments).countP fun a ↦ ¬g.LeadsToValue a.valueId
  | .sourceCalls => g.values.countP fun v ↦ ¬g.LeadsToCall v.sourceCallId
  | .sourceValues => g.values.countP fun v ↦ ¬g.LeadsToValue v.sourceValueId
  | .results => g.calls.countP fun c ↦ ¬∃ v, g.resultOf c = some v
  | .resultTypes => g.calls.countP fun c ↦ ¬g.TypesAgree c
  | .argumentForms => (g.calls.flatMap Call.arguments).countP fun a ↦ ¬a.HasOneForm

theorem encard_setOf_eq_zero {κ : Type} {p : κ → Prop} : {k | p k}.encard = 0 ↔ ∀ k, ¬p k := by
  rw [Set.encard_eq_zero, Set.eq_empty_iff_forall_notMem]
  rfl

theorem countP_not_eq_zero {α : Type} {p : α → Prop} [DecidablePred p] {l : List α} :
    ((l.countP fun a ↦ ¬p a : ℕ) : ℕ∞) = 0 ↔ ∀ a ∈ l, p a := by
  simp [List.countP_eq_zero]

theorem countP_arguments_eq_zero {p : Argument → Prop} [DecidablePred p] {cs : List Call} :
    (((cs.flatMap Call.arguments).countP fun a ↦ ¬p a : ℕ) : ℕ∞) = 0 ↔
      ∀ c ∈ cs, ∀ a ∈ c.arguments, p a :=
  countP_not_eq_zero.trans List.forall_mem_flatMap

open scoped Classical in
theorem intact_iff {g : CallGraph} : g.Intact ↔ ∀ check, g.offences check = 0 := by
  constructor
  · intro h check
    cases check with
    | parameterDuplicates => exact encard_setOf_eq_zero.2 fun key ↦ h.parameters key.1 key.2
    | localDuplicates => exact encard_setOf_eq_zero.2 fun key ↦ h.locals key.1 key.2.1 key.2.2
    | receivers => exact countP_not_eq_zero.2 h.receivers
    | argumentValues => exact countP_arguments_eq_zero.2 h.argumentValues
    | sourceCalls => exact countP_not_eq_zero.2 h.sourceCalls
    | sourceValues => exact countP_not_eq_zero.2 h.sourceValues
    | results => exact countP_not_eq_zero.2 h.results
    | resultTypes => exact countP_not_eq_zero.2 h.resultTypes
    | argumentForms => exact countP_arguments_eq_zero.2 h.argumentForms
  · intro h
    have hparameters := encard_setOf_eq_zero.1 (h .parameterDuplicates)
    have hlocals := encard_setOf_eq_zero.1 (h .localDuplicates)
    exact {
      parameters := fun scope name ↦ hparameters (scope, name)
      locals := fun scope name line ↦ hlocals (scope, name, line)
      receivers := countP_not_eq_zero.1 (h .receivers)
      argumentValues := countP_arguments_eq_zero.1 (h .argumentValues)
      sourceCalls := countP_not_eq_zero.1 (h .sourceCalls)
      sourceValues := countP_not_eq_zero.1 (h .sourceValues)
      results := countP_not_eq_zero.1 (h .results)
      resultTypes := countP_not_eq_zero.1 (h .resultTypes)
      argumentForms := countP_arguments_eq_zero.1 (h .argumentForms) }

end CallGraph

end GraphContracts
