import GraphContracts.Script.Run
import Mathlib.Data.List.Basic

namespace GraphContracts.Script

/-- A question to the object in a register, with values as its arguments. -/
def question (i : Int) (name : String) (args : List Datum) : Step :=
  ⟨name, some i, args.map .value⟩

namespace Machine

variable {m : Machine} {i : Int} {held : Held} {name : String} {args : List Datum}

theorem exists_push (m : Machine) (step : Step) :
    ∃ r answer events, m.run step = m.push r answer events := by
  unfold run
  dsimp only
  split
  · split
    · exact ⟨_, _, _, rfl⟩
    · split <;> exact ⟨_, _, _, rfl⟩
  · exact ⟨_, _, _, rfl⟩

theorem registers_prefix (m : Machine) (steps : List Step) :
    m.registers <+: (steps.foldl run m).registers := by
  induction steps generalizing m with
  | nil => exact List.prefix_rfl
  | cons step steps ih =>
    obtain ⟨r, answer, events, hpush⟩ := exists_push m step
    have hstep : m.registers <+: (m.run step).registers := by
      rw [hpush]
      exact List.prefix_append _ _
    exact hstep.trans (ih _)

theorem register?_foldl (h : m.register? i = some held) (steps : List Step) :
    (steps.foldl run m).register? i = some held := by
  unfold register? at h ⊢
  split at h
  · cases h
  · rename_i hi
    have hheld : m.registers[i.toNat]? = some (some held) := Option.join_eq_some_iff.1 h
    obtain ⟨more, hmore⟩ := registers_prefix m steps
    rw [if_neg hi, ← hmore, List.getElem?_append_left (List.getElem?_eq_some_iff.1 hheld).1, hheld]
    rfl

def asked (held : Held) (i : Int) (name : String) (args : List Datum) : Logged Object :=
  yielded (question i name args) held (args.map fun d ↦ ⟨0, .plain d⟩)

theorem run_question (h : m.register? i = some held) :
    m.run (question i name args) =
      let done := asked held i name args
      match done.result with
      | .error e => m.push none e.record done.events
      | .ok o =>
        let maker := if keepsTarget name then held.maker else m.registers.length
        match o.shown with
        | .error e => m.push none e.record done.events
        | .ok answer => m.push (if o.isNull then none else some ⟨maker, o⟩) answer done.events := by
  have hoperands : (question i name args).operands.map m.operand? =
      args.map fun d ↦ some ⟨0, .plain d⟩ := by
    rw [question, List.map_map]
    rfl
  have hall : (args.map fun d ↦ some (⟨0, .plain d⟩ : Held)).all Option.isSome = true := by simp
  have hvalues : (args.map fun d ↦ some (⟨0, .plain d⟩ : Held)).filterMap id =
      args.map fun d ↦ ⟨0, .plain d⟩ := by
    simp [List.filterMap_map]
  have htarget : m.register? ((question i name args).target.getD m.current) = some held := h
  unfold run
  dsimp only
  rw [hoperands, htarget, hall, hvalues]
  rfl

def answerTo (held : Held) (i : Int) (name : String) (args : List Datum) : Datum :=
  match (asked held i name args).result >>= Object.shown with
  | .error e => e.record
  | .ok answer => answer

theorem answers_question (h : m.register? i = some held) :
    (m.run (question i name args)).answers = m.answers ++ [answerTo held i name args] := by
  rw [run_question h, answerTo]
  dsimp only
  cases (asked held i name args).result with
  | error e => rfl
  | ok o =>
    have hshown : (Except.ok o >>= Object.shown) = o.shown := rfl
    rw [hshown]
    dsimp only
    cases o.shown <;> rfl

/-- What a question yields is put behind everything there is. -/
theorem register?_question {o : Object} {answer : Datum} (h : m.register? i = some held)
    (hyield : (asked held i name args).result = .ok o) (hshown : o.shown = .ok answer)
    (hnull : o.isNull = false) (hname : keepsTarget name = false) :
    (m.run (question i name args)).register? m.registers.length =
      some ⟨m.registers.length, o⟩ := by
  have hno : ¬(m.registers.length : Int) < 0 := by omega
  rw [run_question h]
  dsimp only
  rw [hyield]
  dsimp only
  rw [hshown]
  simp [push, register?, hno, hnull, hname]

/-- A step on a register puts an object behind everything there is. What it was derived from stays:
whatever is done afterwards, it is there and answers every question as before. -/
structure Derives (m : Machine) (i : Int) (held : Held) (step : Step) (o : Object) : Prop where
  derived : (m.run step).register? m.registers.length = some ⟨m.registers.length, o⟩
  kept : ∀ steps : List Step, (steps.foldl run (m.run step)).register? i = some held
  alike : ∀ (steps : List Step) (name : String) (args : List Datum),
    ((steps.foldl run (m.run step)).run (question i name args)).answers.getLast? =
      (m.run (question i name args)).answers.getLast?

theorem derives_question {o : Object} {answer : Datum} (h : m.register? i = some held)
    (hyield : (asked held i name args).result = .ok o) (hshown : o.shown = .ok answer)
    (hnull : o.isNull = false) (hname : keepsTarget name = false) :
    m.Derives i held (question i name args) o where
  derived := register?_question h hyield hshown hnull hname
  kept steps := register?_foldl h (question i name args :: steps)
  alike steps asking given := by
    have hkept := register?_foldl h (question i name args :: steps)
    rw [List.foldl_cons] at hkept
    simp [answers_question h, answers_question hkept]

end Machine

end GraphContracts.Script
