import GraphContracts.Contract.Chain
import GraphContracts.Proofs.Outcome

namespace GraphContracts.ChainContract

def KindMet (a : ChainContract) (c : Chain) : Prop :=
  ∀ kind, a.endKind = some kind → c.root.kind = kind

def LengthMet (a : ChainContract) (c : Chain) : Prop :=
  ∀ calls, a.length = some calls → (c.stepCount : Int) = calls

/-- The conditions on the end that a chain breaks. The length is not looked at where the root is of
another kind. -/
inductive BreaksEnd (a : ChainContract) (c : Chain) : ChainViolation → Prop
  | kind {kind : ValueKind} : a.endKind = some kind → c.root.kind ≠ kind →
      BreaksEnd a c (.wrongEnd kind c)
  | length {calls : Int} : a.KindMet c → a.length = some calls → (c.stepCount : Int) ≠ calls →
      BreaksEnd a c (.wrongLength calls c)

variable {a : ChainContract} {chain : Chain}

theorem filter_endKind_eq_none_iff :
    a.endKind.filter (fun kind ↦ chain.root.kind ≠ kind) = none ↔ a.KindMet chain := by
  simp [Option.filter_eq_none_iff, KindMet]

theorem filter_length_eq_none_iff :
    a.length.filter (fun calls ↦ (chain.stepCount : Int) ≠ calls) = none ↔ a.LengthMet chain := by
  simp [Option.filter_eq_none_iff, LengthMet]

theorem brokenEnd?_eq_none_iff :
    a.brokenEnd? chain = none ↔ a.KindMet chain ∧ a.LengthMet chain := by
  rw [← filter_endKind_eq_none_iff, ← filter_length_eq_none_iff, brokenEnd?]
  cases a.endKind.filter fun kind ↦ chain.root.kind ≠ kind with
  | some kind => simp
  | none => cases a.length.filter fun calls ↦ (chain.stepCount : Int) ≠ calls <;> simp

theorem brokenEnd?_eq_some_iff {v : ChainViolation} :
    a.brokenEnd? chain = some v ↔ a.BreaksEnd chain v := by
  constructor
  · intro h
    unfold brokenEnd? at h
    split at h
    · rename_i kind _ hkind
      obtain ⟨hasked, hne⟩ := Option.filter_eq_some_iff.1 hkind
      exact Option.some.inj h ▸ .kind hasked (by simpa using hne)
    · rename_i calls hkind hlength
      obtain ⟨hasked, hne⟩ := Option.filter_eq_some_iff.1 hlength
      exact Option.some.inj h ▸
        .length (filter_endKind_eq_none_iff.1 hkind) hasked (by simpa using hne)
    · cases h
  · intro h
    cases h with
    | @kind kind hasked hne =>
      have hkind : a.endKind.filter (fun kind ↦ chain.root.kind ≠ kind) = some kind :=
        Option.filter_eq_some_iff.2 ⟨hasked, by simpa using hne⟩
      rw [brokenEnd?, hkind]
    | @length calls hmet hasked hne =>
      have hlength : a.length.filter (fun calls ↦ (chain.stepCount : Int) ≠ calls) = some calls :=
        Option.filter_eq_some_iff.2 ⟨hasked, by simpa using hne⟩
      rw [brokenEnd?, filter_endKind_eq_none_iff.2 hmet, hlength]

theorem verify_eq_ok_iff :
    a.verify = .ok chain ↔ a.walk = .ok chain ∧ a.brokenEnd? chain = none := by
  rw [verify, bind_eq_ok_iff]
  constructor
  · rintro ⟨c, hc, h⟩
    cases hb : a.brokenEnd? c with
    | some v => simp [hb] at h
    | none =>
      simp only [hb, pure, Except.pure, Except.ok.injEq] at h
      subst h
      exact ⟨hc, hb⟩
  · rintro ⟨hc, hb⟩
    exact ⟨chain, hc, by simp only [hb, pure, Except.pure]⟩

theorem verify_eq_error_iff {e : ChainFault} : a.verify = .error e ↔ a.walk = .error e ∨
    ∃ chain v, a.walk = .ok chain ∧ a.BreaksEnd chain v ∧ e = .violated v := by
  rw [verify, bind_eq_error_iff]
  apply or_congr_right
  apply exists_congr
  intro c
  simp only [exists_and_left, ← brokenEnd?_eq_some_iff]
  apply and_congr_right
  intro _
  cases a.brokenEnd? c with
  | none => simp [pure, Except.pure]
  | some v => simp [eq_comm]

theorem verify_eq_walk (hkind : a.endKind = none) (hlength : a.length = none) :
    a.verify = a.walk := by
  cases h : a.walk with
  | error e => simp only [verify, h, bind, Except.bind]
  | ok c =>
    have hend : a.brokenEnd? c = none :=
      brokenEnd?_eq_none_iff.2 ⟨by simp [KindMet, hkind], by simp [LengthMet, hlength]⟩
    exact verify_eq_ok_iff.2 ⟨h, hend⟩

theorem walk_eq_chainTo {id : String} (hid : a.startValueId = some id) :
    a.walk = (a.graph.chainTo id).mapError .violated := by
  simp only [walk, hid]

theorem walk_eq_chainFrom {name : String} (hid : a.startValueId = none)
    (hname : a.startVariable = some name) (hhops : a.hops ≠ []) :
    a.walk = (a.scope.chainFrom name a.hops).mapError .violated := by
  simp only [walk, hid, hname, List.isEmpty_iff, hhops, if_false]

theorem walk_eq_ok_iff_chainFrom (hid : a.startValueId = none) :
    a.walk = .ok chain ↔ ∃ name, a.startVariable = some name ∧ a.hops ≠ [] ∧
      a.scope.chainFrom name a.hops = .ok chain := by
  cases hname : a.startVariable with
  | none => simp [walk, hid, hname]
  | some name =>
    by_cases hhops : a.hops = []
    · simp [walk, hid, hname, hhops]
    · rw [walk_eq_chainFrom hid hname hhops, mapError_eq_ok_iff]
      simp [hhops]

theorem verify_startingAt (g : CallGraph) (id : String) :
    ((ofGraph g).startingAt id).verify = (g.chainTo id).mapError .violated :=
  verify_eq_walk rfl rfl

end GraphContracts.ChainContract
