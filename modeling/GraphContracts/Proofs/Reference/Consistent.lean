import GraphContracts.Proofs.Groups
import GraphContracts.Proofs.Integrity.Count
import GraphContracts.Proofs.Reference.Verdict
import Mathlib.Data.List.ReduceOption

namespace GraphContracts

/-- What the receiver and the arguments of a call hold. -/
def Call.held (c : Call) : List (Option String) :=
  c.receiverValueId :: c.arguments.map Argument.valueId

theorem Call.map_snd_slots (c : Call) : c.slots.map Prod.snd = c.held.reduceOption := by
  have harguments : ∀ l : List Argument,
      (l.filterMap fun a ↦ a.valueId.map fun id ↦ (Slot.argument a.position, id)).map Prod.snd =
        (l.map Argument.valueId).reduceOption := by
    intro l
    rw [List.reduceOption, List.filterMap_map, List.map_filterMap]
    refine congrArg (List.filterMap · l) (funext fun a ↦ ?_)
    cases h : a.valueId <;> simp [h]
  rw [slots, held, List.map_append, harguments]
  cases c.receiverValueId <;> rfl

namespace ReferenceContract

/-- A value declares the variable of a contract in a method. -/
structure Declares (a : ReferenceContract) (s : MethodScope) (name : String) (v : Value) :
    Prop where
  kind : v.kind = a.variableKind
  symbol : ∃ symbol, v.symbol = some symbol ∧
    (fragment a.variableKind s name).toList <:+: symbol.toList ∧ s.encloses (some symbol) = true
  named : v.name = some name
  line : ∀ line, a.line = some line → v.declarationLine = .ok (some line)

variable {a : ReferenceContract} {s : MethodScope} {name : String} {v : Value} {c : Call}
  {ds : List (Option Int × Value)} {subject : Subject} {ids : List String}
  {r : ReferenceVerification}

theorem admits_eq_true_iff : a.admits v = true ↔
    ∀ line, a.line = some line → v.declarationLine = .ok (some line) := by
  refine ⟨fun h line hline ↦ ?_, admits_of_line⟩
  rw [admits, hline, Option.all_some, decide_eq_true_eq] at h
  cases hread : v.declarationLine with
  | error l => simp [hread, Except.toOption] at h
  | ok found => simpa [hread, Except.toOption] using h

theorem declares_iff : a.Declares s name v ↔ (decide (v.kind = a.variableKind) &&
    carries a.variableKind s name v && s.encloses v.symbol && decide (v.name = some name) &&
      a.admits v) = true := by
  have hsymbol : (∃ symbol, v.symbol = some symbol ∧
      (fragment a.variableKind s name).toList <:+: symbol.toList ∧
        s.encloses (some symbol) = true) ↔
      carries a.variableKind s name v = true ∧ s.encloses v.symbol = true := by
    unfold carries
    cases v.symbol with
    | none => simp
    | some symbol => simp [Text.contains_iff_isInfix]
  simp only [Bool.and_eq_true, decide_eq_true_eq, admits_eq_true_iff]
  constructor
  · intro h
    obtain ⟨hcarries, hinside⟩ := hsymbol.1 h.symbol
    exact ⟨⟨⟨⟨h.kind, hcarries⟩, hinside⟩, h.named⟩, h.line⟩
  · intro ⟨⟨⟨⟨hkind, hcarries⟩, hinside⟩, hname⟩, hline⟩
    exact ⟨hkind, hsymbol.2 ⟨hcarries, hinside⟩, hname, hline⟩

instance : Decidable (a.Declares s name v) :=
  decidable_of_iff _ declares_iff.symm

def declared (a : ReferenceContract) (s : MethodScope) (name : String) : List Value :=
  a.graph.values.filter fun v ↦ a.Declares s name v

/-- A variable is used consistently. It has a declaration: one where it is a parameter or its line
is given, and otherwise one on each line. What the method holds in its place is not a variable of
the same name elsewhere, and no argument spells it out. -/
structure Consistent (a : ReferenceContract) (s : MethodScope) (name : String) : Prop where
  declared : a.declared s name ≠ []
  single : a.variableKind = .parameter ∨ a.line ≠ none → (a.declared s name).length = 1
  lines : a.variableKind ≠ .parameter → a.line = none →
    ((a.declared s name).map Value.declarationLine).Nodup
  own : ∀ c ∈ s.calls.all, ∀ id, some id ∈ c.held → (∀ v ∈ a.declared s name, v.id ≠ id) →
    ∀ v, s.graph.getValue id = some v → v.kind = a.variableKind → v.name = some name →
      ∀ symbol, v.symbol = some symbol → s.encloses (some symbol) = true
  bound : ∀ c ∈ s.calls.all, ∀ argument ∈ c.arguments, argument.valueId = none →
    argument.valueExpr ≠ some name

theorem declared_eq_filter (hname : Symbol.normalizeVariable name = name) : a.declared s name =
    (a.graph.values.filter (isDeclaration s a.variableKind name)).filter a.admits := by
  rw [declared, List.filter_filter]
  refine List.filter_congr fun v _ ↦ ?_
  have hsame : isDeclaration s a.variableKind name v = (decide (v.kind = a.variableKind) &&
      carries a.variableKind s name v && s.encloses v.symbol && decide (v.name = some name)) := by
    rw [isDeclaration, hname]
    rfl
  rw [Bool.eq_iff_iff, decide_eq_true_iff, declares_iff, hsame, Bool.and_comm]

theorem checkSingle_eq_ok_iff : a.checkSingle subject ds = .ok () ↔
    (a.variableKind = .parameter ∨ a.line ≠ none → ds.length = 1) ∧
      (a.variableKind ≠ .parameter → a.line = none → (ds.map Prod.fst).Nodup) := by
  have hlength : (ds.map fun d ↦ (d.1, d.2.id)).length = ds.length := List.length_map _
  have hkeys : (ds.map fun d ↦ (d.1, d.2.id)).map Prod.fst = ds.map Prod.fst := by
    simp [Function.comp_def]
  simp only [checkSingle, ← hlength, ← hkeys, ← repeatedKeys_eq_nil_iff]
  generalize ds.map (fun d ↦ (d.1, d.2.id)) = keyed
  by_cases hone : a.variableKind = .parameter ∨ a.line ≠ none
  · -- one declaration is asked for, and the keys are not looked at
    have hcond : (a.variableKind = .parameter || a.line.isSome) = true := by
      simpa [Option.isSome_iff_ne_none] using hone
    have hlines : a.variableKind ≠ .parameter → a.line = none → repeatedKeys keyed = [] :=
      fun hkind hline ↦ absurd hone (not_or.2 ⟨hkind, not_not.2 hline⟩)
    rw [if_pos hcond, and_iff_left hlines]
    by_cases hlen : keyed.length = 1 <;> simp [hone, hlen]
  · obtain ⟨hkind, hline⟩ := not_or.1 hone
    have hcond : (a.variableKind = .parameter || a.line.isSome) = false := by
      simp [hkind, not_not.1 hline]
    rw [hcond]
    cases repeatedKeys keyed <;> simp [hkind, not_not.1 hline]

theorem foreignSlot?_eq_none_iff_held : foreignSlot? s subject ids c = none ↔
    ∀ id, some id ∈ c.held → id ∉ ids → ∀ v, s.graph.getValue id = some v →
      isForeign s subject v = false := by
  have hheld : ∀ id, some id ∈ c.held ↔ ∃ slot, (slot, id) ∈ c.slots := by
    intro id
    rw [← List.reduceOption_mem_iff, ← Call.map_snd_slots]
    simp
  simp only [foreignSlot?_eq_none_iff, hheld]
  exact ⟨fun h id ⟨slot, hslot⟩ ↦ h slot id hslot, fun h slot id hslot ↦ h id ⟨slot, hslot⟩⟩

theorem isForeign_eq_false_iff : isForeign s subject v = false ↔
    (v.kind = subject.kind → v.name = some subject.name → ∀ symbol, v.symbol = some symbol →
      s.encloses (some symbol) = true) := by
  unfold isForeign
  cases v.symbol with
  | none => simp
  | some symbol => simp [and_imp]

theorem countReferences_eq (calls : List Call) : countReferences ids calls =
    (calls.flatMap Call.held).countP fun held ↦ ∃ id ∈ ids, held = some id := by
  have hslots : (calls.flatMap Call.slots).map Prod.snd =
      (calls.flatMap Call.held).reduceOption := by
    rw [List.map_flatMap, List.reduceOption, List.filterMap_flatMap]
    exact congrArg (List.flatMap · calls) (funext Call.map_snd_slots)
  have hcount : countReferences ids calls =
      ((calls.flatMap Call.slots).map Prod.snd).countP fun id ↦ ids.contains id := by
    rw [countReferences, ← List.countP_eq_length_filter, List.countP_map]
    rfl
  rw [hcount, hslots, List.reduceOption, List.countP_filterMap]
  refine List.countP_congr fun held _ ↦ ?_
  cases held <;> simp

theorem declared_perm (hname : Symbol.normalizeVariable name = name)
    (h : a.declarations s name = .ok ds) : (ds.map Prod.snd).Perm (a.declared s name) := by
  rw [declared_eq_filter hname]
  exact (perm_declarations h).1

theorem mem_ids_iff {id : String} (hname : Symbol.normalizeVariable name = name)
    (h : a.declarations s name = .ok ds) :
    id ∈ ds.map (fun d ↦ d.2.id) ↔ ∃ v ∈ a.declared s name, v.id = id := by
  simp only [← (declared_perm hname h).mem_iff, List.mem_map, exists_exists_and_eq_and]

theorem nodup_lines_iff (hname : Symbol.normalizeVariable name = name)
    (h : a.declarations s name = .ok ds) :
    (ds.map Prod.fst).Nodup ↔ ((a.declared s name).map Value.declarationLine).Nodup := by
  have hlines : (ds.map Prod.snd).map Value.declarationLine =
      (ds.map Prod.fst).map Except.ok := by
    rw [List.map_map, List.map_map]
    exact List.map_congr_left (perm_declarations h).2.2
  rw [← ((declared_perm hname h).map _).nodup_iff, hlines]
  exact (List.nodup_map_iff fun _ _ ↦ Except.ok.inj).symm

theorem exists_verifyIn_iff_consistent (hname : Symbol.normalizeVariable name = name)
    (h : a.declarations s name = .ok ds) :
    (∃ r, a.verifyIn s name = .ok r) ↔ a.Consistent s name := by
  -- the checks run over the declarations in the order of their lines, which none of them sees
  have hlength : ds.length = (a.declared s name).length := by
    rw [← (declared_perm hname h).length_eq, List.length_map]
  have hne : ds ≠ [] ↔ a.declared s name ≠ [] := by
    simp only [← List.length_pos_iff, hlength]
  have hids : ∀ id, id ∉ ds.map (fun d ↦ d.2.id) ↔ ∀ v ∈ a.declared s name, v.id ≠ id := by
    simp [mem_ids_iff hname h]
  rw [exists_verifyIn_eq_ok_iff]
  simp only [h, Except.ok.injEq, exists_eq_left', hne, checkSingle_eq_ok_iff, hlength,
    nodup_lines_iff hname h, misuse?_eq_none_iff, foreignSlot?_eq_none_iff_held, hids,
    unboundArgument?_eq_none_iff, isForeign_eq_false_iff]
  constructor
  · intro ⟨hdeclared, ⟨hsingle, hlines⟩, huse⟩
    exact ⟨hdeclared, hsingle, hlines, fun c hc ↦ (huse c hc).1, fun c hc ↦ (huse c hc).2⟩
  · intro hc
    exact ⟨hc.declared, ⟨hc.single, hc.lines⟩, fun c hmem ↦ ⟨hc.own c hmem, hc.bound c hmem⟩⟩

/-- The verdict on a variable, where every line of a declaration can be read. The contract is met
exactly where the variable is used consistently, and otherwise it is violated. What is reported is
how many values declare the variable, how many slots of the method hold one of them, and the one
that is declared first. -/
theorem verdict_of_uses {a : ReferenceContract} {className methodName given : String}
    (hclass : a.className = some (Symbol.bareClass className))
    (hmethod : a.methodName = some methodName)
    (hvariable : a.variableName = some (Symbol.normalizeVariable given))
    (hlines : a.graph.ReadableLines) :
    let s := MethodScope.ofNames a.graph className methodName
    let name := Symbol.normalizeVariable given
    ((∃ r, a.verify = .ok r) ↔ a.Consistent s name) ∧
    (∀ fault, a.verify = .error fault → ∃ violation, fault = .violated violation) ∧
    ∀ r, a.verify = .ok r → r.valueCount = (a.declared s name).length ∧
      r.referenceCount = (s.calls.all.flatMap Call.held).countP (fun held ↦
        ∃ v ∈ a.declared s name, held = some v.id) ∧
      ∃ first, FirstLeast Value.lineOrder (a.declared s name) first ∧ r.valueId = first.id := by
  intro s name
  have hname : Symbol.normalizeVariable name = name := by simp [name]
  -- every line that the sort asks for can be read
  have hread : ∃ ds, a.declarations s name = .ok ds := by
    by_contra hno
    obtain ⟨v, hv, -, l, hl⟩ := declarations_eq_error_iff_exists.1 (not_exists_ok_iff.1 hno)
    obtain ⟨line, hline⟩ := hlines.exists_declarationLine hv
    cases hline.symm.trans hl
  obtain ⟨ds, hds⟩ := hread
  have hverify : a.verify = a.verifyIn s name := verify_eq_verifyIn hclass hmethod hvariable
  rw [hverify]
  refine ⟨exists_verifyIn_iff_consistent hname hds, fun _ ↦ exists_violated_of_verifyIn hds, ?_⟩
  intro r hr
  obtain ⟨d, rest, hdeclared, -, -, hid, hcount, hreferences⟩ := exists_declarations_of_verifyIn hr
  refine ⟨?_, ?_, d.2, ?_, hid⟩
  · rw [hcount, ← (declared_perm hname hdeclared).length_eq, List.length_map]
  · rw [hreferences, countReferences_eq]
    refine List.countP_congr fun held _ ↦ ?_
    simp only [decide_eq_true_eq, mem_ids_iff hname hdeclared, exists_exists_and_eq_and]
  · rw [declared_eq_filter hname]
    exact firstLeast_of_mergeSort (sorted_declarations hdeclared).1.symm

end ReferenceContract

namespace AssignedTwice

open ReferenceContract

def assigned (id symbol : String) : Value :=
  ⟨id, .localVariable, none, some symbol, none, none, none, none, none, none⟩

def late : Value :=
  assigned "l" "App/Service#run().local$item@25"

def early : Value :=
  assigned "e" "App/Service#run().local$item@9"

def use (id : String) (receiver : Option String) (arguments : List Argument) : Call :=
  ⟨id, .method, none, "App/Service#run().", some "App/Item#use().", none, receiver, none, none,
    arguments⟩

def graph : CallGraph :=
  ⟨⟨"1.0", [late, early], [use "a" none [⟨0, none, some "e", none⟩], use "b" (some "l") [],
    use "c" (some "l") [⟨0, none, none, some "1"⟩]]⟩, "<memory>"⟩

def contract : ReferenceContract :=
  ((ofGraph graph).inMethod "App\\Service" "run").forLocal "item"

def run : MethodScope :=
  .ofNames graph "App\\Service" "run"

theorem declared_item : contract.declared run "$item" = [late, early] := by
  decide

theorem consistent_item : contract.Consistent run "$item" where
  declared := by simp [declared_item]
  single h := by
    rcases h with h | h
    · cases h
    · exact absurd rfl h
  lines _ _ := by
    rw [declared_item]
    decide
  own c hc id hid hother := by
    have hheld : ∀ c ∈ run.calls.all, ∀ held ∈ c.held, held = none ∨ held = some "l" ∨
        held = some "e" := by decide
    simp only [declared_item, List.forall_mem_cons] at hother
    rcases hheld c hc _ hid with h | h | h
    · cases h
    · exact absurd (Option.some.inj h).symm hother.1
    · exact absurd (Option.some.inj h).symm hother.2.1
  bound := by decide

theorem readableLines_graph : graph.ReadableLines := by
  have hdigits : ∀ v ∈ graph.values, ∀ digits ∈ v.lineDigits?,
      digits.length ≤ Symbol.digitLimit := by decide
  exact fun v hv digits hread ↦ hdigits v hv digits hread

theorem firstLeast_item {first : Value} (h : FirstLeast Value.lineOrder [late, early] first) :
    first = early := by
  obtain ⟨before, after, hsplit, hbefore, hafter⟩ := h
  cases before with
  | nil =>
    obtain ⟨rfl, rfl⟩ := List.cons.inj hsplit
    exact absurd (hafter early List.mem_cons_self) (by decide)
  | cons v before =>
    obtain ⟨-, hrest⟩ := List.cons.inj hsplit
    have hmem : first ∈ [early] := by simp [hrest]
    exact List.mem_singleton.1 hmem

theorem verdict_of_item : ∃ r, contract.verify = .ok r ∧ r.valueCount = 2 ∧ r.referenceCount = 3 ∧
    r.valueId = "e" := by
  obtain ⟨hmet, -, hreport⟩ :=
    @verdict_of_uses contract "App\\Service" "run" "item" rfl rfl rfl readableLines_graph
  obtain ⟨r, hr⟩ := hmet.2 consistent_item
  obtain ⟨hcount, hreferences, first, hfirst, hid⟩ := hreport r hr
  have hitem : FirstLeast Value.lineOrder [late, early] first := declared_item ▸ hfirst
  obtain rfl := firstLeast_item hitem
  refine ⟨r, hr, ?_, ?_, hid⟩
  · rw [hcount]
    exact congrArg List.length declared_item
  · rw [hreferences]
    decide

end AssignedTwice

end GraphContracts
