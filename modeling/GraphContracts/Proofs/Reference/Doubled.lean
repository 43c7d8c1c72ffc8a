import GraphContracts.Proofs.Integrity.Count
import GraphContracts.Proofs.Reference.Verdict
import GraphContracts.Proofs.Symbol.Written

namespace GraphContracts

namespace CallGraph

/-- The parameters that the scan reports: scopes and names with the ids of more than one value. -/
def doubledParameters (g : CallGraph) : List ((String × String) × List String) :=
  repeatedKeys ((g.scopedValues .parameter).map fun (key, v) ↦ (key, v.id))

/-- The locals that the scan reports: scopes, names and lines with the ids of more than one
value. -/
def doubledLocals (g : CallGraph) :
    Except Symbol.LongLine (List ((String × String × Option Int) × List String)) :=
  (keyedByLine (g.scopedValues .localVariable)).map repeatedKeys

variable {g : CallGraph} {scope name : String} {line : Option Int} {ids : List String}
  {groups : List ((String × String × Option Int) × List String)}

theorem twice_of_mem_doubledParameters (h : ((scope, name), ids) ∈ g.doubledParameters) :
    Twice (Value.IsParameter · scope name) g.values := by
  classical
  rw [twice_iff_one_lt_countP, ← countP_keyedParameters]
  exact mem_keys_repeatedKeys.1 (List.mem_map_of_mem h)

theorem twice_of_mem_doubledLocals (hg : g.doubledLocals = .ok groups)
    (h : ((scope, name, line), ids) ∈ groups) :
    Twice (Value.IsLocal · scope name line) g.values := by
  classical
  rw [doubledLocals] at hg
  cases hkeyed : keyedByLine (g.scopedValues .localVariable) with
  | error l => simp [hkeyed, Except.map] at hg
  | ok keyed =>
    rw [hkeyed] at hg
    obtain rfl := Except.ok.inj hg
    rw [twice_iff_one_lt_countP, ← countP_keyedLocals hkeyed]
    exact mem_keys_repeatedKeys.1 (List.mem_map_of_mem h)

theorem exists_declarationLine_of_doubledLocals (hg : g.doubledLocals = .ok groups) {v : Value}
    (hv : v ∈ g.values) (hkind : v.kind = .localVariable) (hname : v.name = some name) :
    ∃ line, v.declarationLine = .ok line := by
  cases hline : v.declarationLine with
  | ok line => exact ⟨line, rfl⟩
  | error l =>
    have hscope : ∃ scope, v.scope = some scope := by
      -- only a line in a symbol that has a shape, and with it a scope, can be too long
      unfold Value.declarationLine Symbol.declarationLine at hline
      unfold Value.scope Symbol.scope
      cases hshape : v.symbol.bind Symbol.shape? with
      | none => simp [hshape] at hline
      | some shape => exact ⟨_, rfl⟩
    obtain ⟨scope, hscope⟩ := hscope
    have hmem : ((scope, name), v) ∈ g.scopedValues .localVariable :=
      List.mem_filterMap.2 ⟨v, List.mem_filter.2 ⟨hv, by simpa using hkind⟩, by
        rw [hscope, hname]⟩
    obtain ⟨l, hl⟩ := (keyedByLine_eq_error_iff _).2 ⟨_, hmem, l, hline⟩
    rw [doubledLocals, hl] at hg
    cases hg

end CallGraph

namespace ReferenceContract

variable {a : ReferenceContract} {s : MethodScope} {kind : ValueKind} {scope name : String}
  {v : Value} {p : Value → Prop} {ds : List (Option Int × Value)} {line : Option Int}

/-- A value whose symbol goes on behind the scope as the fragment goes on behind the method is a
declaration in the method. -/
theorem isDeclaration_of_mark {symbol : String} (mark rest : List Char)
    (hscope : Symbol.EndsIn s.pattern scope) (hkind : v.kind = kind) (hname : v.name = some name)
    (hsymbol : v.symbol = some symbol)
    (hfragment : (fragment kind s name).toList = s.pattern.toList ++ '.' :: mark)
    (hspelled : symbol.toList = scope.toList ++ '.' :: (mark ++ rest)) :
    isDeclaration s kind name v = true := by
  have hcarries : Text.contains (fragment kind s name) symbol = true := by
    obtain ⟨before, hbefore, -⟩ := hscope
    refine Text.contains_eq_true.2 ⟨before, rest, ?_⟩
    rw [hspelled, hbefore, hfragment]
    simp
  have hinside : s.encloses (some symbol) = true := hscope.inScope hspelled
  have hspelling := Value.normalizeVariable_of_name hname
  simp [isDeclaration, hkind, hsymbol, hcarries, hinside, hname, hspelling]

theorem isDeclaration_of_parameterFragment (rest : String)
    (hscope : Symbol.EndsIn s.pattern scope) (hkind : v.kind = .parameter)
    (hname : v.name = some name)
    (hsymbol : v.symbol = some (Symbol.parameterFragment scope name ++ rest)) :
    isDeclaration s .parameter name v = true := by
  refine isDeclaration_of_mark ('(' :: (Symbol.normalizeVariable name).toList ++ [')'])
    rest.toList hscope hkind hname hsymbol ?_ ?_
  · simp [fragment, Symbol.parameterFragment]
  · simp [Symbol.parameterFragment]

theorem isDeclaration_of_localFragment (rest : String)
    (hscope : Symbol.EndsIn s.pattern scope) (hkind : v.kind = .localVariable)
    (hname : v.name = some name)
    (hsymbol : v.symbol = some (Symbol.localFragment scope name ++ rest)) :
    isDeclaration s .localVariable name v = true := by
  refine isDeclaration_of_mark ("local".toList ++ (Symbol.normalizeVariable name).toList)
    rest.toList hscope hkind hname hsymbol ?_ ?_
  · simp [fragment, Symbol.localFragment]
  · simp [Symbol.localFragment]

theorem exists_declarations_of_doubledLocals (s : MethodScope) (name : String)
    {groups : List ((String × String × Option Int) × List String)}
    (hg : a.graph.doubledLocals = .ok groups) (hkind : a.variableKind = .localVariable) :
    ∃ ds, a.declarations s name = .ok ds := by
  cases hread : a.declarations s name with
  | ok ds => exact ⟨ds, rfl⟩
  | error l =>
    obtain ⟨v, hv, hdeclared, l, hl⟩ := declarations_eq_error_iff_exists.1 ⟨l, hread⟩
    simp only [isDeclaration, hkind, Bool.and_eq_true, decide_eq_true_eq] at hdeclared
    obtain ⟨⟨⟨hlocal, -⟩, -⟩, hname⟩ := hdeclared
    obtain ⟨line, hline⟩ :=
      CallGraph.exists_declarationLine_of_doubledLocals hg hv hlocal hname
    cases hline.symm.trans hl

theorem verifyIn_of_twice (h : a.declarations s name = .ok ds)
    (hone : a.variableKind = .parameter ∨ a.line.isSome = true) (htwo : Twice p a.graph.values)
    (hp : ∀ v ∈ a.graph.values, p v →
      isDeclaration s a.variableKind name v = true ∧ a.admits v = true) :
    a.verifyIn s name = .error (.violated
      (.notSingle ⟨a.variableKind, name, s.label⟩ (ds.map fun d ↦ d.2.id))) := by
  classical
  have hcount := countP_declarations h hp
  have hmany := twice_iff_one_lt_countP.1 htwo
  have hlen : 1 < ds.length := by
    refine lt_of_lt_of_le ?_ (List.countP_le_length (p := fun d ↦ p d.2))
    rw [hcount]
    exact hmany
  refine verifyIn_of_checkSingle h (List.ne_nil_of_length_pos (by omega)) ?_
  have hcond : (a.variableKind = .parameter || a.line.isSome) = true := by simpa using hone
  simp [checkSingle, hcond, hlen.ne', Function.comp_def]

theorem verifyIn_of_twice_at_line (h : a.declarations s name = .ok ds)
    (hkind : a.variableKind ≠ .parameter) (hline : a.line = none) (htwo : Twice p a.graph.values)
    (hp : ∀ v ∈ a.graph.values, p v →
      isDeclaration s a.variableKind name v = true ∧ v.declarationLine = .ok line) :
    ∃ shared ids, a.verifyIn s name = .error (.violated
      (.sharedLine ⟨a.variableKind, name, s.label⟩ shared ids)) := by
  classical
  have hadmits : ∀ v, a.admits v = true := fun v ↦ admits_of_line (by simp [hline])
  have hcount := countP_declarations h fun v hv hpv ↦ ⟨(hp v hv hpv).1, hadmits v⟩
  have hmany := twice_iff_one_lt_countP.1 htwo
  rw [← hcount] at hmany
  have hsame : ds.countP (fun d ↦ p d.2) ≤
      (ds.map fun d ↦ (d.1, d.2.id)).countP fun e ↦ e.1 = line := by
    rw [List.countP_map]
    refine List.countP_mono_left fun d hd hpd ↦ ?_
    have hmem := ((mem_declarations h).1 (List.mem_map_of_mem hd)).1
    have hread := (perm_declarations h).2.2 d hd
    rw [(hp d.2 hmem (of_decide_eq_true hpd)).2] at hread
    simpa using (Except.ok.inj hread).symm
  obtain ⟨⟨shared, ids⟩, hgroup, -⟩ :=
    List.mem_map.1 (mem_keys_repeatedKeys.2 (lt_of_lt_of_le hmany hsame))
  obtain ⟨group, more, hgroups⟩ := List.exists_cons_of_ne_nil (List.ne_nil_of_mem hgroup)
  have hne : ds ≠ [] := by
    rintro rfl
    simp at hmany
  refine ⟨group.1, group.2, verifyIn_of_checkSingle h hne ?_⟩
  simp [checkSingle, hkind, hline, hgroups]

/-- A variable that the scan reports for a method is not accepted there. Of two values of one
parameter the contract reports that they are not single, unless the line of a declaration cannot be
read; with two values of one local on one line it comes to that report, or without a line to the one
about the line they share. -/
theorem verify_of_doubled (g : CallGraph) (name : String)
    {className methodName scope : String}
    (hscope : Symbol.EndsIn (Symbol.scopePattern className methodName) scope) :
    let s := MethodScope.ofNames g className methodName
    let a := (ofGraph g).inMethod className methodName
    (∀ ids, ((scope, name), ids) ∈ g.doubledParameters →
      (∀ v ∈ g.values, v.IsParameter scope name →
        v.symbol = some (Symbol.parameterFragment scope name)) →
      ((∃ ids, (a.forParameter name).verify =
          .error (.violated (.notSingle ⟨.parameter, name, s.label⟩ ids))) ∨
        ∃ l, (a.forParameter name).verify = .error (.longLine l)) ∧
      ((∃ l, (a.forParameter name).verify = .error (.longLine l)) ↔
        ∃ v ∈ g.values, isDeclaration s .parameter name v = true ∧
          ∃ l, v.declarationLine = .error l)) ∧
    ∀ groups line ids, g.doubledLocals = .ok groups → ((scope, name, line), ids) ∈ groups →
      (∀ v ∈ g.values, v.IsLocal scope name line →
        ∃ rest, v.symbol = some (Symbol.localFragment scope name ++ rest)) →
      (∃ shared ids, (a.forLocal name).verify =
        .error (.violated (.sharedLine ⟨.localVariable, name, s.label⟩ shared ids))) ∧
      ∀ known, line = some known → ∃ ids, ((a.forLocal name).declaredAt known).verify =
        .error (.violated (.notSingle ⟨.localVariable, name, s.label⟩ ids)) := by
  intro s a
  rw [← MethodScope.pattern_ofNames g] at hscope
  constructor
  · intro ids hgroup hsymbols
    have htwo := CallGraph.twice_of_mem_doubledParameters hgroup
    obtain ⟨v, -, -, hv, -⟩ := id htwo
    have hname := Value.normalizeVariable_of_name hv.2.2
    have hverify : (a.forParameter name).verify = (a.forParameter name).verifyIn s name :=
      verify_eq_verifyIn rfl rfl (congrArg some hname)
    simp only [hverify, verifyIn_eq_longLine_iff]
    refine ⟨?_, declarations_eq_error_iff_exists⟩
    -- of the two declarations a line may still be unreadable
    cases hread : (a.forParameter name).declarations s name with
    | error l => exact .inr ⟨l, rfl⟩
    | ok ds =>
      refine .inl ⟨_, verifyIn_of_twice hread (.inl rfl) htwo fun v hv hparameter ↦ ⟨?_, ?_⟩⟩
      · refine isDeclaration_of_parameterFragment "" hscope hparameter.1 hparameter.2.2 ?_
        rw [hsymbols v hv hparameter, String.append_empty]
      · exact admits_of_line nofun
  · intro groups line ids hg hgroup hsymbols
    have htwo := CallGraph.twice_of_mem_doubledLocals hg hgroup
    obtain ⟨v, -, -, hv, -⟩ := id htwo
    have hname := Value.normalizeVariable_of_name hv.2.2.1
    have hdeclared : ∀ v ∈ g.values, v.IsLocal scope name line →
        isDeclaration s .localVariable name v = true := fun v hv hlocal ↦ by
      obtain ⟨rest, hrest⟩ := hsymbols v hv hlocal
      exact isDeclaration_of_localFragment rest hscope hlocal.1 hlocal.2.2.1 hrest
    constructor
    · have hverify : (a.forLocal name).verify = (a.forLocal name).verifyIn s name :=
        verify_eq_verifyIn rfl rfl (congrArg some hname)
      -- the scan has read the lines of all locals, so the contract can
      obtain ⟨ds, hds⟩ :=
        exists_declarations_of_doubledLocals (a := a.forLocal name) s name hg rfl
      rw [hverify]
      exact verifyIn_of_twice_at_line hds nofun rfl htwo fun v hv hlocal ↦
        ⟨hdeclared v hv hlocal, hlocal.2.2.2⟩
    · rintro known rfl
      have hverify : ((a.forLocal name).declaredAt known).verify =
          ((a.forLocal name).declaredAt known).verifyIn s name :=
        verify_eq_verifyIn rfl rfl (congrArg some hname)
      obtain ⟨ds, hds⟩ := exists_declarations_of_doubledLocals
        (a := (a.forLocal name).declaredAt known) s name hg rfl
      rw [hverify]
      refine ⟨_, verifyIn_of_twice hds (.inr rfl) htwo fun v hv hlocal ↦
        ⟨hdeclared v hv hlocal, admits_of_line ?_⟩⟩
      rintro line ⟨⟩
      exact hlocal.2.2.2

end ReferenceContract

namespace TwiceDeclared

open ReferenceContract

def declared (id : String) (kind : ValueKind) (symbol : String) : Value :=
  ⟨id, kind, none, some symbol, none, none, none, none, none, none⟩

def parameter (id : String) : Value :=
  declared id .parameter "pkg App/Service#run().($order)"

def assigned (id : String) : Value :=
  declared id .localVariable "pkg App/Service#run().local$order@9"

def graph (values : List Value) : CallGraph :=
  ⟨⟨"1.0", values, []⟩, "<memory>"⟩

def contract (g : CallGraph) : ReferenceContract :=
  (ofGraph g).inMethod "App\\Service" "run"

def values : List Value :=
  [parameter "a", assigned "c", parameter "b", assigned "d"]

theorem endsIn : Symbol.EndsIn (Symbol.scopePattern "App\\Service" "run")
    "pkg App/Service#run()" :=
  ⟨"pkg ".toList, by decide, by decide⟩

theorem verify_values :
    (∃ ids, ((contract (graph values)).forParameter "$order").verify = .error (.violated
      (.notSingle ⟨.parameter, "$order", "App\\Service::run"⟩ ids))) ∧
    (∃ shared ids, ((contract (graph values)).forLocal "$order").verify = .error (.violated
      (.sharedLine ⟨.localVariable, "$order", "App\\Service::run"⟩ shared ids))) ∧
    ∃ ids, (((contract (graph values)).forLocal "$order").declaredAt 9).verify = .error (.violated
      (.notSingle ⟨.localVariable, "$order", "App\\Service::run"⟩ ids)) := by
  obtain ⟨hparameter, hlocal⟩ := verify_of_doubled (graph values) "$order" endsIn
  obtain ⟨hverify, hlong⟩ := hparameter ["a", "b"] (by decide) (by decide)
  have hgroups : (graph values).doubledLocals =
      .ok [(("pkg App/Service#run()", "$order", some 9), ["c", "d"])] := by decide
  have hspelled : ∀ v ∈ values, v.IsLocal "pkg App/Service#run()" "$order" (some 9) →
      v.symbol = some (Symbol.localFragment "pkg App/Service#run()" "$order" ++ "@9") := by decide
  obtain ⟨hshared, hsingle⟩ := hlocal _ (some 9) ["c", "d"] hgroups (by decide)
    fun v hv hv' ↦ ⟨"@9", hspelled v hv hv'⟩
  refine ⟨hverify.resolve_right fun h ↦ ?_, hshared, hsingle 9 rfl⟩
  obtain ⟨v, hv, -, l, hl⟩ := hlong.1 h
  have hlines : ∀ v ∈ values, v.declarationLine.toBool = true := by decide
  have hread := hlines v hv
  rw [hl] at hread
  cases hread

def digits : List Char :=
  List.replicate (Symbol.digitLimit + 1) '1'

def longSymbol : String :=
  Symbol.parameterFragment "pkg App/Service#run()" "$order" ++
    String.ofList (".local".toList ++ '$' :: ("order".toList ++ '@' :: digits))

def long : Value :=
  declared "e" .parameter longSymbol

theorem shape?_long : long.symbol.bind Symbol.shape? = some
    (.localVariable "pkg App/Service#run().($order)".toList "$order".toList digits) := by
  have hne : digits ≠ [] := by simp [digits]
  have hdigits : ∀ d ∈ digits, Text.isDigit d = true := fun d hd ↦ by
    rw [List.eq_of_mem_replicate hd]
    decide
  have hfragment : (Symbol.parameterFragment "pkg App/Service#run()" "$order").toList =
      "pkg App/Service#run().($order)".toList := by decide
  have hspelled : longSymbol.toList = "pkg App/Service#run().($order)".toList ++
      (".local".toList ++ '$' :: ("order".toList ++ '@' :: digits)) := by
    rw [longSymbol, String.toList_append, String.toList_ofList, hfragment]
  rw [show long.symbol = some longSymbol from rfl, Option.bind_some]
  exact Symbol.shape?_local_at_line (by decide) (by decide) (by decide) (by decide) hne hdigits
    hspelled

theorem scope_long : long.scope = some "pkg App/Service#run().($order)" :=
  (Value.scope_of_shape shape?_long).trans (congrArg some String.ofList_toList)

theorem name_long : long.name = some "$order" :=
  (Value.name_of_shape rfl shape?_long).trans (congrArg some String.ofList_toList)

theorem declarationLine_long : long.declarationLine = .error ⟨Symbol.digitLimit + 1⟩ := by
  have hlength : digits.length = Symbol.digitLimit + 1 := by
    rw [digits, List.length_replicate]
  rw [Value.declarationLine_of_long shape?_long (by omega), hlength]

def beside (v : Value) : CallGraph :=
  graph [parameter "a", parameter "b", v]

variable {v : Value} {scope : String}

theorem scopedValues_beside (hkind : v.kind = .parameter) (hscope : v.scope = some scope)
    (hname : v.name = some "$order") :
    (beside v).scopedValues .parameter = [(("pkg App/Service#run()", "$order"), parameter "a"),
      (("pkg App/Service#run()", "$order"), parameter "b"), ((scope, "$order"), v)] := by
  have hparameter : ∀ id, (parameter id).kind = .parameter ∧
      (parameter id).scope = some "pkg App/Service#run()" ∧ (parameter id).name = some "$order" :=
    fun _ ↦ ⟨rfl, rfl, rfl⟩
  simp [CallGraph.scopedValues, CallGraph.values, graph, beside, hparameter, hkind, hscope, hname]

theorem isDeclaration_beside {w : Value} (rest : String) (hkind : w.kind = .parameter)
    (hname : w.name = some "$order")
    (hsymbol : w.symbol =
      some (Symbol.parameterFragment "pkg App/Service#run()" "$order" ++ rest)) :
    isDeclaration (.ofNames (beside v) "App\\Service" "run") .parameter "$order" w = true := by
  refine isDeclaration_of_parameterFragment rest ?_ hkind hname hsymbol
  rw [MethodScope.pattern_ofNames]
  exact endsIn

theorem declarations_beside {l : Symbol.LongLine}
    (hv : isDeclaration (.ofNames (beside v) "App\\Service" "run") .parameter "$order" v = true)
    (hline : v.declarationLine = .error l) :
    ((contract (beside v)).forParameter "$order").declarations
      (.ofNames (beside v) "App\\Service" "run") "$order" = .error l := by
  have hdeclared : ∀ id, isDeclaration (.ofNames (beside v) "App\\Service" "run") .parameter
      "$order" (parameter id) = true := fun _ ↦ isDeclaration_beside "" rfl rfl rfl
  have hread : ∀ id, (parameter id).declarationLine = .ok none := fun _ ↦ rfl
  have hgraph : ((contract (beside v)).forParameter "$order").graph.values =
      [parameter "a", parameter "b", v] := rfl
  have hkind : ((contract (beside v)).forParameter "$order").variableKind = .parameter := rfl
  simp only [declarations, hgraph, hkind, List.filter_cons, List.filter_nil, hdeclared, hv,
    if_true, withLines, hread, hline]
  rfl

theorem verify_beside_long :
    (("pkg App/Service#run()", "$order"), ["a", "b"]) ∈ (beside long).doubledParameters ∧
    (∀ v ∈ (beside long).values, v.IsParameter "pkg App/Service#run()" "$order" →
      v.symbol = some (Symbol.parameterFragment "pkg App/Service#run()" "$order")) ∧
    ((contract (beside long)).forParameter "$order").verify =
      .error (.longLine ⟨Symbol.digitLimit + 1⟩) := by
  refine ⟨?_, ?_, ?_⟩
  · rw [CallGraph.doubledParameters, scopedValues_beside rfl scope_long name_long]
    decide
  · have hspelled : ∀ id, (parameter id).symbol =
        some (Symbol.parameterFragment "pkg App/Service#run()" "$order") := fun _ ↦ rfl
    intro v hv hparameter
    obtain rfl | rfl | rfl : v = parameter "a" ∨ v = parameter "b" ∨ v = long := by
      simpa [beside, graph, CallGraph.values] using hv
    · exact hspelled "a"
    · exact hspelled "b"
    · have hscope := hparameter.2.1
      rw [scope_long] at hscope
      exact absurd hscope (by decide)
  · have hverify : ((contract (beside long)).forParameter "$order").verify =
        ((contract (beside long)).forParameter "$order").verifyIn
          (.ofNames (beside long) "App\\Service" "run") "$order" := verify_eq_verifyIn rfl rfl rfl
    rw [hverify, verifyIn_eq_longLine_iff]
    refine declarations_beside ?_ declarationLine_long
    exact isDeclaration_beside _ rfl name_long rfl

end TwiceDeclared

end GraphContracts
