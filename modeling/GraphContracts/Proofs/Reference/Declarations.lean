import GraphContracts.Contract.Reference
import GraphContracts.Proofs.Outcome
import GraphContracts.Proofs.Scope
import GraphContracts.Proofs.Sorted
import GraphContracts.Proofs.Symbol

namespace GraphContracts

def MethodScope.variables (s : MethodScope) (kind : ValueKind) (name : String) : ValueQuery :=
  (s.values.kind kind.name).named name

/-- The line of a declaration as declarations are put in order. -/
def Value.lineOrder (v : Value) : Int :=
  v.declarationLine.toOption.join.getD 0

namespace ReferenceContract

/-- The symbol of a value carries the fragment for a variable. -/
def carries (kind : ValueKind) (s : MethodScope) (name : String) (v : Value) : Bool :=
  v.symbol.any (Text.contains (fragment kind s name))

def admits (a : ReferenceContract) (v : Value) : Bool :=
  a.line.all fun line ↦ v.declarationLine.toOption = some (some line)

variable {a : ReferenceContract} {s : MethodScope} {kind : ValueKind} {name : String} {v : Value}
  {vs : List Value} {ds : List (Option Int × Value)}

theorem isSome_of_carries (h : carries kind s name v = true) : v.symbol.isSome = true := by
  unfold carries at h
  cases hsymbol : v.symbol with
  | none => simp [hsymbol] at h
  | some symbol => rfl

theorem mem_variables : v ∈ (s.variables kind name).all ↔
    v ∈ s.values.all ∧ v.kind = kind ∧ v.name = some (Symbol.normalizeVariable name) := by
  simp only [MethodScope.variables, NodeQuery.named, NodeQuery.kind, NodeQuery.all_filtered,
    List.mem_filter, decide_eq_true_eq, and_assoc]
  exact and_congr_right' (and_congr_left' ValueKind.name_injective.eq_iff)

/-- A declaration is a value that the method holds and whose symbol carries the fragment. -/
theorem filter_isDeclaration :
    s.graph.values.filter (isDeclaration s kind name) =
      (s.variables kind name).all.filter (carries kind s name) := by
  simp only [MethodScope.variables, NodeQuery.named, NodeQuery.kind, NodeQuery.all_filtered,
    MethodScope.values_all_eq_filter, List.filter_filter]
  refine List.filter_congr fun v _ ↦ ?_
  have hkind : Node.kindName v = kind.name ↔ v.kind = kind := ValueKind.name_injective.eq_iff
  simp only [isDeclaration, MethodScope.declares, carries, hkind]
  cases v.symbol with
  | none => simp
  | some symbol => simp only [Bool.and_assoc, Bool.and_comm, Bool.and_left_comm]

theorem withLines_eq_mapM (vs : List Value) :
    withLines vs = vs.mapM fun v ↦ v.declarationLine.map (·, v) := by
  induction vs with
  | nil => rfl
  | cons v vs ih =>
    rw [withLines, List.mapM_cons, ← ih]
    cases v.declarationLine with
    | error l => rfl
    | ok line => cases withLines vs <;> rfl

theorem withLines_eq_ok_iff : withLines vs = .ok ds ↔
    List.Forall₂ (fun v d ↦ d.2 = v ∧ v.declarationLine = .ok d.1) vs ds := by
  have hread : ∀ (v : Value) (d : Option Int × Value),
      v.declarationLine.map (·, v) = .ok d ↔ d.2 = v ∧ v.declarationLine = .ok d.1 := by
    rintro v ⟨line, w⟩
    cases v.declarationLine <;> simp [Except.map, and_comm, eq_comm]
  simp only [withLines_eq_mapM, mapM_eq_ok_iff, hread]

theorem withLines_ok (h : withLines vs = .ok ds) :
    ds.map Prod.snd = vs ∧ ∀ d ∈ ds, d.2.declarationLine = .ok d.1 := by
  have hread := withLines_eq_ok_iff.1 h
  have hvalues := List.forall₂_map_right_iff.2 (hread.imp fun _ _ hd ↦ hd.1.symm)
  rw [List.forall₂_eq_eq_eq] at hvalues
  exact ⟨hvalues.symm, forall_mem_of_forall₂ hread fun v d hd ↦ hd.1 ▸ hd.2⟩

theorem withLines_eq_error_iff (vs : List Value) :
    (∃ l, withLines vs = .error l) ↔ ∃ v ∈ vs, ∃ l, v.declarationLine = .error l := by
  induction vs with
  | nil => simp [withLines]
  | cons v vs ih =>
    rw [withLines, List.exists_mem_cons_iff, ← ih]
    cases v.declarationLine with
    | error l => simp
    | ok line => cases withLines vs <;> simp [Except.map]

theorem admits_of_line (h : ∀ line, a.line = some line → v.declarationLine = .ok (some line)) :
    a.admits v = true := by
  unfold admits
  cases hline : a.line with
  | none => rfl
  | some line => simp [h line hline, Except.toOption]

theorem sorted_declarations (h : a.declarations s name = .ok ds) :
    ds.map Prod.snd = (((a.graph.values.filter (isDeclaration s a.variableKind name)).filter
      a.admits).mergeSort fun v w ↦ v.lineOrder ≤ w.lineOrder) ∧
    ∀ d ∈ ds, d.2.declarationLine = .ok d.1 := by
  unfold declarations at h
  cases hread : withLines (a.graph.values.filter (isDeclaration s a.variableKind name)) with
  | error l => simp [hread, Except.map] at h
  | ok found =>
    simp only [hread, Except.map, Except.ok.injEq] at h
    subst h
    obtain ⟨hvalues, hlines⟩ := withLines_ok hread
    -- lines that were read select and sort like the lines of the values themselves
    have hchosen : found.filter (fun d ↦ a.line.all fun line ↦ d.1 = some line) =
        found.filter fun d ↦ a.admits d.2 := by
      refine List.filter_congr fun d hd ↦ ?_
      simp [admits, hlines d hd, Except.toOption]
    have horder : ∀ d ∈ found.filter (fun d ↦ a.admits d.2), d.2.lineOrder = d.1.getD 0 := by
      intro d hd
      simp [Value.lineOrder, hlines d (List.mem_filter.1 hd).1, Except.toOption]
    rw [hchosen]
    constructor
    · rw [← hvalues, List.filter_map]
      refine List.map_mergeSort fun d hd e he ↦ ?_
      rw [horder d hd, horder e he]
    · intro d hd
      exact hlines d (List.mem_filter.1 ((List.mergeSort_perm _ _).mem_iff.1 hd)).1

theorem perm_declarations (h : a.declarations s name = .ok ds) :
    (ds.map Prod.snd).Perm ((a.graph.values.filter
      (isDeclaration s a.variableKind name)).filter a.admits) ∧
      (ds.Pairwise fun x y ↦ x.1.getD 0 ≤ y.1.getD 0) ∧
      ∀ d ∈ ds, d.2.declarationLine = .ok d.1 := by
  obtain ⟨hsort, hlines⟩ := sorted_declarations h
  have horder : ∀ d ∈ ds, d.2.lineOrder = d.1.getD 0 := by
    intro d hd
    simp [Value.lineOrder, hlines d hd, Except.toOption]
  refine ⟨hsort ▸ List.mergeSort_perm _ _, ?_, hlines⟩
  have hordered : (ds.map Prod.snd).Pairwise fun v w ↦ v.lineOrder ≤ w.lineOrder :=
    hsort ▸ pairwise_mergeSort_key Value.lineOrder _
  refine (List.pairwise_map.1 hordered).imp_of_mem fun {d e} hd he hle ↦ ?_
  rwa [horder d hd, horder e he] at hle

/-- The declarations come to an error exactly where the line of one of them cannot be read, also of
one on another line than the one that is asked for. -/
theorem declarations_eq_error_iff_exists : (∃ l, a.declarations s name = .error l) ↔
    ∃ v ∈ a.graph.values, isDeclaration s a.variableKind name v = true ∧
      ∃ l, v.declarationLine = .error l := by
  have hlong := withLines_eq_error_iff
    (a.graph.values.filter (isDeclaration s a.variableKind name))
  simp only [List.mem_filter, and_assoc] at hlong
  rw [← hlong, declarations]
  cases withLines _ <;> simp [Except.map]

/-- Without a line the declarations are the marked values, put in the order of their lines. -/
theorem declarations_ok (hline : a.line = none) (hgraph : a.graph = s.graph)
    (h : a.declarations s name = .ok ds) :
    (ds.map Prod.snd).Perm
        ((s.variables a.variableKind name).all.filter (carries a.variableKind s name)) ∧
      (ds.Pairwise fun x y ↦ x.1.getD 0 ≤ y.1.getD 0) ∧
      ∀ d ∈ ds, d.2.declarationLine = .ok d.1 := by
  obtain ⟨hperm, hordered⟩ := perm_declarations h
  have hall : ∀ v, a.admits v = true := fun v ↦ admits_of_line (by simp [hline])
  rw [List.filter_eq_self.2 fun v _ ↦ hall v, hgraph, filter_isDeclaration] at hperm
  exact ⟨hperm, hordered⟩

theorem declarations_eq_nil_iff (hline : a.line = none) (hgraph : a.graph = s.graph) :
    a.declarations s name = .ok [] ↔
      (s.variables a.variableKind name).all.filter (carries a.variableKind s name) = [] := by
  constructor
  · intro h
    exact List.nil_perm.1 (declarations_ok hline hgraph h).1
  · intro h
    rw [declarations, hgraph, filter_isDeclaration, h]
    simp [withLines, Except.map]

theorem declarations_eq_error_iff (hgraph : a.graph = s.graph) :
    (∃ l, a.declarations s name = .error l) ↔
      ∃ v ∈ (s.variables a.variableKind name).all, carries a.variableKind s name v = true ∧
        ∃ l, v.declarationLine = .error l := by
  have hfound : s.graph.values.filter (isDeclaration s a.variableKind name) =
      (s.variables a.variableKind name).all.filter (carries a.variableKind s name) :=
    filter_isDeclaration
  simp only [declarations_eq_error_iff_exists, ← and_assoc, ← List.mem_filter, hgraph, hfound]

theorem checkSingle_ne_undeclared {subject : Subject} {pattern : String} :
    a.checkSingle subject ds ≠ .error (.undeclared subject pattern) := by
  unfold checkSingle
  grind

theorem misuse?_ne_undeclared {subject : Subject} {ids : List String} {c : Call}
    {pattern : String} : misuse? s subject ids c ≠ some (.undeclared subject pattern) := by
  unfold misuse?
  split <;> simp

theorem verifyIn_of_declarations {d : Option Int × Value}
    (h : a.declarations s name = .ok (d :: ds)) :
    a.verifyIn s name =
      match a.checkSingle ⟨a.variableKind, name, s.label⟩ (d :: ds) with
      | .error v => .error (.violated v)
      | .ok _ =>
        match s.calls.all.findSome?
          (misuse? s ⟨a.variableKind, name, s.label⟩ ((d :: ds).map fun e ↦ e.2.id)) with
        | some v => .error (.violated v)
        | none =>
          let count := countReferences ((d :: ds).map fun e ↦ e.2.id) s.calls.all
          let subject : Subject := ⟨a.variableKind, name, s.label⟩
          .ok ⟨d.2.id, (d :: ds).length, count,
            s!"Reference consistency verified for {subject.describe}: {(d :: ds).length} value " ++
              s!"entry (id={d.2.id}), {count} references"⟩ := by
  rw [verifyIn, h]
  simp only [Except.mapError, bind, Except.bind]
  cases a.checkSingle ⟨a.variableKind, name, s.label⟩ (d :: ds) <;> rfl

theorem verifyIn_eq_undeclared_iff :
    a.verifyIn s name = .error (.violated (.undeclared ⟨a.variableKind, name, s.label⟩
        (fragment a.variableKind s name))) ↔ a.declarations s name = .ok [] := by
  cases hread : a.declarations s name with
  | error l => simp [verifyIn, hread, Except.mapError, bind, Except.bind]
  | ok ds =>
    cases ds with
    | nil => simp [verifyIn, hread, Except.mapError, bind, Except.bind]
    | cons d ds =>
      -- With a declaration at hand only the later checks can fail, and they fail in other words.
      refine iff_of_false (fun h ↦ ?_) (by simp)
      rw [verifyIn_of_declarations hread] at h
      split at h
      · rename_i hsingle
        cases h
        exact checkSingle_ne_undeclared hsingle
      · split at h
        · rename_i hmisuse
          cases h
          obtain ⟨c, -, hc⟩ := List.exists_of_findSome?_eq_some hmisuse
          exact misuse?_ne_undeclared hc
        · cases h

theorem perm_filter_iff {α : Type} {p q : α → Bool} {as : List α}
    (h : ∀ a, p a = true → q a = true) :
    (as.filter p).Perm (as.filter q) ↔ ∀ a ∈ as, q a = true → p a = true := by
  constructor
  · intro hperm a ha hq
    exact (List.mem_filter.1 (hperm.mem_iff.2 (List.mem_filter.2 ⟨ha, hq⟩))).2
  · intro hall
    exact .of_eq (List.filter_congr fun a ha ↦ Bool.eq_iff_iff.2 ⟨h a, hall a ha⟩)

/-- A contract without a line declares, of the values that the method holds under the name of the
variable, those that are marked: by line, or with an error where a line cannot be read. These are
all that carry a symbol exactly where every symbol is marked. -/
structure DeclaresMarked (a : ReferenceContract) (s : MethodScope) (name : String)
    (found : List Value) : Prop where
  verify_eq : a.verify = a.verifyIn s name
  declared : ∀ ds, a.declarations s name = .ok ds →
    (ds.map Prod.snd).Perm (found.filter (carries a.variableKind s name)) ∧
      (ds.Pairwise fun x y ↦ x.1.getD 0 ≤ y.1.getD 0) ∧
      (∀ d ∈ ds, d.2.declarationLine = .ok d.1) ∧
      ((ds.map Prod.snd).Perm (found.filter fun v ↦ v.symbol.isSome) ↔
        ∀ v ∈ found, v.symbol.isSome = true → carries a.variableKind s name v = true)
  refused : (∃ l, a.declarations s name = .error l) ↔
    ∃ v ∈ found, carries a.variableKind s name v = true ∧ ∃ l, v.declarationLine = .error l
  undeclared : a.verify = .error (.violated (.undeclared ⟨a.variableKind, name, s.label⟩
      (fragment a.variableKind s name))) ↔ found.filter (carries a.variableKind s name) = []

theorem declaresMarked (hline : a.line = none) (hgraph : a.graph = s.graph)
    (hverify : a.verify = a.verifyIn s name) :
    DeclaresMarked a s name (s.variables a.variableKind name).all where
  verify_eq := hverify
  declared ds h := by
    obtain ⟨hperm, hsorted, hlines⟩ := declarations_ok hline hgraph h
    refine ⟨hperm, hsorted, hlines, ?_⟩
    rw [← perm_filter_iff fun v ↦ isSome_of_carries]
    exact ⟨hperm.symm.trans, hperm.trans⟩
  refused := declarations_eq_error_iff hgraph
  undeclared := by rw [hverify, verifyIn_eq_undeclared_iff, declarations_eq_nil_iff hline hgraph]

theorem variables_normalizeVariable :
    s.variables kind (Symbol.normalizeVariable name) = s.variables kind name := by
  simp [MethodScope.variables, NodeQuery.named]

theorem verify_inMethod (g : CallGraph) (className methodName : String) (a : ReferenceContract)
    (h : a = { (ofGraph g).inMethod className methodName with
      variableName := some name, variableKind := kind }) :
    a.verify = a.verifyIn (.ofNames g className methodName) name := by
  subst h
  simp [verify, inMethod, ofGraph, MethodScope.ofNames]

variable {scope spelled line : List Char}

theorem name_of_shape {shape : Symbol.Shape} (hv : v ∈ (s.variables kind name).all)
    (hname : nonEmpty v.declaredName = none) (hshape : v.symbol.bind Symbol.shape? = some shape) :
    shape.name? = some (Symbol.normalizeVariable name) := by
  have h := (mem_variables.1 hv).2.2
  rwa [Value.name, hname, Symbol.variableName, hshape] at h

/-- A parameter named by its symbol is marked where the symbol spells it with the dollar sign
directly behind the method, or where the scope in its symbol is marked already. -/
theorem carries_parameter_iff (hv : v ∈ (s.parameter name).all)
    (hname : nonEmpty v.declaredName = none)
    (hshape : v.symbol.bind Symbol.shape? = some (.parameter scope spelled)) :
    carries .parameter s name v = true ↔
      spelled.head? = some '$' ∧ s.pattern.toList <:+ scope ∨
        (fragment .parameter s name).toList <:+: scope := by
  have hsame := Option.some.inj (name_of_shape hv hname hshape)
  obtain ⟨symbol, hsymbol, hshape⟩ := Option.bind_eq_some_iff.1 hshape
  rw [carries, hsymbol, Option.any_some]
  exact Symbol.contains_parameterFragment_iff hshape hsame

theorem carries_localVariable (hv : v ∈ (s.localVariable name).all)
    (hname : nonEmpty v.declaredName = none)
    (hshape : v.symbol.bind Symbol.shape? = some (.localVariable scope spelled line))
    (hscope : s.pattern.toList <:+ scope) : carries .localVariable s name v = true := by
  have hsame := Option.some.inj (name_of_shape hv hname hshape)
  obtain ⟨symbol, hsymbol, hshape⟩ := Option.bind_eq_some_iff.1 hshape
  rw [carries, hsymbol, Option.any_some]
  exact Symbol.contains_localFragment hshape hsame hscope

/-- What a contract declares for a parameter or a local, whatever the document and the names are,
and which symbols that name the variable themselves are marked. -/
theorem declarations_inMethod (g : CallGraph) (className methodName name : String) :
    let s := MethodScope.ofNames g className methodName
    let a := (ofGraph g).inMethod className methodName
    let wanted := Symbol.normalizeVariable name
    DeclaresMarked (a.forParameter name) s wanted (s.parameter name).all ∧
      DeclaresMarked (a.forLocal name) s wanted (s.localVariable name).all ∧
      (∀ v ∈ (s.parameter name).all, nonEmpty v.declaredName = none → ∀ scope spelled,
        v.symbol.bind Symbol.shape? = some (.parameter scope spelled) →
          (carries .parameter s wanted v = true ↔
            spelled.head? = some '$' ∧ s.pattern.toList <:+ scope ∨
              (fragment .parameter s wanted).toList <:+: scope)) ∧
      ∀ v ∈ (s.localVariable name).all, nonEmpty v.declaredName = none → ∀ scope spelled line,
        v.symbol.bind Symbol.shape? = some (.localVariable scope spelled line) →
          s.pattern.toList <:+ scope → carries .localVariable s wanted v = true := by
  intro s a wanted
  have hparameter : s.parameter name = s.variables .parameter wanted :=
    variables_normalizeVariable.symm
  have hlocal : s.localVariable name = s.variables .localVariable wanted :=
    variables_normalizeVariable.symm
  rw [hparameter, hlocal]
  refine ⟨?_, ?_, ?_, ?_⟩
  · exact declaresMarked (a := a.forParameter name) rfl rfl (verify_inMethod g _ _ _ rfl)
  · exact declaresMarked (a := a.forLocal name) rfl rfl (verify_inMethod g _ _ _ rfl)
  · exact fun v hv hname scope spelled ↦ carries_parameter_iff hv hname
  · exact fun v hv hname scope spelled line ↦ carries_localVariable hv hname

end ReferenceContract

namespace TwoSpellings

open ReferenceContract

def variableValue (id symbol : String) (kind : ValueKind) : Value :=
  ⟨id, kind, none, some symbol, none, none, none, none, none, none⟩

def marked : Value :=
  variableValue "marked" "App/Service#run().($order)" .parameter

def bare : Value :=
  variableValue "bare" "App/Service#run().(order)" .parameter

def early : Value :=
  variableValue "early" "App/Service#run().local$item@9" .localVariable

def late : Value :=
  variableValue "late" "App/Service#run().local$item@25" .localVariable

def graph (values : List Value) : CallGraph :=
  ⟨⟨"1.0", values, []⟩, "<memory>"⟩

def run (values : List Value) : MethodScope :=
  .ofNames (graph values) "App\\Service" "run"

def contract (values : List Value) : ReferenceContract :=
  (ofGraph (graph values)).inMethod "App\\Service" "run"

def values : List Value :=
  [marked, late, bare, early]

theorem declarations_of_spellings :
    ((run values).parameter "order").all = [marked, bare] ∧
      (∃ ds, ((contract values).forParameter "order").declarations (run values) "$order" = .ok ds ∧
        ds.map Prod.snd = [marked]) ∧
      carries .parameter (run values) "$order" bare = false ∧
      ((run values).localVariable "item").all = [late, early] ∧
      carries .localVariable (run values) "$item" late = true := by
  obtain ⟨hparameter, -, hspelled, hlocal⟩ :=
    declarations_inMethod (graph values) "App\\Service" "run" "order"
  have hfound : ((run values).parameter "order").all = [marked, bare] := by decide
  refine ⟨hfound, ?_, ?_, by decide, ?_⟩
  · cases hread : ((contract values).forParameter "order").declarations (run values) "$order" with
    | error l =>
      obtain ⟨v, hv, -, l, hl⟩ := hparameter.refused.1 ⟨l, hread⟩
      have hlines : ∀ v ∈ ((run values).parameter "order").all, v.declarationLine = .ok none := by
        decide
      cases (hlines v hv).symm.trans hl
    | ok ds =>
      refine ⟨ds, rfl, List.perm_singleton.1 ((hparameter.declared ds hread).1.trans (.of_eq ?_))⟩
      decide
  · have hiff := hspelled bare (by decide) rfl "App/Service#run()".toList "order".toList (by decide)
    refine Bool.eq_false_iff.2 fun hcarries ↦ ?_
    obtain ⟨hhead, -⟩ | hinside := hiff.1 hcarries
    · exact absurd hhead (by decide)
    · exact absurd hinside.length_le (by decide)
  · have hitem := declarations_inMethod (graph values) "App\\Service" "run" "item"
    exact hitem.2.2.2 late (by decide) rfl "App/Service#run()".toList "$item".toList "25".toList
      (by decide) (by decide)

theorem undeclared_of_bare :
    ((run [bare]).parameter "order").all = [bare] ∧ bare.symbol.isSome = true ∧
      ((contract [bare]).forParameter "order").declarations (run [bare]) "$order" = .ok [] ∧
      ((contract [bare]).forParameter "order").verify = .error (.violated (.undeclared
        ⟨.parameter, "$order", "App\\Service::run"⟩ "App/Service#run().($order)")) := by
  have hnone : ((contract [bare]).forParameter "order").declarations (run [bare]) "$order" =
      .ok [] := (declarations_eq_nil_iff rfl rfl).2 (by decide)
  exact ⟨by decide, rfl, hnone,
    (verify_inMethod _ _ _ _ rfl).trans (verifyIn_eq_undeclared_iff.2 hnone)⟩

end TwoSpellings

end GraphContracts
