import GraphContracts.Proofs.Query.Filter
import GraphContracts.Proofs.Symbol.Word

namespace GraphContracts

namespace SymbolEntry

/-- A symbol has no kind, or an empty one. -/
def Unkinded (s : SymbolEntry) : Prop :=
  s.kind = none ∨ s.kind = some ""

/-- A symbol has neither a kind nor a word in its name. -/
def Wordless (s : SymbolEntry) : Prop :=
  s.Unkinded ∧ s.name ≠ "" ∧ Text.IsBlankText s.name.toList

instance (s : SymbolEntry) : Decidable s.Unkinded :=
  inferInstanceAs (Decidable (_ ∨ _))

instance (s : SymbolEntry) : Decidable s.Wordless :=
  inferInstanceAs (Decidable (_ ∧ _))

theorem nonEmpty_kind_eq_none {s : SymbolEntry} : nonEmpty s.kind = none ↔ s.Unkinded := by
  rw [Unkinded]
  cases s.kind with
  | none => simp [nonEmpty]
  | some k => simp [nonEmpty, Option.filter_eq_none_iff]

end SymbolEntry

inductive SymbolFilter where
  | symbol (name : String)
  | symbolContains (part : String)
  | symbolMatches (pattern : String)
  | ofKind (kind : String)
  | isClass
  | isMethod
  | isProperty
  | hasDocumentation
  | hasRelationships
  | hasRelationshipKind (kind : String)
  | holds (label : String) (test : SymbolEntry → Bool)

namespace SymbolFilter

def apply : SymbolFilter → SymbolQuery → SymbolQuery
  | symbol name, q => q.symbol name
  | symbolContains part, q => q.symbolContains part
  | symbolMatches pattern, q => q.symbolMatches pattern
  | ofKind kind, q => q.ofKind kind
  | isClass, q => q.isClass
  | isMethod, q => q.isMethod
  | isProperty, q => q.isProperty
  | hasDocumentation, q => q.hasDocumentation
  | hasRelationships, q => q.hasRelationships
  | hasRelationshipKind kind, q => q.hasRelationshipKind kind
  | holds label test, q => q.filtered label test

def label : SymbolFilter → String
  | symbol name => s!"symbol={name}"
  | symbolContains part => s!"symbol~{part}"
  | symbolMatches pattern => s!"symbol={Text.quoted pattern}"
  | ofKind kind => s!"kind={Text.lower kind}"
  | isClass => "is_class"
  | isMethod => "is_method"
  | isProperty => "is_property"
  | hasDocumentation => "has_documentation"
  | hasRelationships => "has_relationships"
  | hasRelationshipKind kind => s!"relationship={kind}"
  | holds label _ => label

/-- What the filter asks of a symbol. Methods and properties are known by their kind, or where they
have none by the last word of their name. -/
def Asks : SymbolFilter → SymbolEntry → Prop
  | symbol name, s => s.name = name
  | symbolContains part, s => part.toList <:+: s.name.toList
  | symbolMatches pattern, s => Text.Glob.StandsFor pattern.toList s.name.toList
  | ofKind kind, s => s.kind = some (Text.lower kind)
  | isClass, s => s.kind = some "class" ∨ s.kind = none ∧ s.name.toList.getLast? = some '#'
  | isMethod, s => s.kind = some "method" ∨ s.Unkinded ∧ ∃ w : String,
      Text.EndsInWord s.name.toList w.toList ∧ "().".toList <:+ w.toList
  | isProperty, s => s.kind = some "property" ∨ s.Unkinded ∧ ∃ w : String,
      Text.EndsInWord s.name.toList w.toList ∧ "#$".toList <:+: w.toList
  | hasDocumentation, s => ∃ d ∈ s.documentation, d ≠ ""
  | hasRelationships, s => s.relationships ≠ []
  | hasRelationshipKind kind, s => ∃ r ∈ s.relationships,
      kind = "reference" ∧ r.isReference ∨ kind = "implementation" ∧ r.isImplementation ∨
        kind = "type_definition" ∧ r.isTypeDefinition ∨ kind = "definition" ∧ r.isDefinition
  | holds _ test, s => test s = true

/-- The filter cannot be asked of the symbol. -/
def Halts : SymbolFilter → SymbolEntry → Prop
  | isMethod, s | isProperty, s => s.Wordless
  | _, _ => False

def Selects (fs : List SymbolFilter) (s : SymbolEntry) : Prop :=
  ∀ f ∈ fs, f.Asks s

/-- Of the filters, asked in order, the symbol passes those in front of one that cannot be asked of
it. -/
def Stumbles (fs : List SymbolFilter) (s : SymbolEntry) : Prop :=
  ∃ before f after, fs = before ++ f :: after ∧ Selects before s ∧ f.Halts s

theorem selects_cons {f : SymbolFilter} {fs : List SymbolFilter} {s : SymbolEntry} :
    Selects (f :: fs) s ↔ f.Asks s ∧ Selects fs s :=
  List.forall_mem_cons

theorem stumbles_nil (s : SymbolEntry) : ¬Stumbles [] s := by
  intro ⟨before, f, after, hfs, _⟩
  simp at hfs

theorem stumbles_cons {f : SymbolFilter} {fs : List SymbolFilter} {s : SymbolEntry} :
    Stumbles (f :: fs) s ↔ f.Halts s ∨ f.Asks s ∧ Stumbles fs s := by
  constructor
  · intro ⟨before, g, after, hfs, hasks, hhalts⟩
    cases before with
    | nil =>
      cases hfs
      exact .inl hhalts
    | cons b before =>
      cases hfs
      obtain ⟨hb, hbefore⟩ := selects_cons.1 hasks
      exact .inr ⟨hb, before, g, after, rfl, hbefore, hhalts⟩
  · intro h
    obtain hhalts | ⟨hf, before, g, after, rfl, hasks, hhalts⟩ := h
    · exact ⟨[], f, fs, rfl, nofun, hhalts⟩
    · exact ⟨f :: before, g, after, rfl, selects_cons.2 ⟨hf, hasks⟩, hhalts⟩

theorem wordless_of_stumbles {fs : List SymbolFilter} {s : SymbolEntry} (h : Stumbles fs s) :
    s.Wordless ∧ (isMethod ∈ fs ∨ isProperty ∈ fs) := by
  obtain ⟨before, f, after, rfl, -, hhalts⟩ := h
  cases f with
  | isMethod => exact ⟨hhalts, .inl (by simp)⟩
  | isProperty => exact ⟨hhalts, .inr (by simp)⟩
  | _ => exact hhalts.elim

example : SymbolEntry.Wordless ⟨" ", none, [], []⟩ ∧ ¬SymbolEntry.Wordless ⟨"", none, [], []⟩ := by
  decide

end SymbolFilter

/-- What a test that may have no answer asks for, and where it has none. -/
structure Decides {α : Type} (test : α → Except Fault Bool) (asks halts : α → Prop) : Prop where
  passes : ∀ a, test a = .ok true ↔ asks a
  fails : ∀ a e, test a = .error e ↔ e = .noWords ∧ halts a

namespace Decides

variable {α : Type} {test test' : α → Except Fault Bool} {asks asks' halts halts' : α → Prop}

theorem total {p : α → Bool} (h : ∀ a, p a = true ↔ asks a) :
    Decides (fun a ↦ .ok (p a)) asks fun _ ↦ False where
  passes a := by rw [Except.ok.injEq, h]
  fails a e := by simp

theorem exists_keep_iff {x y r : Except Fault Bool} (hr : r ≠ .ok false) :
    (∃ keep, x = .ok keep ∧ (if keep then y else pure false) = r) ↔ x = .ok true ∧ y = r := by
  constructor
  · intro ⟨keep, hkeep, hrest⟩
    cases keep with
    | true => exact ⟨hkeep, hrest⟩
    | false => exact absurd hrest.symm hr
  · intro ⟨hkeep, hrest⟩
    exact ⟨true, hkeep, hrest⟩

theorem andThen (h : Decides test asks halts) (h' : Decides test' asks' halts') :
    Decides (fun a ↦ test a >>= fun keep ↦ if keep then test' a else pure false)
      (fun a ↦ asks a ∧ asks' a) fun a ↦ halts a ∨ asks a ∧ halts' a where
  passes a := by
    rw [bind_eq_ok_iff, exists_keep_iff (by simp), h.passes, h'.passes]
  fails a e := by
    rw [bind_eq_error_iff, exists_keep_iff (by simp), h.fails, h.passes, h'.fails, and_or_left,
      and_left_comm]

end Decides

section ByKind

variable {kind : String} {word : String → Bool} {ofWord : String → Prop}

theorem SymbolQuery.byKindOr_cases (hkind : kind ≠ "") (word : String → Bool) (s : SymbolEntry) :
    (∃ k, byKindOr kind word s = .ok (k = kind) ∧ s.kind = some k ∧ ¬s.Unkinded) ∨
      byKindOr kind word s = (descriptor s.name).map word ∧ s.kind ≠ some kind ∧ s.Unkinded := by
  unfold byKindOr
  cases hk : nonEmpty s.kind with
  | some k =>
    refine .inl ⟨k, rfl, (nonEmpty_eq_some.1 hk).1, ?_⟩
    rw [← SymbolEntry.nonEmpty_kind_eq_none, hk]
    exact nofun
  | none =>
    have hunkinded := SymbolEntry.nonEmpty_kind_eq_none.1 hk
    refine .inr ⟨rfl, ?_, hunkinded⟩
    obtain h | h := hunkinded <;> simp [h, Ne.symm hkind]

theorem descriptor_map_eq_true_iff (hempty : word "" = false)
    (hword : ∀ w, word w = true ↔ ofWord w) (name : String) :
    (descriptor name).map word = .ok true ↔
      ∃ w : String, Text.EndsInWord name.toList w.toList ∧ ofWord w := by
  rw [map_eq_ok_iff]
  refine exists_congr fun w ↦ ?_
  rw [descriptor_eq_ok_iff, ← hword]
  constructor
  · intro ⟨hw, hpasses⟩
    obtain ⟨-, rfl⟩ | hw := hw
    · rw [hempty] at hpasses
      cases hpasses
    · exact ⟨hw, hpasses⟩
  · intro ⟨hw, hpasses⟩
    exact ⟨.inr hw, hpasses⟩

theorem Decides.byKindOr (hkind : kind ≠ "") (hempty : word "" = false)
    (hword : ∀ w, word w = true ↔ ofWord w) :
    Decides (SymbolQuery.byKindOr kind word)
      (fun s ↦ s.kind = some kind ∨
        s.Unkinded ∧ ∃ w : String, Text.EndsInWord s.name.toList w.toList ∧ ofWord w)
      SymbolEntry.Wordless where
  passes s := by
    obtain ⟨k, htest, hk, hno⟩ | ⟨htest, hno, hunkinded⟩ := SymbolQuery.byKindOr_cases hkind word s
    · simp [htest, hk, hno]
    · rw [htest, descriptor_map_eq_true_iff hempty hword]
      simp [hno, hunkinded]
  fails s e := by
    obtain ⟨k, htest, hk, hno⟩ | ⟨htest, hno, hunkinded⟩ := SymbolQuery.byKindOr_cases hkind word s
    · simp [htest, SymbolEntry.Wordless, hno]
    · rw [htest, map_eq_error_iff, descriptor_eq_error_iff, SymbolEntry.Wordless]
      simp [hunkinded]

end ByKind

theorem passesAll_snoc {α : Type} (a : α) (fs : List (PartialFilter α)) (f : PartialFilter α) :
    passesAll a (fs ++ [f]) =
      passesAll a fs >>= fun keep ↦ if keep then f.test a else pure false := by
  induction fs with
  | nil =>
    simp only [List.nil_append, passesAll]
    cases f.test a with
    | error e => rfl
    | ok keep => cases keep <;> rfl
  | cons g fs ih =>
    simp only [List.cons_append, passesAll, ih]
    cases g.test a with
    | error e => rfl
    | ok keep => cases keep <;> rfl

/-- A query goes through an index, lists these labels, asks for this property and is stuck at these
symbols. -/
structure SymbolQuery.Narrowed (q : SymbolQuery) (x : SymbolIndex) (labels : List String)
    (asks stuck : SymbolEntry → Prop) : Prop where
  index : q.index = x
  labels : q.labels = labels
  accepts : Decides q.accepts asks stuck

namespace SymbolQuery.Narrowed

variable {q : SymbolQuery} {x : SymbolIndex} {labels : List String}
  {asks stuck further halts : SymbolEntry → Prop}

theorem filteredPartly (h : q.Narrowed x labels asks stuck) (label : String)
    {test : SymbolEntry → Except Fault Bool} (htest : Decides test further halts) :
    (q.filteredPartly label test).Narrowed x (labels ++ [label]) (fun s ↦ asks s ∧ further s)
      fun s ↦ stuck s ∨ asks s ∧ halts s where
  index := h.index
  labels := by
    rw [← h.labels]
    simp [SymbolQuery.labels, SymbolQuery.filteredPartly]
  accepts := by
    have haccepts : (q.filteredPartly label test).accepts = fun s ↦
        q.accepts s >>= fun keep ↦ if keep then test s else pure false :=
      funext fun s ↦ passesAll_snoc ..
    rw [haccepts]
    exact h.accepts.andThen htest

theorem filtered (h : q.Narrowed x labels asks stuck) (label : String) {p : SymbolEntry → Bool}
    (hp : ∀ s, p s = true ↔ further s) :
    (q.filtered label p).Narrowed x (labels ++ [label]) (fun s ↦ asks s ∧ further s)
      fun s ↦ stuck s ∨ asks s ∧ False :=
  h.filteredPartly label (.total hp)

end SymbolQuery.Narrowed

namespace SymbolFilter

variable {q : SymbolQuery} {x : SymbolIndex} {labels : List String}
  {asks stuck : SymbolEntry → Prop}

theorem isClass_iff (s : SymbolEntry) : s.isClass = true ↔ isClass.Asks s := by
  rw [SymbolEntry.isClass, Asks]
  cases s.kind with
  | some k => simp
  | none =>
    simp [Text.endsWith, List.singleton_suffix_iff_getLast?_eq_some]

theorem hasKind_iff (r : Relationship) (kind : String) : r.hasKind kind = true ↔
    kind = "reference" ∧ r.isReference ∨ kind = "implementation" ∧ r.isImplementation ∨
      kind = "type_definition" ∧ r.isTypeDefinition ∨ kind = "definition" ∧ r.isDefinition := by
  unfold Relationship.hasKind
  grind

theorem narrowed_apply (h : q.Narrowed x labels asks stuck) (f : SymbolFilter) :
    (f.apply q).Narrowed x (labels ++ [f.label]) (fun s ↦ asks s ∧ f.Asks s)
      fun s ↦ stuck s ∨ asks s ∧ f.Halts s := by
  cases f with
  | symbol name => exact h.filtered _ fun s ↦ decide_eq_true_iff
  | symbolContains part => exact h.filtered _ fun s ↦ Text.contains_iff_isInfix
  | symbolMatches pattern => exact h.filtered _ fun s ↦ Text.globMatches_some_iff
  | ofKind kind => exact h.filtered _ fun s ↦ decide_eq_true_iff
  | isClass => exact h.filtered _ isClass_iff
  | isMethod =>
    exact h.filteredPartly _ (.byKindOr (by decide) (by decide) fun w ↦ List.isSuffixOf_iff_suffix)
  | isProperty =>
    exact h.filteredPartly _ (.byKindOr (by decide) (by decide) fun w ↦ Text.contains_iff_isInfix)
  | hasDocumentation => exact h.filtered _ fun s ↦ by simp [Asks]
  | hasRelationships => exact h.filtered _ fun s ↦ by simp [Asks]
  | hasRelationshipKind kind => exact h.filtered _ fun s ↦ by simp [Asks, hasKind_iff]
  | holds label test => exact h.filtered _ fun s ↦ Iff.rfl

theorem narrowed_foldl (h : q.Narrowed x labels asks stuck) (fs : List SymbolFilter) :
    (fs.foldl (fun q f ↦ f.apply q) q).Narrowed x (labels ++ fs.map label)
      (fun s ↦ asks s ∧ Selects fs s) fun s ↦ stuck s ∨ asks s ∧ Stumbles fs s := by
  induction fs generalizing q labels asks stuck with
  | nil => simpa [stumbles_nil, Selects] using h
  | cons f fs ih =>
    have hrest := ih (narrowed_apply h f)
    simpa [selects_cons, stumbles_cons, and_assoc, or_assoc, and_or_left] using hrest

end SymbolFilter

namespace SymbolIndex

def symbolsBy (x : SymbolIndex) (fs : List SymbolFilter) : SymbolQuery :=
  fs.foldl (fun q f ↦ f.apply q) x.symbolQuery

theorem narrowed_symbolsBy (x : SymbolIndex) (fs : List SymbolFilter) :
    (x.symbolsBy fs).Narrowed x (fs.map SymbolFilter.label)
      (SymbolFilter.Selects fs) (SymbolFilter.Stumbles fs) := by
  have hstart : x.symbolQuery.Narrowed x [] (fun _ ↦ True) fun _ ↦ False :=
    ⟨rfl, rfl, fun s ↦ by simp [symbolQuery, SymbolQuery.accepts, passesAll], fun s e ↦ by
      simp [symbolQuery, SymbolQuery.accepts, passesAll]⟩
  have hrun := SymbolFilter.narrowed_foldl hstart fs
  simp only [List.nil_append, true_and, false_or] at hrun
  exact hrun

end SymbolIndex

end GraphContracts
