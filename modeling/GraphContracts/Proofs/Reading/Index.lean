import GraphContracts.Index.Store
import GraphContracts.Proofs.Reading.Settled

namespace GraphContracts

open Schema

/-- A list, whose items are listed, a text, whose characters are, or a mapping, whose keys are. -/
inductive Datum.IsListing : Datum → Prop
  | list (ds : List Datum) : IsListing (.list ds)
  | text (s : String) : IsListing (.text s)
  | map (es : Entries) : IsListing (.map es)

/-- The members of a file that are walked through, where they are there. -/
structure ListedFile (es : Entries) : Prop where
  symbols : ∀ d, es.get? "symbols" = some d → d.IsListing
  occurrences : ∀ d, es.get? "occurrences" = some d → d.IsListing

structure ListedExport (es : Entries) (files : List Datum) : Prop where
  files : ∀ file, .map file ∈ files → ListedFile file
  outside : ∀ d, (es.get? "externalSymbols").or (es.get? "external_symbols") = some d → d.IsListing

/-- Where the document is an export, its members can be walked through. -/
def Datum.MembersListed (d : Datum) : Prop :=
  ∀ (es : Entries) files, d = .map es → es.get? "documents" = some (.list files) →
    ListedExport es files

theorem Datum.membersListed_iff {es : Entries} {files : List Datum}
    (h : es.get? "documents" = some (.list files)) :
    Datum.MembersListed (.map es) ↔ ListedExport es files := by
  constructor
  · intro hlisted
    exact hlisted es files rfl h
  · rintro hlisted _ files' ⟨⟩ hfiles'
    cases h.symm.trans hfiles'
    exact hlisted

/-- Reading gives a result only where everything is listed, and ends without an announced error
only where something is not; it may be refused in either case. -/
inductive ReadsListed {α : Type} (source : String) (listed : Prop) : Except Fault α → Prop
  | read (a : α) : listed → ReadsListed source listed (.ok a)
  | refused (location reason : String) :
    ReadsListed source listed (.error (.failure (.schemaMismatch source location reason)))
  | notIterable : ¬listed → ReadsListed source listed (.error .notIterable)

namespace ReadsListed

variable {α β : Type} {source : String} {p q : Prop} {x : Except Fault α}

theorem congr (h : ReadsListed source p x) (hpq : p ↔ q) : ReadsListed source q x :=
  propext hpq ▸ h

theorem bind {f : α → Except Fault β} (hx : ReadsListed source p x)
    (hf : ∀ a, ReadsListed source q (f a)) : ReadsListed source (p ∧ q) (x >>= f) := by
  cases hx with
  | read a hp => exact (hf a).congr (by simp [hp])
  | refused location reason => exact .refused location reason
  | notIterable hp => exact .notIterable fun h ↦ hp h.1

theorem mapM {f : α → Except Fault β} {listed : α → Prop} {as : List α}
    (h : ∀ a ∈ as, ReadsListed source (listed a) (f a)) :
    ReadsListed source (∀ a ∈ as, listed a) (as.mapM f) := by
  induction as with
  | nil => exact .read [] (by simp)
  | cons a as ih =>
    rw [List.mapM_cons]
    have hrest := ih fun b hb ↦ h b (List.mem_cons_of_mem a hb)
    have htail := fun b ↦ hrest.bind (q := True) fun bs ↦ .read (b :: bs) trivial
    exact ((h a List.mem_cons_self).bind htail).congr (by simp)

theorem mapM_zipIdx {f : α × Nat → Except Fault β} {listed : α → Prop} {as : List α}
    (h : ∀ a i, ReadsListed source (listed a) (f (a, i))) :
    ReadsListed source (∀ a ∈ as, listed a) (as.zipIdx.mapM f) := by
  have hfst : ReadsListed source (∀ p ∈ as.zipIdx, listed p.1) (as.zipIdx.mapM f) :=
    mapM fun p _ ↦ h p.1 p.2
  rwa [← List.forall_mem_map (f := Prod.fst), List.zipIdx_map_fst] at hfst

end ReadsListed

theorem Relationship.settled_ofEntries (es : Entries) : (Relationship.ofEntries es).Settled := by
  unfold Relationship.ofEntries
  repeat' apply Checked.settled_seq
  all_goals simp

theorem SymbolEntry.settled_ofEntries (es : Entries) : (SymbolEntry.ofEntries es).Settled := by
  have hkind : ∀ d, (readKind d).Settled := fun d ↦ by cases d <;> exact Checked.settled_valid _
  have hdocumentation : ∀ d, (readDocumentation d).Settled := fun d ↦ by
    unfold readDocumentation
    split
    · exact Checked.settled_valid _
    · split
      · exact settled_items settled_text .tuple _
      · exact Checked.settled_valid _
  have hrelationships : ∀ d, (Relationship.ofDatum d).Settled :=
    settled_record Relationship.settled_ofEntries "Relationship"
  unfold SymbolEntry.ofEntries
  repeat' apply Checked.settled_seq
  all_goals simp [hkind, hdocumentation, hrelationships]

namespace SymbolIndex

variable (source : String)

theorem readsListed_readSymbol (name info : Datum) (location : String) :
    ReadsListed source True (readSymbol source name info location) := by
  cases info with
  | map es =>
    rw [readSymbol]
    have h := SymbolEntry.settled_ofEntries (symbolFields name es)
    generalize SymbolEntry.ofEntries (symbolFields name es) = read at h ⊢
    cases h with
    | valid s _ => exact .read s trivial
    | invalid i issues _ => exact .refused _ _
    | aborted h => exact h.elim
  | _ => exact .refused _ _

theorem readsListed_readOccurrence (raw file : Datum) (location : String) :
    ReadsListed source True (readOccurrence source raw file location) := by
  cases raw with
  | map es =>
    rw [readOccurrence]
    cases Occurrence.ofRaw es file with
    | ok o => exact .read o trivial
    | error e => exact .refused _ _
  | _ => exact .refused _ _

theorem readsListed_listed (d : Datum) : ReadsListed source d.IsListing (listed d) := by
  cases d with
  | list ds => exact .read _ (.list ds)
  | text s => exact .read _ (.text s)
  | map es => exact .read _ (.map es)
  | _ => exact .notIterable (by rintro ⟨⟩)

theorem readsListed_readListedSymbols (place : String) (d : Datum) :
    ReadsListed source d.IsListing (readListedSymbols source place d) := by
  refine ((readsListed_listed source d).bind fun infos ↦ ?_).congr (iff_of_eq (and_true _))
  exact (ReadsListed.mapM fun _ _ ↦ readsListed_readSymbol ..).congr (by simp)

theorem readsListed_readListedOccurrences (place : String) (file d : Datum) :
    ReadsListed source d.IsListing (readListedOccurrences source place file d) := by
  refine ((readsListed_listed source d).bind fun raws ↦ ?_).congr (iff_of_eq (and_true _))
  exact (ReadsListed.mapM fun _ _ ↦ readsListed_readOccurrence ..).congr (by simp)

theorem isListing_getD {member : Option Datum} :
    (member.getD (.list [])).IsListing ↔ ∀ d, member = some d → d.IsListing := by
  cases member with
  | none => exact iff_of_true (.list []) (by simp)
  | some d => simp

theorem readsListed_readFileFields (place : String) (es : Entries) :
    ReadsListed source (ListedFile es) (readFileFields source place es) := by
  unfold readFileFields
  refine ((readsListed_readListedSymbols ..).bind fun symbols ↦
    (readsListed_readListedOccurrences ..).bind fun occurrences ↦ .read _ trivial).congr ?_
  rw [isListing_getD, isListing_getD, and_true]
  exact ⟨fun h ↦ ⟨h.1, h.2⟩, fun h ↦ ⟨h.symbols, h.occurrences⟩⟩

theorem readsListed_readFile (i : Nat) (d : Datum) :
    ReadsListed source (∀ es, d = .map es → ListedFile es) (readFile source i d) := by
  cases d with
  | map es => exact (readsListed_readFileFields source _ es).congr (by simp)
  | _ => exact .refused _ _

theorem readsListed_readExport (es : Entries) :
    ReadsListed source (Datum.MembersListed (.map es)) (readExport source es) := by
  unfold readExport
  split
  · rename_i files hfiles
    refine ((ReadsListed.mapM_zipIdx fun file i ↦ readsListed_readFile source i file).bind
      fun read ↦ (readsListed_readListedSymbols ..).bind fun outside ↦ .read _ trivial).congr ?_
    rw [Datum.membersListed_iff hfiles, isListing_getD, and_true]
    constructor
    · rintro ⟨hlisted, houtside⟩
      exact ⟨fun file hfile ↦ hlisted _ hfile file rfl, houtside⟩
    · rintro ⟨hlisted, houtside⟩
      refine ⟨?_, houtside⟩
      rintro _ hfile file rfl
      exact hlisted file hfile
  · exact .refused _ _

theorem readsListed_readFlat (es : Entries) : ReadsListed source True (readFlat source es) := by
  unfold readFlat readKeyedSymbols
  split
  · refine ((ReadsListed.mapM fun _ _ ↦ readsListed_readSymbol ..).bind fun symbols ↦
      (ReadsListed.mapM_zipIdx fun _ _ ↦ readsListed_readOccurrence ..).bind fun occurrences ↦
        .read _ trivial).congr (by simp)
  · exact .refused _ _
  · exact .refused _ _

theorem readsListed_readEither (es : Entries) :
    ReadsListed source (Datum.MembersListed (.map es)) (readEither source es) := by
  unfold readEither
  split
  · exact readsListed_readExport source es
  · rename_i hflat
    have hno : es.get? "documents" = none := by simpa [Entries.has] using hflat
    refine (readsListed_readFlat source es).congr (iff_of_true trivial ?_)
    rintro _ files ⟨⟩ hfiles
    cases hno.symm.trans hfiles

theorem readsListed_decode (roles : RoleSchema) (d : Datum) :
    ReadsListed source d.MembersListed (decode source roles d) := by
  cases d with
  | map es =>
    exact ((readsListed_readEither source es).bind fun read ↦ .read _ trivial).congr
      (iff_of_eq (and_true _))
  | _ => exact .refused _ _

/-- A document whose members can be walked through becomes an index or is refused with an announced
error. Another document is no index: either something that comes before is refused, or the reading
ends without an announced error at the member that lists nothing. -/
theorem decode_cases (roles : RoleSchema) (d : Datum) :
    d.MembersListed ∧ ((∃ x, decode source roles d = .ok x) ∨
        ∃ f, decode source roles d = .error (.failure f) ∧ f.family = .parse ∧
          f.code = .schemaMismatch) ∨
      ¬d.MembersListed ∧ (decode source roles d = .error .notIterable ∨
        ∃ f, decode source roles d = .error (.failure f) ∧ f.family = .parse ∧
          f.code = .schemaMismatch) := by
  have h := readsListed_decode source roles d
  generalize decode source roles d = x at h ⊢
  cases h with
  | read a hlisted => exact .inl ⟨hlisted, .inl ⟨a, rfl⟩⟩
  | refused location reason =>
    by_cases hlisted : d.MembersListed
    · exact .inl ⟨hlisted, .inr ⟨_, rfl, rfl, rfl⟩⟩
    · exact .inr ⟨hlisted, .inr ⟨_, rfl, rfl, rfl⟩⟩
  | notIterable hlisted => exact .inr ⟨hlisted, .inl rfl⟩

theorem decode_nullSymbols :
    let file : Datum := .object [("relativePath", .text "src/Order.php"), ("symbols", .null),
      ("occurrences", .list [])]
    decode "<memory>" .standard (.object [("documents", .list [file])]) = .error .notIterable := by
  rfl

end SymbolIndex

end GraphContracts
