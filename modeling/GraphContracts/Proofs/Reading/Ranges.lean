import GraphContracts.Index.Store
import GraphContracts.Proofs.Outcome

namespace GraphContracts

/-- The range of an occurrence that stays on its line is written with its line twice, or the
occurrence stays as it is. -/
inductive WidensRange : Datum → Datum → Prop
  | same (raw : Datum) : WidensRange raw raw
  | widened {es : Entries} {line first last : Datum} :
    es.get? "range" = some (.list [line, first, last]) →
    WidensRange (.map es) (.map (es.set (.text "range") (.list [line, first, line, last])))

inductive ReplacesItems (name : String) (replaces : Datum → Datum → Prop) : Datum → Datum → Prop
  | same (d : Datum) : ReplacesItems name replaces d d
  | replaced {es : Entries} {items items' : List Datum} :
    es.get? name = some (.list items) → List.Forall₂ replaces items items' →
    ReplacesItems name replaces (.map es) (.map (es.set (.text name) (.list items')))

/-- Some ranges of a document are widened: those of a flat document, or those in the files of an
export. -/
inductive WidensRanges (d d' : Datum) : Prop
  | flat : ReplacesItems "occurrences" WidensRange d d' → WidensRanges d d'
  | inFiles : ReplacesItems "documents" (ReplacesItems "occurrences" WidensRange) d d' →
    WidensRanges d d'

theorem Occurrence.ofRaw_set_range {es : Entries} {line first last : Datum}
    (h : es.get? "range" = some (.list [line, first, last])) (file : Datum) :
    ofRaw (es.set (.text "range") (.list [line, first, line, last])) file = ofRaw es file := by
  unfold ofRaw
  simp (disch := decide) only [Entries.get?_set_self, Entries.get?_set_of_ne, h, Option.getD_some,
    readRange]

namespace SymbolIndex

variable (source : String)

theorem readOccurrence_of_widensRange {raw raw' : Datum} (h : WidensRange raw raw')
    (file : Datum) (location : String) :
    readOccurrence source raw' file location = readOccurrence source raw file location := by
  cases h with
  | same => rfl
  | widened hrange => simp only [readOccurrence, Occurrence.ofRaw_set_range hrange]

theorem mapM_readOccurrence_of_widensRange {raws raws' : List Datum}
    (h : List.Forall₂ WidensRange raws raws') (file : Datum) (location : Nat → String) :
    raws'.zipIdx.mapM (fun p ↦ readOccurrence source p.1 file (location p.2)) =
      raws.zipIdx.mapM fun p ↦ readOccurrence source p.1 file (location p.2) :=
  mapM_zipIdx_congr (fun _ _ i h ↦ readOccurrence_of_widensRange source h file (location i)) h 0

theorem readListedOccurrences_of_widensRange {raws raws' : List Datum}
    (h : List.Forall₂ WidensRange raws raws') (place : String) (file : Datum) :
    readListedOccurrences source place file (.list raws') =
      readListedOccurrences source place file (.list raws) := by
  have hlist : ∀ ds, readListedOccurrences source place file (.list ds) =
      ds.zipIdx.mapM fun p ↦ readOccurrence source p.1 file s!"{place}.{p.2}" :=
    fun _ ↦ List.mapM_map
  rw [hlist, hlist]
  exact mapM_readOccurrence_of_widensRange source h file fun i ↦ s!"{place}.{i}"

theorem readFile_of_widensRange {d d' : Datum}
    (h : ReplacesItems "occurrences" WidensRange d d') (i : Nat) :
    readFile source i d' = readFile source i d := by
  cases h with
  | same => rfl
  | replaced hraws hwidens =>
    simp (disch := decide) only [readFile, readFileFields, Entries.get?_set_self,
      Entries.get?_set_of_ne, hraws, Option.getD_some,
      readListedOccurrences_of_widensRange source hwidens]

theorem readFlat_of_widensRange {es : Entries} {raws raws' : List Datum}
    (hraws : es.get? "occurrences" = some (.list raws)) (h : List.Forall₂ WidensRange raws raws') :
    readFlat source (es.set (.text "occurrences") (.list raws')) = readFlat source es := by
  have hsymbols : (es.set (.text "occurrences") (.list raws')).get? "symbols" =
    es.get? "symbols" := Entries.get?_set_of_ne (by decide) _ _
  have hread := mapM_readOccurrence_of_widensRange source h .null fun i ↦ s!"occurrences.{i}"
  unfold readFlat
  rw [Entries.get?_set_self, hraws, hsymbols, Option.getD_some, Option.getD_some]
  cases (es.get? "symbols").getD (.map []) with
  | map symbols => simp only [hread]
  | _ => rfl

theorem readExport_of_widensRange {es : Entries} {files files' : List Datum}
    (hfiles : es.get? "documents" = some (.list files))
    (h : List.Forall₂ (ReplacesItems "occurrences" WidensRange) files files') :
    readExport source (es.set (.text "documents") (.list files')) = readExport source es := by
  have hread := mapM_zipIdx_congr (f := fun p ↦ readFile source p.2 p.1)
    (fun _ _ i h ↦ readFile_of_widensRange source h i) h 0
  simp (disch := decide) only [readExport, Entries.get?_set_self, Entries.get?_set_of_ne, hfiles,
    hread]

theorem readEither_of_widensRange {es : Entries} {raws raws' : List Datum}
    (hraws : es.get? "occurrences" = some (.list raws)) (h : List.Forall₂ WidensRange raws raws') :
    readEither source (es.set (.text "occurrences") (.list raws')) = readEither source es := by
  unfold readEither readExport Entries.has
  simp (disch := decide) only [Entries.get?_set_of_ne, readFlat_of_widensRange source hraws h]

theorem readEither_of_filesWidened {es : Entries} {files files' : List Datum}
    (hfiles : es.get? "documents" = some (.list files))
    (h : List.Forall₂ (ReplacesItems "occurrences" WidensRange) files files') :
    readEither source (es.set (.text "documents") (.list files')) = readEither source es := by
  unfold readEither Entries.has
  rw [Entries.get?_set_self, hfiles, readExport_of_widensRange source hfiles h]
  rfl

/-- A document is read as it would be if some of its ranges were widened. -/
theorem decode_of_widensRanges (roles : RoleSchema) {d d' : Datum} (h : WidensRanges d d') :
    decode source roles d' = decode source roles d := by
  obtain ⟨_ | ⟨hraws, hwidens⟩⟩ | ⟨_ | ⟨hfiles, hwidens⟩⟩ := h
  · rfl
  · simp only [decode, readEither_of_widensRange source hraws hwidens]
  · rfl
  · simp only [decode, readEither_of_filesWidened source hfiles hwidens]

end SymbolIndex

end GraphContracts
