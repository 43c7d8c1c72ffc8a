import GraphContracts.Index.Store
import GraphContracts.Proofs.Json.LongInteger
import GraphContracts.Proofs.Text.Utf8

namespace GraphContracts

theorem Logged.result_tell {α : Type} (x : Logged α) (events : α → List Event) :
    (x.tell events).result = x.result := by
  obtain ⟨before, result⟩ := x
  cases result <;> rfl

namespace Json

variable {ds : List Char}

theorem read_of_readValue {e : Fault}
    (h : readValue (2 * (ds.length + 1) + 2) (skipSpace ('1' :: ds)) = .error e) :
    read ('1' :: ds) = .error e := by
  simp only [read, List.length_cons, h]
  rfl

theorem read_of_digits (hds : ∀ d ∈ ds, isAsciiDigit d = true)
    (hlong : integerLimit < ds.length + 1) :
    read ('1' :: ds) = .error ⟨.longInteger (ds.length + 1), ds.length + 1⟩ := by
  have hwhole : wholeDigits ('1' :: ds) = '1' :: ds := by
    have hdigits : ds.takeWhile isAsciiDigit = ds := List.takeWhile_eq_self_iff.2 hds
    have hfirst : wholeDigits ('1' :: ds) = '1' :: ds.takeWhile isAsciiDigit := rfl
    rw [hfirst, hdigits]
  have hrest : ('1' :: ds).drop ('1' :: ds).length = [] := List.drop_length
  have hnumber : readNumber (ds.length + 1) false ('1' :: ds) =
      .error ⟨.longInteger (ds.length + 1), ds.length + 1⟩ := by
    simp only [readNumber, hwhole, hrest]
    exact if_pos hlong
  have hvalue : readValue (2 * (ds.length + 1) + 2) (skipSpace ('1' :: ds)) =
      readNumber (ds.length + 1) false ('1' :: ds) := rfl
  rw [hnumber] at hvalue
  exact read_of_readValue hvalue

end Json

namespace Documents

open Text.Utf8

section

variable {files : FileTree} {path : Path} {what : String} {ds : List Char}

/-- How the reading ends of what stands at a path. -/
inductive Reads (path : Path) (what : String) : FileEntry → Except Fault Datum → Prop
  | missing : Reads path what .absent (.error (.failure (.documentMissing (toString path) what)))
  | directory : Reads path what .directory
    (.error (.failure (.documentUnreadable (toString path) (Unreadable.directory path).reason)))
  | noText (bs : List UInt8) (reason : String) : (∀ s : String, s.toUTF8.data.toList ≠ bs) →
    Reads path what (.octets bs) (.error (.failure (.documentUnreadable (toString path) reason)))
  | document (s : String) (d : Datum) : Json.read (normalizeNewlines s.toList) = .ok d →
    Reads path what (.octets s.toUTF8.data.toList) (.ok d)
  | malformed (s : String) (e : Json.Fault) :
    Json.read (normalizeNewlines s.toList) = .error e → (∀ n, e.cause ≠ .longInteger n) →
    Reads path what (.octets s.toUTF8.data.toList)
      (.error (.failure (.malformedJson (toString path) (e.message (normalizeNewlines s.toList)))))
  | longInteger (s : String) (n place : Nat) :
    Json.read (normalizeNewlines s.toList) = .error ⟨.longInteger n, place⟩ →
    Json.HoldsLong n (normalizeNewlines s.toList) →
    Reads path what (.octets s.toUTF8.data.toList)
      (.error (.argument (Json.Cause.longInteger n).message))

theorem reads_parseJson (s : String) : Reads path what (.octets s.toUTF8.data.toList)
    (parseJson path (String.ofList (normalizeNewlines s.toList))) := by
  simp only [parseJson, String.toList_ofList]
  cases hread : Json.read (normalizeNewlines s.toList) with
  | ok d => exact .document s d hread
  | error e =>
    obtain ⟨cause, place⟩ := e
    cases cause with
    | longInteger n => exact .longInteger s n place hread (Json.holdsLong_of_read hread rfl)
    | _ => exact .malformed s _ hread nofun

theorem reads_readJson (files : FileTree) (path : Path) (what : String) :
    Reads path what (files.entry path) (readJson files path what) := by
  cases hentry : files.entry path with
  | absent =>
    simp only [readJson, readText, hentry]
    exact .missing
  | directory =>
    simp only [readJson, readText, hentry]
    exact .directory
  | octets bs =>
    cases htext : Text.Utf8.readText bs with
    | error fault =>
      simp only [readJson, readText, hentry, htext]
      refine .noText bs _ fun s hs ↦ ?_
      have hread := readText_eq_ok_iff.2 ⟨s, hs, rfl⟩
      rw [htext] at hread
      cases hread
    | ok text =>
      obtain ⟨s, rfl, rfl⟩ := readText_eq_ok_iff.1 htext
      simp only [readJson, readText, hentry, htext]
      exact reads_parseJson s

theorem readJson_of_digits (what : String) (hds : ∀ d ∈ ds, Json.isAsciiDigit d = true)
    (hlong : Json.integerLimit < ds.length + 1)
    (hentry : files.entry path = .octets (String.ofList ('1' :: ds)).toUTF8.data.toList) :
    readJson files path what =
      .error (.argument (Json.Cause.longInteger (ds.length + 1)).message) := by
  have hdigits : ∀ c ∈ (String.ofList ('1' :: ds)).toList, Json.isAsciiDigit c = true := by
    rw [String.toList_ofList]
    exact List.forall_mem_cons.2 ⟨rfl, hds⟩
  have htext := readText_toUTF8 fun h ↦ absurd (hdigits '\r' h) (by decide)
  simp only [readJson, readText, hentry, htext, parseJson, String.toList_ofList,
    Json.read_of_digits hds hlong]

/-- Loading a call graph or an index fails where the reading of its document does, and in the same
way. -/
theorem load_reads (files : FileTree) (path : Path) (what : String) (roles : RoleSchema) :
    Reads path what (files.entry path) (readJson files path what) ∧
    (CallGraph.load files path).result =
      (readJson files path "calls.json" >>= CallGraph.decode (toString path)) ∧
    (SymbolIndex.load files roles path).result =
      (readJson files path "symbol index" >>= SymbolIndex.decode (toString path) roles) := by
  refine ⟨reads_readJson files path what, ?_, Logged.result_tell _ _⟩
  cases h : readJson files path "calls.json" with
  | error e =>
    simp only [CallGraph.load, h]
    rfl
  | ok d =>
    have hread : (CallGraph.ofDatum (toString path) d).result =
        CallGraph.decode (toString path) d := Logged.result_tell _ _
    have hload : (CallGraph.load files path).result = ((CallGraph.ofDatum (toString path) d).tell
        fun g => [CallGraph.loadedEvent path g]).result := by
      simp only [CallGraph.load, h]
      rfl
    rw [hload, Logged.result_tell, hread]
    rfl

end

namespace LongLiteral

def path : Path :=
  .ofString "calls.json"

def files : FileTree :=
  ⟨.ofString "/work", [(["work", "calls.json"],
    .octets (String.ofList ('1' :: List.replicate 4300 '1')).toUTF8.data.toList)]⟩

theorem readJson_of_ones : readJson files path "calls.json" =
    .error (.argument (Json.Cause.longInteger 4301).message) := by
  have hdigits : ∀ d ∈ List.replicate 4300 '1', Json.isAsciiDigit d = true := by
    intro d hd
    rw [List.eq_of_mem_replicate hd]
    rfl
  have hlength : (List.replicate 4300 '1').length = 4300 := List.length_replicate
  have hentry : files.entry path =
      .octets (String.ofList ('1' :: List.replicate 4300 '1')).toUTF8.data.toList := rfl
  have h := readJson_of_digits "calls.json" hdigits (by rw [hlength]; decide) hentry
  rwa [hlength] at h

end LongLiteral

end Documents

end GraphContracts
