import GraphContracts.Datum.Calendar
import GraphContracts.Number.Shortest

namespace GraphContracts

/-- A value of a document. JSON yields the cases from `null` to `text`, `list` and `map` with text
keys; YAML yields all of them. -/
inductive Datum where
  | null
  | bool (b : Bool)
  | int (n : Int)
  | float (x : Binary64)
  | text (s : String)
  | bytes (bs : List UInt8)
  | date (d : Date)
  | moment (m : Moment)
  | list (items : List Datum)
  | tuple (items : List Datum)
  | set (items : List Datum)
  | map (entries : List (Datum × Datum))
  deriving Repr, Inhabited

namespace Datum

def object (fields : List (String × Datum)) : Datum :=
  .map (fields.map fun (k, v) => (.text k, v))

def texts (ss : List String) : Datum :=
  .list (ss.map .text)

def optional {α : Type} (f : α → Datum) : Option α → Datum
  | none => .null
  | some a => f a

def nat (n : Nat) : Datum :=
  .int n

def asInt? : Datum → Option Int
  | .bool b => some (if b then 1 else 0)
  | .int n => some n
  | .float x => x.toInt?
  | _ => none

/-- Whether two keys name the same entry of a mapping: numbers compare by value, whatever their
kind. Lists and mappings are no keys. -/
def sameKey : Datum → Datum → Bool
  | .null, .null => true
  | .text a, .text b => a = b
  | .bytes a, .bytes b => a = b
  | .date a, .date b => a = b
  | .moment a, .moment b => a.same b
  | .float a, .float b => a ≠ .nan && (a = b || (a.toInt?.isSome && a.toInt? = b.toInt?))
  | a, b => a.asInt?.isSome && a.asInt? = b.asInt?

theorem sameKey_text {k : Datum} (h : ∀ s, k ≠ .text s) (name : String) :
    k.sameKey (.text name) = false := by
  cases k with
  | text s => exact absurd rfl (h s)
  | float x => cases hx : x.toInt? <;> simp [sameKey, asInt?, hx]
  | _ => simp [sameKey, asInt?]

/-- Whether a value counts as present: nothing, zero and the empty text, list or mapping do
not. -/
def isTruthy : Datum → Bool
  | .null => false
  | .bool b => b
  | .int n => n ≠ 0
  | .float (.finite _ m _) => m ≠ 0
  | .float _ => true
  | .text s => s ≠ ""
  | .bytes bs => !bs.isEmpty
  | .date _ => true
  | .moment _ => true
  | .list items => !items.isEmpty
  | .tuple items => !items.isEmpty
  | .set items => !items.isEmpty
  | .map entries => !entries.isEmpty

def isHashable : Datum → Bool
  | .list _ => false
  | .set _ => false
  | .map _ => false
  | _ => true

end Datum

abbrev Entries := List (Datum × Datum)

namespace Entries

def get? (name : String) : Entries → Option Datum
  | [] => none
  | (.text k, v) :: es => if k = name then some v else get? name es
  | _ :: es => get? name es

def has (name : String) (es : Entries) : Bool :=
  (get? name es).isSome

def set (key value : Datum) : Entries → Entries
  | [] => [(key, value)]
  | (k, v) :: es => if k.sameKey key then (k, value) :: es else (k, v) :: set key value es

def erase (name : String) (es : Entries) : Entries :=
  es.filter fun (k, _) => !k.sameKey (.text name)

/-- Entries in the order in which their keys came first, each with its last value. -/
def ofPairs (pairs : List (Datum × Datum)) : Entries :=
  pairs.foldl (fun es (k, v) => es.set k v) []

theorem ofPairs_concat (pairs : List (Datum × Datum)) (k v : Datum) :
    ofPairs (pairs ++ [(k, v)]) = set k v (ofPairs pairs) := by
  rw [ofPairs, List.foldl_append]
  rfl

@[simp]
theorem get?_nil (name : String) : get? name [] = none := rfl

theorem mem_of_get? {name : String} {v : Datum} {es : Entries} (h : es.get? name = some v) :
    (.text name, v) ∈ es := by
  induction es with
  | nil => cases h
  | cons e es ih =>
    obtain ⟨k, w⟩ := e
    cases k with
    | text k =>
      by_cases hk : k = name
      · simp only [get?, hk, if_true, Option.some.injEq] at h
        simp [hk, h]
      · exact List.mem_cons_of_mem _ (ih (by simpa [get?, hk] using h))
    | _ => exact List.mem_cons_of_mem _ (ih h)

theorem get?_set_self (name : String) (v : Datum) (es : Entries) :
    (es.set (.text name) v).get? name = some v := by
  induction es with
  | nil => simp [set, get?]
  | cons e es ih =>
    obtain ⟨k, w⟩ := e
    cases k with
    | text k =>
      by_cases h : k = name <;> simp [set, get?, Datum.sameKey, h, ih]
    | _ => simp [set, get?, Datum.sameKey_text, ih]

theorem get?_set_of_ne {name other : String} (h : other ≠ name) (v : Datum) (es : Entries) :
    (es.set (.text name) v).get? other = es.get? other := by
  induction es with
  | nil => simp [set, get?, Ne.symm h]
  | cons e es ih =>
    obtain ⟨k, w⟩ := e
    cases k with
    | text k =>
      by_cases hk : k = name
      · subst hk
        simp [set, get?, Datum.sameKey, Ne.symm h]
      · simp [set, get?, Datum.sameKey, hk, ih]
    | _ => simp [set, get?, Datum.sameKey_text, ih]

theorem get?_append (name : String) (es fs : Entries) :
    get? name (es ++ fs) = (get? name es).or (get? name fs) := by
  induction es with
  | nil => rfl
  | cons e es ih =>
    obtain ⟨k, v⟩ := e
    cases k with
    | text k =>
      by_cases hk : k = name
      · simp [get?, hk]
      · simpa [get?, hk] using ih
    | _ => exact ih

theorem get?_texts (name : String) (fields : List (String × Datum)) :
    get? name (fields.map fun field => (.text field.1, field.2)) = fields.lookup name := by
  induction fields with
  | nil => rfl
  | cons field fields ih =>
    obtain ⟨n, d⟩ := field
    rw [List.map_cons, get?, ih, List.lookup_cons]
    by_cases hname : n = name
    · simp [hname]
    · simp [hname, beq_eq_false_iff_ne.2 (Ne.symm hname)]

theorem erase_cons (name : String) (k v : Datum) (es : Entries) :
    Entries.erase name ((k, v) :: es) =
      if k.sameKey (.text name) then es.erase name else (k, v) :: es.erase name := by
  cases h : k.sameKey (.text name) <;> simp [erase, h]

theorem get?_erase_of_ne {name other : String} (h : other ≠ name) (es : Entries) :
    (es.erase name).get? other = es.get? other := by
  induction es with
  | nil => rfl
  | cons e es ih =>
    obtain ⟨k, w⟩ := e
    rw [erase_cons]
    cases k with
    | text k =>
      by_cases hk : k = name
      · simp [Datum.sameKey, get?, hk, Ne.symm h, ih]
      · simp [Datum.sameKey, get?, hk, ih]
    | _ => simp [Datum.sameKey_text, get?, ih]

end Entries

end GraphContracts
