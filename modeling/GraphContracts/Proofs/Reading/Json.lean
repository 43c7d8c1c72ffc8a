import GraphContracts.Proofs.Reading.Settled

namespace GraphContracts

open Schema

def Datum.isText : Datum → Bool
  | .text _ => true
  | _ => false

mutual

/-- The values that a JSON document can hold. The keys of a mapping are texts. -/
def Datum.isJson : Datum → Bool
  | .list ds => areJson ds
  | .map es => haveJson es
  | .null | .bool _ | .int _ | .float _ | .text _ => true
  | .bytes _ | .date _ | .moment _ | .tuple _ | .set _ => false

def areJson : List Datum → Bool
  | [] => true
  | d :: ds => d.isJson && areJson ds

def haveJson : List (Datum × Datum) → Bool
  | [] => true
  | (k, d) :: es => k.isText && d.isJson && haveJson es

end

namespace Datum

variable {d item : Datum} {names : List String}

theorem isText_iff : d.isText ↔ ∃ s, d = .text s := by
  cases d <;> simp [isText]

theorem isJson_list {ds : List Datum} : (Datum.list ds).isJson ↔ ∀ d ∈ ds, d.isJson := by
  rw [isJson]
  induction ds with
  | nil => simp [areJson]
  | cons d ds ih => simp [areJson, ih]

theorem isJson_map {es : Entries} :
    (Datum.map es).isJson ↔ ∀ e ∈ es, e.1.isText ∧ e.2.isJson := by
  rw [isJson]
  induction es with
  | nil => simp [haveJson]
  | cons e es ih => simp [haveJson, ih]

theorem isJson_of_get? {es : Entries} {name : String} (h : (Datum.map es).isJson)
    (hd : es.get? name = some d) : d.isJson :=
  (isJson_map.1 h _ (Entries.mem_of_get? hd)).2

theorem isJson_of_mem_listItems (h : d.isJson) (hitem : item ∈ listItems d) : item.isJson := by
  cases d with
  | list ds => exact isJson_list.1 h item hitem
  | tuple ds => cases h
  | set ds => cases h
  | _ => cases hitem

/-- The value under the first of the names that are there. -/
def member? (names : List String) : Datum → Option Datum
  | .map es => names.findSome? fun name ↦ Entries.get? name es
  | _ => none

theorem member?_single (es : Entries) (name : String) :
    (Datum.map es).member? [name] = es.get? name := by
  cases h : es.get? name <;> simp [member?, h]

theorem member?_pair (es : Entries) (name other : String) :
    (Datum.map es).member? [name, other] = (es.get? name).or (es.get? other) := by
  cases h : es.get? name <;> cases h' : es.get? other <;> simp [member?, h, h']

theorem isJson_getD_member? (h : d.isJson) (names : List String) :
    ((d.member? names).getD (.list [])).isJson := by
  cases d with
  | map es =>
    cases hd : (Datum.map es).member? names with
    | none => rfl
    | some e =>
      obtain ⟨name, -, hname⟩ := List.exists_of_findSome?_eq_some hd
      exact isJson_of_get? h hname
  | _ => rfl

def itemsAt (names : List String) (d : Datum) : List Datum :=
  listItems ((d.member? names).getD (.list []))

theorem isJson_of_mem_itemsAt (h : d.isJson) (hitem : item ∈ d.itemsAt names) : item.isJson :=
  isJson_of_mem_listItems (isJson_getD_member? h names) hitem

end Datum

end GraphContracts
