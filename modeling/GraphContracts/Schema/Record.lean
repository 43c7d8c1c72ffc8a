import GraphContracts.Schema.Scalar

namespace GraphContracts.Schema

/-- The first spelling that is there, with its value. -/
def spelled? (names : List String) (es : Entries) : Option (String × Datum) :=
  names.findSome? fun n => (es.get? n).map (n, ·)

variable {α : Type}

def required (name : String) (read : Datum → Checked α) (es : Entries) : Checked α :=
  match es.get? name with
  | some d => (read d).within name
  | none => .invalid [⟨[name], .missing, .map es⟩]

def withDefault (names : List String) (default : α) (read : Datum → Checked α) (es : Entries) :
    Checked α :=
  match spelled? names es with
  | some (n, d) => (read d).within n
  | none => .valid default

def optionalField (names : List String) (read : Datum → Checked α) (es : Entries) :
    Checked (Option α) :=
  withDefault names none (nullable read) es

def optionalText (names : List String) (es : Entries) : Checked (Option String) :=
  optionalField names text es

def record (name : String) (read : Entries → Checked α) : Datum → Checked α
  | .map es => read es
  | d => .issue (.record name) d

def refuseExtra (fields : List String) (es : Entries) : Checked Unit :=
  let issues := es.filterMap fun (k, v) =>
    match k with
    | .text n => if fields.contains n then none else some ⟨[n], .extra, v⟩
    | k => some ⟨[k.display], .key, v⟩
  if issues.isEmpty then .valid () else .invalid issues

theorem required_eq_valid {name : String} {read : Datum → Checked α} {es : Entries} {a : α} :
    required name read es = .valid a ↔ ∃ d, es.get? name = some d ∧ read d = .valid a := by
  cases h : es.get? name <;> simp [required, h]

theorem withDefault_eq_valid {names : List String} {default a : α} {read : Datum → Checked α}
    {es : Entries} :
    withDefault names default read es = .valid a ↔
      (spelled? names es = none ∧ a = default) ∨
        ∃ n d, spelled? names es = some (n, d) ∧ read d = .valid a := by
  cases h : spelled? names es with
  | none => simp [withDefault, h, eq_comm]
  | some p =>
    obtain ⟨n, d⟩ := p
    constructor
    · exact fun h' => .inr ⟨n, d, rfl, by simpa [withDefault, h] using h'⟩
    · rintro (⟨h', -⟩ | ⟨m, e, h', hr⟩)
      · simp at h'
      · cases h'
        simpa [withDefault, h] using hr

end GraphContracts.Schema
