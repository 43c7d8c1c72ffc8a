import GraphContracts.Graph.Node
import GraphContracts.Schema.Record

namespace GraphContracts

open Schema

namespace Location

def ofEntries (es : Entries) : Checked Location :=
  Location.mk <$> required "file" text es <*> required "line" integer es <*>
    withDefault ["col"] 0 integer es

end Location

/-- Gathers the fields of a place that stand beside the other fields of a node. -/
def gatherLocation (es : Entries) : Entries :=
  match es.get? "location", es.get? "file" with
  | none, some file =>
    let place := Datum.object [("file", file), ("line", (es.get? "line").getD (.int 0)),
      ("col", (es.get? "col").getD (.int 0))]
    (((es.erase "file").erase "line").erase "col").set (.text "location") place
  | _, _ => es

/-- Names the group of a node that does not name one. A kind that is a list or a mapping cannot be
looked up. -/
def fillKindType (groups : List (String × String)) (es : Entries) : Checked Entries :=
  if es.has "kind_type" || es.has "kindType" then .valid es
  else
    match es.get? "kind" with
    | some (.text kind) =>
      match groups.lookup kind with
      | some group => .valid (es.set (.text "kind_type") (.text group))
      | none => .valid es
    | some d => if d.isHashable then .valid es else .aborted .unhashable
    | none => .valid es

def node {α : Type} (name : String) (groups : List (String × String))
    (read : Entries → Checked α) : Datum → Checked α :=
  record name fun es => (fillKindType groups (gatherLocation es)).andThen read

namespace Value

def groups : List (String × String) :=
  ValueKind.all.map fun k => (k.name, k.defaultKindType)

def ofEntries (es : Entries) : Checked Value :=
  Value.mk <$> required "id" text es <*> required "kind" (choice .member ValueKind.options) es <*>
    optionalText ["kind_type", "kindType"] es <*> optionalText ["symbol"] es <*>
    optionalText ["type"] es <*> optionalText ["expr"] es <*>
    optionalText ["source_call_id", "sourceCallId"] es <*>
    optionalText ["source_value_id", "sourceValueId"] es <*>
    optionalField ["location"] (record "Location" Location.ofEntries) es <*>
    optionalText ["name", "declared_name"] es

def ofDatum : Datum → Checked Value :=
  node "Value" groups ofEntries

end Value

namespace Argument

def position? (d : Datum) : Checked Int :=
  (integer d).andThen fun n => if n < 0 then .issue (.below 0) d else .valid n

def ofEntries (es : Entries) : Checked Argument :=
  Argument.mk <$> required "position" position? es <*> optionalText ["parameter"] es <*>
    optionalText ["value_id", "valueId"] es <*> optionalText ["value_expr", "valueExpr"] es

def ofDatum : Datum → Checked Argument :=
  record "Argument" ofEntries

end Argument

def firstRepeated? {α : Type} [BEq α] (seen : List α) : List α → Option α
  | [] => none
  | a :: as => if seen.contains a then some a else firstRepeated? (a :: seen) as

theorem firstRepeated?_eq_none {α : Type} [BEq α] [LawfulBEq α] {seen as : List α} :
    firstRepeated? seen as = none ↔ as.Nodup ∧ ∀ a ∈ as, a ∉ seen := by
  induction as generalizing seen with
  | nil => simp [firstRepeated?]
  | cons a as ih =>
    by_cases h : a ∈ seen
    · simp [firstRepeated?, h]
    · simp only [firstRepeated?, List.contains_iff_mem, h, if_false, ih, List.nodup_cons,
        List.mem_cons, not_or, forall_eq_or_imp, not_false_eq_true, true_and]
      constructor
      · rintro ⟨hn, hall⟩
        exact ⟨⟨fun ha => (hall a ha).1 rfl, hn⟩, fun b hb => (hall b hb).2⟩
      · rintro ⟨⟨ha, hn⟩, hall⟩
        exact ⟨hn, fun b hb => ⟨fun e => ha (e ▸ hb), hall b hb⟩⟩

namespace Call

def groups : List (String × String) :=
  CallKind.all.map fun k => (k.name, k.kindType.name)

def ofFields (es : Entries) : Checked Call :=
  Call.mk <$> required "id" text es <*> required "kind" (choice .member CallKind.options) es <*>
    optionalField ["kind_type", "kindType"] (choice .member KindType.options) es <*>
    required "caller" text es <*> optionalText ["callee"] es <*>
    optionalText ["return_type", "returnType"] es <*>
    optionalText ["receiver_value_id", "receiverValueId"] es <*>
    optionalText ["result_value_id", "resultValueId"] es <*>
    optionalField ["location"] (record "Location" Location.ofEntries) es <*>
    withDefault ["arguments"] [] (items .tuple Argument.ofDatum) es

def ofEntries (es : Entries) : Checked Call :=
  (ofFields es).andThen fun c =>
    match firstRepeated? [] c.positions with
    | none => .valid c
    | some p => .issue (.custom s!"duplicate argument position {p}") (.map es)

def ofDatum : Datum → Checked Call :=
  node "Call" groups ofEntries

end Call

structure GraphDocument where
  version : String
  values : List Value
  calls : List Call
  deriving DecidableEq, Repr

namespace GraphDocument

def ofEntries (es : Entries) : Checked GraphDocument :=
  GraphDocument.mk <$> withDefault ["version"] "0.0" text es <*>
    withDefault ["values"] [] (items .tuple Value.ofDatum) es <*>
    withDefault ["calls"] [] (items .tuple Call.ofDatum) es

def ofDatum : Datum → Checked GraphDocument :=
  record "CallGraphDocument" ofEntries

end GraphDocument

end GraphContracts
