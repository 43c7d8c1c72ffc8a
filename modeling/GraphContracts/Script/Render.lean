import GraphContracts.Script.Record

namespace GraphContracts.Script

def queryDatum (noun filters : String) (count : Datum) : Datum :=
  .object [("query", .text noun), ("filters", .text filters), ("count", count)]

def gather (fs : List (String × Except Fault Datum)) : Except Fault Datum := do
  let done ← fs.mapM fun (k, r) => r.map fun d => (k, d)
  pure (.object done)

def occurrenceBrief (o : Occurrence) : Datum :=
  .list [.text o.symbol, .text o.file, rangeDatum o, .int o.roles]

def brief (full : Object → Except Fault Datum) : Object → Except Fault Datum
  | .value v => .ok (.text v.id)
  | .call c => .ok (.text c.id)
  | .symbol s => .ok (.text s.name)
  | .occurrence o => .ok (occurrenceBrief o)
  | .step s => .ok (.texts [stepType s, s.describe])
  | .check r => .ok (.list [.text r.check.name, .bool r.enabled, .nat r.count])
  | o => full o

def reportDatum (r : IntegrityReport) : Datum :=
  .object (r.fields ++ [("order", .texts (r.checks.map fun c => c.check.name)),
    ("violated_checks", .texts r.violatedChecks), ("enabled_checks", .texts r.enabledChecks),
    ("issues", .texts r.issues)])

def stepId : ChainStep → Datum
  | .value v => .texts ["value", v.id]
  | .call c => .texts ["call", c.id]

def withType (name : String) (fs : List (String × Object)) : List (String × Object) :=
  ("type", .text name) :: fs

mutual

/-- The answer that shows an object; the first argument bounds how deep records lie in each
other. -/
def render : Nat → Object → Except Fault Datum
  | 0, _ => .ok .null
  | fuel + 1, o =>
    let fields := fun (fs : List (String × Object)) => renderFields fuel (plainFields fs)
    match o with
    | .plain d => .ok d
    | .data d => .ok (.object [("repr", .text d.describe),
        ("has_symbol_index", .bool d.hasSymbolIndex)])
    | .store g => .ok (.object [("repr", .text g.describe), ("source", .text g.source),
        ("version", .text g.version), ("value_count", .nat g.values.length),
        ("call_count", .nat g.calls.length), ("values", .texts (g.values.map Value.id)),
        ("calls", .texts (g.calls.map Call.id)),
        ("values_by_id", .texts (g.valuesById.map Value.id)),
        ("calls_by_id", .texts (g.callsById.map Call.id))])
    | .indexStore x => .ok (.object [("repr", .text x.describe), ("source", .text x.source),
        ("file_paths", .texts x.filePaths),
        ("symbols", .texts (x.symbols.map SymbolEntry.name)),
        ("occurrences", .list (x.occurrences.map occurrenceBrief))])
    | .index _ => .ok (.object [("query", .text "index")])
    | .scope s => .ok (.object [("repr", .text s.describe), ("class_name", .text s.className),
        ("method_name", .text s.methodName), ("scope_pattern", .text s.pattern),
        ("label", .text s.label)])
    | .values q => .ok (queryDatum "value" q.describeFilters (.nat q.count))
    | .calls q => .ok (queryDatum "call" q.describeFilters (.nat q.count))
    | .symbols q => .ok (queryDatum "symbol" q.describeFilters (Fault.recordOf (q.count.map .nat)))
    | .occurrences q => .ok (queryDatum "occurrence" q.describeFilters (.nat q.count))
    | .value v => renderFields fuel (valueFields v)
    | .call c => fields (callFields c)
    | .argument a => fields (argumentFields a)
    | .location l => fields (locationFields l)
    | .symbol s => fields (symbolFields s)
    | .relationship r => fields (relationshipFields r)
    | .occurrence s => fields (occurrenceFields s)
    | .roles s => .ok s.record
    | .dataConfig c _ => .ok c.record
    | .binding a => fields (withType "ArgumentBindingAssertion" (bindingFields a))
    | .chain a => fields (withType "ChainIntegrityAssertion" (chainFields a))
    | .reference a => fields (withType "ReferenceConsistencyAssertion" (referenceFields a))
    | .integrity a => fields (withType "DataIntegrityAssertion" (integrityFields a))
    | .verification r => fields (withType "ReferenceVerification" (verificationFields r))
    | .chainResult c => .ok (.object [("describe", .text c.describe),
        ("steps", .list (c.steps.map stepId)), ("root", .text c.root.id),
        ("final", .text c.final.id), ("calls", .texts (c.callSteps.map Call.id)),
        ("values", .texts (c.valueSteps.map Value.id)), ("step_count", .nat c.stepCount),
        ("final_type", .optional .text c.finalType)])
    | .step s => .ok (.object [("type", .text (stepType s)), ("describe", .text s.describe)])
    | .report r => .ok (reportDatum r)
    | .check r => fields (checkFields r)
    | .finding f => fields (findingFields f)
    | .many os => (os.mapM (brief (render fuel))).map .list
    | .mapping literal _ => .ok (.text literal)
    | .record fs => renderFields fuel (plainFields fs)

def renderFields : Nat → List Field → Except Fault Datum
  | 0, _ => .ok .null
  | fuel + 1, fs => gather (fs.map fun (k, r) => (k, r >>= render fuel))

end

def Object.shown (o : Object) : Except Fault Datum :=
  render 20 o

end GraphContracts.Script
