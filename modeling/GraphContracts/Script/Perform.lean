import GraphContracts.Contract.Literal
import GraphContracts.Script.Contract
import GraphContracts.Script.Render
import GraphContracts.Script.Store

namespace GraphContracts.Script

def literal? : Object → Option String
  | .data d => some d.describe
  | .store g => some g.describe
  | .indexStore x => some x.describe
  | .scope s => some s.describe
  | .value v => some (Literal.value v)
  | .call c => some (Literal.call c)
  | .argument a => some (Literal.argument a)
  | .location l => some (Literal.location l)
  | .symbol s => some (Literal.symbol s)
  | .relationship r => some (Literal.relationship r)
  | .occurrence o => some (Literal.occurrence o)
  | .values q => some (Literal.valueQuery q)
  | .calls q => some (Literal.callQuery q)
  | .symbols q => some (Literal.symbolQuery q)
  | .occurrences q => some (Literal.occurrenceQuery q)
  | .reference a => some (Literal.reference a)
  | .chain a => some (Literal.chain a)
  | .binding a => some (Literal.binding a)
  | .integrity a => some (Literal.integrity a)
  | .verification r => some (Literal.verification r)
  | .chainResult c => some (Literal.chainResult c)
  | .step s => some (Literal.chainStep s)
  | .report r => some (Literal.report r)
  | .check r => some (Literal.check r)
  | .finding f => some (Literal.finding f)
  | .roles s => some (Literal.roles s)
  | .dataConfig c _ => some (Literal.dataConfig c)
  | .mapping literal _ => some literal
  | .plain d => some d.literal
  | _ => none

def itemAt (items : List Object) (n : Int) : Except Fault Object :=
  let i := if n < 0 then n + items.length else n
  if i < 0 then .error .noWords
  else
    match items[i.toNat]? with
    | some o => .ok o
    | none => .error .noWords

def getItem (target : Object) (args : List Arg) : Logged Object :=
  match target with
  | .many items => askInt args fun n => lift (itemAt items n)
  | .plain (.list items) => askInt args fun n => lift (itemAt (items.map .plain) n)
  | .plain (.map es) => ask args fun s =>
      match Entries.get? s es with
      | some d => yield (.plain d)
      | none => .ofExcept (.error (.missingKey s))
  | .mapping _ entries => ask args fun s =>
      match entries.lookup s with
      | some o => yield o
      | none => .ofExcept (.error (.missingKey s))
  | .report r => ask args fun s => lift ((reportEntry r s).map .check)
  | _ => .ofExcept (.error .keyword)

def containsItem (target : Object) (args : List Arg) : Logged Object :=
  match target, args with
  | .mapping _ entries, _ => ask args fun s => yield (.bool (entries.lookup s).isSome)
  | .plain (.map es), _ => ask args fun s => yield (.bool (Entries.has s es))
  | .plain (.list ds), [a] => yield (.bool (ds.any fun d => (Object.plain d).equals a))
  | .many items, [a] => yield (.bool (items.any fun o => o.equals a))
  | .plain (.text t), _ => ask args fun s => yield (.bool (Text.contains s t))
  | _, _ => .ofExcept (.error .keyword)

/-- Fields are never assigned to. A node says so by an issue with the name of the field. -/
def assign (target : Object) (args : List Arg) : Logged Object :=
  match args with
  | a :: _ =>
    (Logged.ofExcept (textArg a)).bind fun s => .ofExcept <| .error <|
      if target.isFrozenRecord then .frozen else .invalid [⟨[s], .frozen, .null⟩]
  | [] => .ofExcept (.error .keyword)

def performNamed (target : Object) (name : String) (args : List Arg) : Logged Object :=
  match target with
  | .data d => dataStep d name args
  | .store g => storeStep g name args
  | .indexStore x => indexStoreStep x name args
  | .index x => indexStep x name args
  | .scope s => scopeStep s name args
  | .values q => valueQueryStep q name args
  | .calls q => callQueryStep q name args
  | .symbols q => symbolQueryStep q name args
  | .occurrences q => occurrenceQueryStep q name args
  | .value v => fromFields (valueFields v) name
  | .call c =>
    if name = "argument_at" then askInt args fun n => yield (.opt .argument (c.argumentAt n))
    else fromFields (plainFields (callFields c)) name
  | .argument a => fromFields (plainFields (argumentFields a)) name
  | .location l => fromFields (plainFields (locationFields l)) name
  | .symbol s => fromFields (plainFields (symbolFields s)) name
  | .relationship r =>
    if name = "has_kind" then ask args fun s => yield (.bool (r.hasKind s))
    else fromFields (plainFields (relationshipFields r)) name
  | .occurrence o =>
    match name, args with
    | "role_names", [.roles s] => yield (.texts (s.names o.roles))
    | _, _ => fromFields (plainFields (occurrenceFields o)) name
  | .roles s => rolesStep s name args
  | .dataConfig c home => dataConfigStep c home name args
  | .binding a => bindingStep a name args
  | .chain a => chainStep a name args
  | .reference a => referenceStep a name args
  | .integrity a => integrityStep a name args
  | .verification r => fromFields (plainFields (verificationFields r)) name
  | .chainResult c => chainResultStep c name args
  | .step s =>
    match name with
    | "node" => yield (nodeOf s)
    | "type" => yield (.text (stepType s))
    | "describe" => yield (.text s.describe)
    | _ => unknownStep
  | .report r => reportStep r name args
  | .check r =>
    if name = "to_dict" then yield (.plain r.record)
    else fromFields (plainFields (checkFields r)) name
  | .finding f =>
    match name with
    | "to_dict" => yield (.plain f.record)
    | "missing_id" => yield (.optText f.missingId)
    | _ => fromFields (plainFields (findingFields f)) name
  | .record fs => fromFields (plainFields fs) name
  | _ => unknownStep

/-- Entries are never assigned to; the field that would hold them has to be there. -/
def assignEntry (target : Object) (args : List Arg) : Logged Object :=
  match args with
  | a :: _ =>
    (Logged.ofExcept (textArg a)).bind fun s =>
      match (performNamed target s []).result with
      | .error .attribute => unknownStep
      | _ => .ofExcept (.error .keyword)
  | [] => .ofExcept (.error .keyword)

def perform (target : Object) (name : String) (args : List Arg) : Logged Object :=
  match name with
  | "repr" => yield (.text ((literal? target).getD ""))
  | "getitem" => getItem target args
  | "contains" => containsItem target args
  | "set" => assign target args
  | "put" => assignEntry target args
  | _ => performNamed target name args

end GraphContracts.Script
