import GraphContracts.Script.Argument

namespace GraphContracts.Script

def nodeQueryStep {α : Type} [Node α] (wrap : NodeQuery α → Object) (item : α → Object)
    (q : NodeQuery α) (name : String) (args : List Arg) : Option (Logged Object) :=
  match name with
  | "noun" => some (yield (.text (Node.noun α)))
  | "store" => some (yield (.store q.graph))
  | "kind" => some (ask args fun s => yield (wrap (q.kind s)))
  | "kind_type" => some (ask args fun s => yield (wrap (q.kindType s)))
  | "in_file" => some (ask args fun s => yield (wrap (q.inFile s)))
  | "at_line" => some (askInt args fun n => yield (wrap (q.atLine n)))
  | "all" => some (yield (.many (q.all.map item)))
  | "first" => some (yield (.opt item q.first))
  | "count" => some (yield (.nat q.count))
  | "exists" => some (yield (.bool q.isInhabited))
  | "one" => some (liftFailure (q.one.map item))
  | "assert_count" => some (askInt args fun n => liftFailure ((q.assertCount n).map wrap))
  | "assert_exists" => some (liftFailure (q.assertExists.map wrap))
  | "assert_empty" => some (liftFailure (q.assertEmpty.map wrap))
  | "describe_filters" => some (yield (.text q.describeFilters))
  | _ => none

def valueQueryStep (q : ValueQuery) (name : String) (args : List Arg) : Logged Object :=
  match name with
  | "symbol" => ask args fun s => yield (.values (q.symbol s))
  | "symbol_contains" => ask args fun s => yield (.values (q.symbolContains s))
  | "symbol_matches" => ask args fun s => yield (.values (q.symbolMatches s))
  | "named" => ask args fun s => yield (.values (q.named s))
  | "has_source_call_id" => yield (.values q.hasSourceCall)
  | "has_source_value_id" => yield (.values q.hasSourceValue)
  | "with_type" => ask args fun s => yield (.values (q.withType s))
  | _ => (nodeQueryStep .values .value q name args).getD unknownStep

def callQueryStep (q : CallQuery) (name : String) (args : List Arg) : Logged Object :=
  match name with
  | "caller_contains" => ask args fun s => yield (.calls (q.callerContains s))
  | "callee_contains" => ask args fun s => yield (.calls (q.calleeContains s))
  | "symbol_contains" => ask args fun s => yield (.calls (q.calleeContains s))
  | "caller_matches" => ask args fun s => yield (.calls (q.callerMatches s))
  | "callee_matches" => ask args fun s => yield (.calls (q.calleeMatches s))
  | "symbol_matches" => ask args fun s => yield (.calls (q.calleeMatches s))
  | "with_receiver_value_id" => ask args fun s => yield (.calls (q.withReceiver s))
  | "has_receiver" => yield (.calls q.hasReceiver)
  | "caller_in_scope" => ask args fun s => yield (.calls (q.callerInScope s))
  | "in_method" => askTwo args fun c m => yield (.calls (q.inMethod c m))
  | "all_share_receiver" => yield (.bool q.allShareReceiver)
  | "assert_all_share_receiver" => liftFailure (q.assertAllShareReceiver.map .calls)
  | _ => (nodeQueryStep .calls .call q name args).getD unknownStep

def symbolQueryStep (q : SymbolQuery) (name : String) (args : List Arg) : Logged Object :=
  match name with
  | "noun" => yield (.text SymbolQuery.noun)
  | "index" | "store" => yield (.indexStore q.index)
  | "symbol" => ask args fun s => yield (.symbols (q.symbol s))
  | "symbol_contains" => ask args fun s => yield (.symbols (q.symbolContains s))
  | "symbol_matches" => ask args fun s => yield (.symbols (q.symbolMatches s))
  | "of_kind" => ask args fun s => yield (.symbols (q.ofKind s))
  | "is_class" => yield (.symbols q.isClass)
  | "is_method" => yield (.symbols q.isMethod)
  | "is_property" => yield (.symbols q.isProperty)
  | "has_documentation" => yield (.symbols q.hasDocumentation)
  | "has_relationships" => yield (.symbols q.hasRelationships)
  | "has_relationship_kind" => ask args fun s => yield (.symbols (q.hasRelationshipKind s))
  | "names" => lift (q.names.map .texts)
  | "occurrences" => lift (q.occurrences.map .occurrences)
  | "relationships" => lift (q.relationships.map fun rs => .many (rs.map .relationship))
  | "all" => lift (q.all.map fun ss => .many (ss.map .symbol))
  | "first" => lift (q.first.map (.opt .symbol))
  | "count" => lift (q.count.map .nat)
  | "exists" => lift (q.isInhabited.map .bool)
  | "one" => lift (q.one.map .symbol)
  | "assert_count" => askInt args fun n => lift ((q.assertCount n).map .symbols)
  | "assert_exists" => lift (q.assertExists.map .symbols)
  | "assert_empty" => lift (q.assertEmpty.map .symbols)
  | "describe_filters" => yield (.text q.describeFilters)
  | _ => unknownStep

def roleStep (q : OccurrenceQuery) (role : String) : Logged Object :=
  lift ((q.hasRole role).map .occurrences |>.mapError .argument)

def roleNamesStep (x : SymbolIndex) : List Arg → Logged Object
  | [.occurrence o] => yield (.texts (x.roleNames o))
  | _ => .ofExcept (.error .attribute)

def occurrenceQueryStep (q : OccurrenceQuery) (name : String) (args : List Arg) : Logged Object :=
  match name with
  | "noun" => yield (.text OccurrenceQuery.noun)
  | "index" | "store" => yield (.indexStore q.index)
  | "for_symbol" => ask args fun s => yield (.occurrences (q.forSymbol s))
  | "for_symbols" => askTexts args fun ss => yield (.occurrences (q.forSymbols ss))
  | "symbol_contains" => ask args fun s => yield (.occurrences (q.symbolContains s))
  | "symbol_matches" => ask args fun s => yield (.occurrences (q.symbolMatches s))
  | "in_file" => ask args fun s => yield (.occurrences (q.inFile s))
  | "at_line" => askInt args fun n => yield (.occurrences (q.atLine n))
  | "between_lines" =>
    match args with
    | [a, b] => .bind (.ofExcept (intArg a)) fun low => .bind (.ofExcept (intArg b)) fun high =>
        yield (.occurrences (q.betweenLines low high))
    | _ => .ofExcept (.error .keyword)
  | "is_definition" => yield (.occurrences q.isDefinition)
  | "is_reference" => yield (.occurrences q.isReference)
  | "has_role" => ask args (roleStep q)
  | "is_import" => roleStep q "Import"
  | "is_write_access" => roleStep q "WriteAccess"
  | "is_read_access" => roleStep q "ReadAccess"
  | "role_names" => roleNamesStep q.index args
  | "files" => yield (.texts q.files)
  | "all" => yield (.many (q.all.map .occurrence))
  | "first" => yield (.opt .occurrence q.first)
  | "count" => yield (.nat q.count)
  | "exists" => yield (.bool q.isInhabited)
  | "one" => liftFailure (q.one.map .occurrence)
  | "assert_count" => askInt args fun n => liftFailure ((q.assertCount n).map .occurrences)
  | "assert_exists" => liftFailure (q.assertExists.map .occurrences)
  | "assert_empty" => liftFailure (q.assertEmpty.map .occurrences)
  | "describe_filters" => yield (.text q.describeFilters)
  | _ => unknownStep

end GraphContracts.Script
