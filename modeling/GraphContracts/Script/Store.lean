import GraphContracts.Script.Query

namespace GraphContracts.Script

def indexStep (x : SymbolIndex) (name : String) (args : List Arg) : Logged Object :=
  match name with
  | "store" => yield (.indexStore x)
  | "symbols" => yield (.symbols x.symbolQuery)
  | "occurrences" => yield (.occurrences x.occurrenceQuery)
  | "symbol" => ask args fun s => yield (.symbols (x.symbolsNamed s))
  | "occurrence_at" =>
    match args with
    | [a, b] => .bind (.ofExcept (textArg a)) fun file => .bind (.ofExcept (intArg b)) fun line =>
        yield (.occurrences (x.occurrenceAt file line))
    | _ => .ofExcept (.error .keyword)
  | "role_names" => roleNamesStep x args
  | _ => unknownStep

def indexStoreStep (x : SymbolIndex) (name : String) (args : List Arg) : Logged Object :=
  match name with
  | "source" => yield (.text x.source)
  | "roles" => yield (.roles x.roles)
  | "symbols" => yield (.symbolMap x)
  | "occurrences" => yield (.many (x.occurrences.map .occurrence))
  | "file_paths" => yield (.texts x.filePaths)
  | "get_symbol" => ask args fun s => yield (.opt .symbol (x.getSymbol s))
  | "has_symbol" => ask args fun s => yield (.bool (x.hasSymbol s))
  | "occurrences_for" => ask args fun s => yield (.many ((x.occurrencesFor s).map .occurrence))
  | "occurrences_in_file" =>
    ask args fun s => yield (.many ((x.occurrencesInFile s).map .occurrence))
  | _ => unknownStep

def storeStep (g : CallGraph) (name : String) (args : List Arg) : Logged Object :=
  match name with
  | "source" => yield (.text g.source)
  | "version" => yield (.text g.version)
  | "values" => yield (.many (g.values.map .value))
  | "calls" => yield (.many (g.calls.map .call))
  | "value_count" => yield (.nat g.values.length)
  | "call_count" => yield (.nat g.calls.length)
  | "values_by_id" => yield (.valueMap g)
  | "calls_by_id" => yield (.callMap g)
  | "get_value" => ask args fun s => yield (.opt .value (g.getValue s))
  | "get_call" => ask args fun s => yield (.opt .call (g.getCall s))
  | "has_value" => ask args fun s => yield (.bool (g.hasValue s))
  | "has_call" => ask args fun s => yield (.bool (g.hasCall s))
  | "result_of" =>
    match args with
    | [.call c] => yield (.opt .value (g.resultOf c))
    | _ => unknownStep
  | "source_call_of" =>
    match args with
    | [.value v] => yield (.opt .call (g.sourceCallOf v))
    | _ => unknownStep
  | _ => unknownStep

end GraphContracts.Script
