import GraphContracts.Datum.Literal

namespace GraphContracts.Schema

inductive Cause where
  | missing
  | text
  | textEncoding
  | integer
  | integerText
  | integerSize
  | integerFraction
  | notFinite
  | below (least : Int)
  | boolean
  | booleanText
  | member (options : List String)
  | literal (options : List String)
  | list
  | tuple
  | mapping
  | record (name : String)
  | extra
  | key
  | frozen
  | custom (reason : String)
  deriving DecidableEq, Repr

structure Issue where
  place : List String
  cause : Cause
  input : Datum
  deriving Repr

def listOptions (options : List String) : String :=
  let marked := options.map fun o => "'" ++ o ++ "'"
  match marked.reverse with
  | [] => ""
  | [only] => only
  | last :: others => Text.joinWith ", " others.reverse ++ " or " ++ last

namespace Cause

def code : Cause → String
  | .missing => "missing"
  | .text => "string_type"
  | .textEncoding => "string_unicode"
  | .integer => "int_type"
  | .integerText => "int_parsing"
  | .integerSize => "int_parsing_size"
  | .integerFraction => "int_from_float"
  | .notFinite => "finite_number"
  | .below _ => "greater_than_equal"
  | .boolean => "bool_type"
  | .booleanText => "bool_parsing"
  | .member _ => "enum"
  | .literal _ => "literal_error"
  | .list => "list_type"
  | .tuple => "tuple_type"
  | .mapping => "dict_type"
  | .record _ => "model_type"
  | .extra => "extra_forbidden"
  | .key => "invalid_key"
  | .frozen => "frozen_instance"
  | .custom _ => "value_error"

def message : Cause → String
  | .missing => "Field required"
  | .text => "Input should be a valid string"
  | .textEncoding => "Input should be a valid string, unable to parse raw data as a unicode string"
  | .integer => "Input should be a valid integer"
  | .integerText => "Input should be a valid integer, unable to parse string as an integer"
  | .integerSize => "Unable to parse input string as an integer, exceeded maximum size"
  | .integerFraction => "Input should be a valid integer, got a number with a fractional part"
  | .notFinite => "Input should be a finite number"
  | .below n => s!"Input should be greater than or equal to {n}"
  | .boolean => "Input should be a valid boolean"
  | .booleanText => "Input should be a valid boolean, unable to interpret input"
  | .member options => "Input should be " ++ listOptions options
  | .literal options => "Input should be " ++ listOptions options
  | .list => "Input should be a valid list"
  | .tuple => "Input should be a valid tuple"
  | .mapping => "Input should be a valid dictionary"
  | .record name => s!"Input should be a valid dictionary or instance of {name}"
  | .extra => "Extra inputs are not permitted"
  | .key => "Keys should be strings"
  | .frozen => "Instance is frozen"
  | .custom reason => s!"Value error, {reason}"

end Cause

namespace Issue

def within (step : String) (i : Issue) : Issue :=
  { i with place := step :: i.place }

def location (i : Issue) : String :=
  let joined := Text.joinWith "." i.place
  if joined = "" then "<root>" else joined

def record (i : Issue) : Datum :=
  .object [("loc", .texts i.place), ("type", .text i.cause.code), ("msg", .text i.cause.message)]

def release : String := "2.14"

def helpPage (code : String) : String :=
  Text.joinWith "/" ["https:", "", "errors.pydantic.dev", release, "v", code]

def describe (i : Issue) : String :=
  let input := s!"input_value={i.input.shortLiteral}, input_type={i.input.kindName}"
  Text.joinWith "." i.place ++
    s!"\n  {i.cause.message} [type={i.cause.code}, {input}]" ++
    s!"\n    For further information visit {helpPage i.cause.code}"

end Issue

def describeAll (name : String) (issues : List Issue) : String :=
  let noun := if issues.length = 1 then "error" else "errors"
  Text.joinWith "\n" (s!"{issues.length} validation {noun} for {name}" ::
    issues.map Issue.describe)

end GraphContracts.Schema
