/-!
# What is wrong with settings

Every issue names the place of a value and what is wrong with it.
-/
namespace StackQuery.Settings

/-- A step towards a value: into a member or an item. -/
inductive Step where
  | member (name : String)
  | item (index : Nat)
  deriving DecidableEq, Repr

inductive Defect where
  | missing
  | extra
  | notInt
  | intText
  /-- A number with a fractional part where a whole one has to stand. -/
  | fractional
  | intSize
  | notFinite
  | notFloat
  | floatText
  | notBool
  | boolText
  | notText
  | textBytes
  | notList
  /-- No record where one of a kind has to stand. -/
  | notRecord (kind : String)
  | notAmong (words : List String)
  | notPath
  | atLeast (bound : Int)
  | atMost (bound : Int)
  | above (bound : Int)
  | refused (reason : String)
  deriving DecidableEq, Repr

def alternatives : List String → String
  | [] => ""
  | [a] => "'" ++ a ++ "'"
  | [a, b] => "'" ++ a ++ "' or '" ++ b ++ "'"
  | a :: rest => "'" ++ a ++ "', " ++ alternatives rest

namespace Defect

def code : Defect → String
  | missing => "missing"
  | extra => "extra_forbidden"
  | notInt => "int_type"
  | intText => "int_parsing"
  | fractional => "int_from_float"
  | intSize => "int_parsing_size"
  | notFinite => "finite_number"
  | notFloat => "float_type"
  | floatText => "float_parsing"
  | notBool => "bool_type"
  | boolText => "bool_parsing"
  | notText => "string_type"
  | textBytes => "string_unicode"
  | notList => "list_type"
  | notRecord _ => "model_type"
  | notAmong _ => "literal_error"
  | notPath => "path_type"
  | atLeast _ => "greater_than_equal"
  | atMost _ => "less_than_equal"
  | above _ => "greater_than"
  | refused _ => "value_error"

def message : Defect → String
  | missing => "Field required"
  | extra => "Extra inputs are not permitted"
  | notInt => "Input should be a valid integer"
  | intText => "Input should be a valid integer, unable to parse string as an integer"
  | fractional => "Input should be a valid integer, got a number with a fractional part"
  | intSize => "Unable to parse input string as an integer, exceeded maximum size"
  | notFinite => "Input should be a finite number"
  | notFloat => "Input should be a valid number"
  | floatText => "Input should be a valid number, unable to parse string as a number"
  | notBool => "Input should be a valid boolean"
  | boolText => "Input should be a valid boolean, unable to interpret input"
  | notText => "Input should be a valid string"
  | textBytes => "Input should be a valid string, unable to parse raw data as a unicode string"
  | notList => "Input should be a valid list"
  | notRecord kind => "Input should be a valid dictionary or instance of " ++ kind
  | notAmong words => "Input should be " ++ alternatives words
  | notPath => "Input is not a valid path for <class 'pathlib.Path'>"
  | atLeast bound => "Input should be greater than or equal to " ++ toString bound
  | atMost bound => "Input should be less than or equal to " ++ toString bound
  | above bound => "Input should be greater than " ++ toString bound
  | refused reason => "Value error, " ++ reason

end Defect

/-- A place and what is wrong there. -/
structure Issue where
  place : List Step
  defect : Defect
  deriving DecidableEq, Repr

end StackQuery.Settings
