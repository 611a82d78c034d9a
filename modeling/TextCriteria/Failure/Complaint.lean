namespace TextCriteria

/-!
# Complaints of models

* `Problem` — what is wrong with a value, with its name and wording.
* `Complaint` — a problem and where it is.
-/

/-- What is wrong with a value that a model refuses. -/
inductive Problem
  | intParsing
  | intParsingSize
  | intType
  | intFromFloat
  | finiteNumber
  | boolParsing
  | boolType
  | stringType
  | stringUnicode
  | valueError (text : String)
  | modelType (model : String)
  | extraForbidden
  | missing
  | unmet (text : String)
  deriving DecidableEq, Repr

/-- The name of a problem. -/
def Problem.label : Problem → String
  | .intParsing => "int_parsing"
  | .intParsingSize => "int_parsing_size"
  | .intType => "int_type"
  | .intFromFloat => "int_from_float"
  | .finiteNumber => "finite_number"
  | .boolParsing => "bool_parsing"
  | .boolType => "bool_type"
  | .stringType => "string_type"
  | .stringUnicode => "string_unicode"
  | .valueError _ => "value_error"
  | .modelType _ => "model_type"
  | .extraForbidden => "extra_forbidden"
  | .missing => "missing"
  | .unmet _ => "value_error.regexcraft"

/-- What is said about a problem. -/
def Problem.message : Problem → String
  | .intParsing => "Input should be a valid integer, unable to parse string as an integer"
  | .intParsingSize => "Unable to parse input string as an integer, exceeded maximum size"
  | .intType => "Input should be a valid integer"
  | .intFromFloat => "Input should be a valid integer, got a number with a fractional part"
  | .finiteNumber => "Input should be a finite number"
  | .boolParsing => "Input should be a valid boolean, unable to interpret input"
  | .boolType => "Input should be a valid boolean"
  | .stringType => "Input should be a valid string"
  | .stringUnicode => "Input should be a valid string, unable to parse raw data as a unicode string"
  | .valueError text => "Value error, " ++ text
  | .modelType model => "Input should be a valid dictionary or instance of " ++ model
  | .extraForbidden => "Extra inputs are not permitted"
  | .missing => "Field required"
  | .unmet text => text

/-- A step on the way to a part of a value. -/
inductive Locus
  | field (name : String)
  | index (i : Nat)
  deriving DecidableEq, Repr

/-- A problem and where it is. -/
structure Complaint where
  problem : Problem
  place : List Locus
  deriving DecidableEq, Repr

end TextCriteria
