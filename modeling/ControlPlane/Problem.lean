import ControlPlane.Value.Basic

/-!
# Problems of a reading

Reading a value into a model finds problems.  A problem has a location, the keys and indexes that
lead from the outermost value to the faulty one, and a kind; a kind has a code and a wording.
-/

namespace ControlPlane

/-- One step of a location. -/
inductive Place where
  | key (name : String)
  | index (i : Int)
  deriving DecidableEq, Repr

/-- What can be wrong with a value. -/
inductive ProblemKind where
  | textExpected
  | textUndecodable
  | textTooShort (least : Nat)
  | integerExpected
  | integerUnreadable
  | integerTooLong
  | integerFractional
  | integerNotFinite
  | notGreaterThan (bound : Int)
  | notAtLeast (bound : Int)
  | notLessThan (bound : Int)
  | boolExpected
  | boolUnreadable
  | noChoice (options : List String)
  | listExpected
  | tupleExpected
  | mapExpected
  | modelExpected (name : String)
  | missing
  | refused (message : String)
  | unknownKey
  | keyNotText
  | frozen
  deriving DecidableEq, Repr

namespace ProblemKind

/-- The code of a kind. -/
def code : ProblemKind → String
  | .textExpected => "string_type"
  | .textUndecodable => "string_unicode"
  | .textTooShort _ => "string_too_short"
  | .integerExpected => "int_type"
  | .integerUnreadable => "int_parsing"
  | .integerTooLong => "int_parsing_size"
  | .integerFractional => "int_from_float"
  | .integerNotFinite => "finite_number"
  | .notGreaterThan _ => "greater_than"
  | .notAtLeast _ => "greater_than_equal"
  | .notLessThan _ => "less_than"
  | .boolExpected => "bool_type"
  | .boolUnreadable => "bool_parsing"
  | .noChoice _ => "enum"
  | .listExpected => "list_type"
  | .tupleExpected => "tuple_type"
  | .mapExpected => "dict_type"
  | .modelExpected _ => "model_type"
  | .missing => "missing"
  | .refused _ => "value_error"
  | .unknownKey => "extra_forbidden"
  | .keyNotText => "invalid_key"
  | .frozen => "frozen_instance"

/-- Texts in a row, `or` before the last one. -/
def alternatives : List String → String
  | [] => ""
  | [a] => a
  | [a, b] => a ++ " or " ++ b
  | a :: rest => a ++ ", " ++ alternatives rest

/-- The wording of a kind. -/
def message : ProblemKind → String
  | .textExpected => "Input should be a valid string"
  | .textUndecodable =>
    "Input should be a valid string, unable to parse raw data as a unicode string"
  | .textTooShort least =>
    "String should have at least " ++ toString least ++
      (if least = 1 then " character" else " characters")
  | .integerExpected => "Input should be a valid integer"
  | .integerUnreadable =>
    "Input should be a valid integer, unable to parse string as an integer"
  | .integerTooLong =>
    "Unable to parse input string as an integer, exceeded maximum size"
  | .integerFractional =>
    "Input should be a valid integer, got a number with a fractional part"
  | .integerNotFinite => "Input should be a finite number"
  | .notGreaterThan bound => "Input should be greater than " ++ toString bound
  | .notAtLeast bound => "Input should be greater than or equal to " ++ toString bound
  | .notLessThan bound => "Input should be less than " ++ toString bound
  | .boolExpected => "Input should be a valid boolean"
  | .boolUnreadable => "Input should be a valid boolean, unable to interpret input"
  | .noChoice options =>
    "Input should be " ++ alternatives (options.map fun o => "'" ++ o ++ "'")
  | .listExpected => "Input should be a valid list"
  | .tupleExpected => "Input should be a valid tuple"
  | .mapExpected => "Input should be a valid dictionary"
  | .modelExpected name => "Input should be a valid dictionary or instance of " ++ name
  | .missing => "Field required"
  | .refused message => "Value error, " ++ message
  | .unknownKey => "Extra inputs are not permitted"
  | .keyNotText => "Keys should be strings"
  | .frozen => "Instance is frozen"

end ProblemKind

/-- Something wrong at a location. -/
structure Problem where
  location : List Place
  kind : ProblemKind
  deriving DecidableEq, Repr

namespace Problem

/-- A problem of the value itself. -/
def here (kind : ProblemKind) : Problem := ⟨[], kind⟩

/-- A problem of a part, seen from the whole. -/
def under (place : Place) (p : Problem) : Problem := { p with location := place :: p.location }

end Problem

end ControlPlane
