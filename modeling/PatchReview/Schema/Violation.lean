/-!
# Violations of a schema

A violation says where in a value an expectation failed. Each expectation has
a code and a sentence.
-/

namespace PatchReview.Schema

inductive Step where
  | field (name : String)
  | index (n : Nat)
  deriving DecidableEq, Repr

inductive Expectation where
  | required
  | text
  | unicodeText
  | integer
  | integerText
  | wholeNumber
  | integerSize
  | finite
  | number
  | numberText
  | boolean
  | booleanText
  | oneOf (options : List String)
  | set
  | list
  | dictionary
  | model (name : String)
  | attributes
  | atLeast (bound : Nat)
  | atMost (bound : Nat)
  | condition (reason : String)
  | decodable
  deriving DecidableEq, Repr

structure Violation where
  place : List Step
  expected : Expectation
  deriving DecidableEq, Repr

def Violation.under (step : Step) (violation : Violation) : Violation :=
  { violation with place := step :: violation.place }

def options : List String → String
  | [] => ""
  | [last] => s!"'{last}'"
  | [first, last] => s!"'{first}' or '{last}'"
  | first :: rest => s!"'{first}', {options rest}"

def Expectation.code : Expectation → String
  | .required => "missing"
  | .text => "string_type"
  | .unicodeText => "string_unicode"
  | .integer => "int_type"
  | .integerText => "int_parsing"
  | .wholeNumber => "int_from_float"
  | .integerSize => "int_parsing_size"
  | .finite => "finite_number"
  | .number => "float_type"
  | .numberText => "float_parsing"
  | .boolean => "bool_type"
  | .booleanText => "bool_parsing"
  | .oneOf _ => "literal_error"
  | .set => "frozen_set_type"
  | .list => "list_type"
  | .dictionary => "dict_type"
  | .model _ => "model_type"
  | .attributes => "model_attributes_type"
  | .atLeast _ => "greater_than_equal"
  | .atMost _ => "less_than_equal"
  | .condition _ => "value_error"
  | .decodable => "json_invalid"

def Expectation.message : Expectation → String
  | .required => "Field required"
  | .text => "Input should be a valid string"
  | .unicodeText => "Input should be a valid string, unable to parse raw data as a unicode string"
  | .integer => "Input should be a valid integer"
  | .integerText => "Input should be a valid integer, unable to parse string as an integer"
  | .wholeNumber => "Input should be a valid integer, got a number with a fractional part"
  | .integerSize => "Unable to parse input string as an integer, exceeded maximum size"
  | .finite => "Input should be a finite number"
  | .number => "Input should be a valid number"
  | .numberText => "Input should be a valid number, unable to parse string as a number"
  | .boolean => "Input should be a valid boolean"
  | .booleanText => "Input should be a valid boolean, unable to interpret input"
  | .oneOf names => s!"Input should be {options names}"
  | .set => "Input should be a valid frozenset"
  | .list => "Input should be a valid list"
  | .dictionary => "Input should be a valid dictionary"
  | .model name => s!"Input should be a valid dictionary or instance of {name}"
  | .attributes => "Input should be a valid dictionary or object to extract fields from"
  | .atLeast bound => s!"Input should be greater than or equal to {bound}"
  | .atMost bound => s!"Input should be less than or equal to {bound}"
  | .condition reason => s!"Value error, {reason}"
  | .decodable => "JSON decode error"

def headline (model : String) (violations : List Violation) : String :=
  let noun := if violations.length = 1 then "error" else "errors"
  s!"{violations.length} validation {noun} for {model}"

end PatchReview.Schema
