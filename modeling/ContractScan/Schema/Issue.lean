/-! # Issues of records

What can be wrong with the data of a record, where it is wrong, and how each
cause is worded.
-/

namespace ContractScan

inductive Step where
  | field (name : String)
  | index (position : Int)
  deriving DecidableEq, Repr

inductive IssueKind where
  | missing
  | notText
  | notReadableText
  | emptyText
  /-- None of the words allowed, which are given as they are listed in the wording. -/
  | notOneOf (words : String)
  | notInteger
  | unreadableInteger
  | integerTooLong
  | fractional
  | notFinite
  | belowOne
  | notTruth
  | unreadableTruth
  | notRecord (name : String)
  | notSequence
  | unknownField
  | keyNotText
  | frozen
  | rejected (reason : String)
  deriving DecidableEq, Repr

structure Issue where
  location : List Step
  kind : IssueKind
  deriving DecidableEq, Repr

namespace IssueKind

def label : IssueKind → String
  | .missing => "missing"
  | .notText => "string_type"
  | .notReadableText => "string_unicode"
  | .emptyText => "string_too_short"
  | .notOneOf _ => "literal_error"
  | .notInteger => "int_type"
  | .unreadableInteger => "int_parsing"
  | .integerTooLong => "int_parsing_size"
  | .fractional => "int_from_float"
  | .notFinite => "finite_number"
  | .belowOne => "greater_than_equal"
  | .notTruth => "bool_type"
  | .unreadableTruth => "bool_parsing"
  | .notRecord _ => "model_type"
  | .notSequence => "tuple_type"
  | .unknownField => "extra_forbidden"
  | .keyNotText => "invalid_key"
  | .frozen => "frozen_instance"
  | .rejected _ => "value_error"

def message : IssueKind → String
  | .missing => "Field required"
  | .notText => "Input should be a valid string"
  | .notReadableText =>
    "Input should be a valid string, unable to parse raw data as a unicode string"
  | .emptyText => "String should have at least 1 character"
  | .notOneOf words => "Input should be " ++ words
  | .notInteger => "Input should be a valid integer"
  | .unreadableInteger => "Input should be a valid integer, unable to parse string as an integer"
  | .integerTooLong => "Unable to parse input string as an integer, exceeded maximum size"
  | .fractional => "Input should be a valid integer, got a number with a fractional part"
  | .notFinite => "Input should be a finite number"
  | .belowOne => "Input should be greater than or equal to 1"
  | .notTruth => "Input should be a valid boolean"
  | .unreadableTruth => "Input should be a valid boolean, unable to interpret input"
  | .notRecord name => "Input should be a valid dictionary or instance of " ++ name
  | .notSequence => "Input should be a valid tuple"
  | .unknownField => "Extra inputs are not permitted"
  | .keyNotText => "Keys should be strings"
  | .frozen => "Instance is frozen"
  | .rejected reason => "Value error, " ++ reason

end IssueKind

end ContractScan
