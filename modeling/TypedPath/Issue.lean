import TypedPath.Value.Equality
import TypedPath.Value.Shown
import TypedPath.Value.Writable

namespace TypedPath

inductive Counted
  | list
  | mapping
  | other
deriving DecidableEq, Repr

def Counted.label : Counted → Text
  | .list => "List"
  | .mapping => "Dictionary"
  | .other => "Value"

inductive Problem
  | missing
  | extraForbidden
  | keyNotText
  | textType
  | textTooShort (least : Nat)
  | textTooLong (most : Nat)
  | intType
  | intParsing
  | intFraction
  | intSize
  | notFinite
  | boolType
  | boolParsing
  | floatType
  | floatParsing
  | decimalType
  | decimalParsing
  | uuidType
  | uuidParsing (fault : Uuid.Fault)
  | momentType
  | momentParsing (fault : Moment.Fault)
  | momentCount (fault : Moment.Fault)
  | literal (choices : List Value)
  | listType
  | mappingType
  | modelType (name : Text)
  | tooShort (counted : Counted) (least found : Nat)
  | tooLong (counted : Counted) (most : Nat) (found : Option Nat)
  | notGreater (bound : Text)
  | notAtLeast (bound : Text)
  | notLess (bound : Text)
  | notAtMost (bound : Text)
  | refused (wording : Text)
  | unmet (wording : Text)
  | notSingle
  | conflict
  | pathMismatch
  | reported (code wording : Option Text)

namespace Problem

def code? : Problem → Option Text
  | .missing => some "missing"
  | .extraForbidden => some "extra_forbidden"
  | .keyNotText => some "invalid_key"
  | .textType => some "string_type"
  | .textTooShort _ => some "string_too_short"
  | .textTooLong _ => some "string_too_long"
  | .intType => some "int_type"
  | .intParsing => some "int_parsing"
  | .intFraction => some "int_from_float"
  | .intSize => some "int_parsing_size"
  | .notFinite => some "finite_number"
  | .boolType => some "bool_type"
  | .boolParsing => some "bool_parsing"
  | .floatType => some "float_type"
  | .floatParsing => some "float_parsing"
  | .decimalType => some "decimal_type"
  | .decimalParsing => some "decimal_parsing"
  | .uuidType => some "uuid_type"
  | .uuidParsing _ => some "uuid_parsing"
  | .momentType => some "datetime_type"
  | .momentParsing _ => some "datetime_from_date_parsing"
  | .momentCount _ => some "datetime_parsing"
  | .literal _ => some "literal_error"
  | .listType => some "list_type"
  | .mappingType => some "dict_type"
  | .modelType _ => some "model_type"
  | .tooShort _ _ _ => some "too_short"
  | .tooLong _ _ _ => some "too_long"
  | .notGreater _ => some "greater_than"
  | .notAtLeast _ => some "greater_than_equal"
  | .notLess _ => some "less_than"
  | .notAtMost _ => some "less_than_equal"
  | .refused _ => some "value_error"
  | .unmet _ => some "assertion_error"
  | .notSingle => some "scalar_type"
  | .conflict => some "intersection_conflict"
  | .pathMismatch => some "pattern_mismatch"
  | .reported code _ => code

def characters (n : Nat) : Text :=
  Text.ofNat n ++ if n = 1 then " character" else " characters"

def items (n : Nat) : Text := Text.ofNat n ++ if n = 1 then " item" else " items"

def countFound : Option Nat → Text
  | some n => Text.ofNat n
  | none => "more"

def alternatives : List Text → Text
  | [] => []
  | [choice] => choice
  | [first, second] => first ++ " or " ++ second
  | choice :: rest => choice ++ ", " ++ alternatives rest

def wording? : Problem → Option Text
  | .missing => some "Field required"
  | .extraForbidden => some "Extra inputs are not permitted"
  | .keyNotText => some "Keys should be strings"
  | .textType => some "Input should be a valid string"
  | .textTooShort least => some ("String should have at least " ++ characters least)
  | .textTooLong most => some ("String should have at most " ++ characters most)
  | .intType => some "Input should be a valid integer"
  | .intParsing => some "Input should be a valid integer, unable to parse string as an integer"
  | .intFraction => some "Input should be a valid integer, got a number with a fractional part"
  | .intSize => some "Unable to parse input string as an integer, exceeded maximum size"
  | .notFinite => some "Input should be a finite number"
  | .boolType => some "Input should be a valid boolean"
  | .boolParsing => some "Input should be a valid boolean, unable to interpret input"
  | .floatType => some "Input should be a valid number"
  | .floatParsing => some "Input should be a valid number, unable to parse string as a number"
  | .decimalType =>
    some "Decimal input should be an integer, float, string or Decimal object"
  | .decimalParsing => some "Input should be a valid decimal"
  | .uuidType => some "UUID input should be a string, bytes or UUID object"
  | .uuidParsing fault => some ("Input should be a valid UUID, " ++ fault.message)
  | .momentType => some "Input should be a valid datetime"
  | .momentParsing fault => some ("Input should be a valid datetime or date, " ++ fault.message)
  | .momentCount fault => some ("Input should be a valid datetime, " ++ fault.message)
  | .literal choices => some ("Input should be " ++ alternatives (choices.map Value.shown))
  | .listType => some "Input should be a valid list"
  | .mappingType => some "Input should be a valid dictionary"
  | .modelType name => some ("Input should be a valid dictionary or instance of " ++ name)
  | .tooShort counted least found => some (counted.label ++ " should have at least " ++
      items least ++ " after validation, not " ++ Text.ofNat found)
  | .tooLong counted most found => some (counted.label ++ " should have at most " ++
      items most ++ " after validation, not " ++ countFound found)
  | .notGreater bound => some ("Input should be greater than " ++ bound)
  | .notAtLeast bound => some ("Input should be greater than or equal to " ++ bound)
  | .notLess bound => some ("Input should be less than " ++ bound)
  | .notAtMost bound => some ("Input should be less than or equal to " ++ bound)
  | .refused wording => some ("Value error, " ++ wording)
  | .unmet wording => some ("Assertion failed, " ++ wording)
  | .notSingle => some "Input should be a single value"
  | .conflict => some "Intersection results could not be merged"
  | .pathMismatch => some "path doesn't match pattern"
  | .reported _ wording => wording

end Problem

structure Issue where
  problem : Problem
  location : Option (List Value)
  input : Option Value

namespace Issue

def entries (issue : Issue) : List (Value × Value) :=
  (issue.problem.code?.map fun code => (Value.text "type", Value.text code)).toList ++
  (issue.location.map fun location => (Value.text "loc", Value.tuple location)).toList ++
  (issue.problem.wording?.map fun wording => (Value.text "msg", Value.text wording)).toList ++
  (issue.input.map fun input => (Value.text "input", input)).toList

def toValue (issue : Issue) : Value := .map issue.entries

def sameAll (left right : List Issue) : Bool :=
  (Value.list (left.map toValue)).same (.list (right.map toValue))

def signals (left right : List Issue) : Bool :=
  (Value.list (left.map toValue)).signals (.list (right.map toValue))

def allShown (issues : List Issue) : Text := (Value.list (issues.map toValue)).shown

def within (step : Value) (issue : Issue) : Issue :=
  { issue with location := some (step :: issue.location.getD []) }

def isWritable (issue : Issue) : Bool := (issue.location.getD []).all Value.isWritable

def line (issue : Issue) : Text :=
  let place := Text.join "." ((issue.location.getD []).map Value.toText)
  let wording := (issue.problem.wording?.or issue.problem.code?).getD "invalid"
  if place = [] then wording else place ++ ": " ++ wording

def summary (issues : List Issue) : Text :=
  let text := Text.join "; " (issues.map line)
  if text = [] then "invalid parameters" else text

end Issue

end TypedPath
