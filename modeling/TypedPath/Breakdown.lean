import TypedPath.Value.Member
import TypedPath.Value.Shown
import TypedPath.Value.Writable

namespace TypedPath

/-- Steps of a validation that cannot be taken with the value they meet. A breakdown is no issue of the
    value, and it ends the whole validation at once. `oversized` is an integer that is to be written,
    `signalling` a number that is to be compared. Two sides are `unpaired` when one of them rejects the
    value and there is no issue to tell of it; so many results are there then. `raised` is what a
    validator from outside gives as its reason. -/
inductive Breakdown
  | limit (name : Text) (value : Value)
  | noLowerCase (kind : Text)
  | notCallable (kind : Text)
  | unhashable (reason : Unhashable)
  | oversized
  | signalling
  | unpaired (results : Nat)
  | raised (reason : Text)

def Breakdown.message : Breakdown → Text
  | .limit name value =>
    "Unable to apply constraint " ++ Text.quoted name ++ " to supplied value " ++ value.toText
  | .noLowerCase kind => "'" ++ kind ++ "' object has no attribute 'lower'"
  | .notCallable kind => "'" ++ kind ++ "' object is not callable"
  | .unhashable reason => reason.message
  | .oversized => "Exceeds the limit (" ++ Text.ofNat WholeNumber.greatestLength ++
      " digits) for integer string conversion; " ++
      "use sys.set_int_max_str_digits() to increase the limit"
  | .signalling => "[<class 'decimal.InvalidOperation'>]"
  | .unpaired results =>
    "not enough values to unpack (expected 2, got " ++ Text.ofNat results ++ ")"
  | .raised reason => reason

end TypedPath
