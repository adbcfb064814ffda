import TypedPath.Breakdown
import TypedPath.Issue

namespace TypedPath

/-- Whether issues come from a schema or from a check made after it. -/
inductive Origin
  | schema
  | check
deriving DecidableEq, Repr

structure Rejection where
  issues : List Issue
  origin : Origin

inductive FormatFault
  | missing (name pattern : Text)
  | rejected (pattern : Text) (rejection : Rejection)
  | notMapping (validator kind : Text)
  | reported (message : Text) (issues : List Issue)

namespace FormatFault

def message : FormatFault → Text
  | .missing name pattern =>
    "Missing required parameter " ++ Text.quoted name ++ " for pattern " ++ Text.quoted pattern
  | .rejected pattern rejection =>
    "Cannot format " ++ Text.quoted pattern ++ ": " ++ Issue.summary rejection.issues
  | .notMapping validator kind =>
    "Format schema " ++ validator ++ " must produce a mapping, got " ++ kind
  | .reported message _ => message

def issues : FormatFault → List Issue
  | .missing name _ => [⟨.missing, some [.text name], none⟩]
  | .rejected _ rejection => rejection.issues
  | .notMapping _ _ => []
  | .reported _ issues => issues

end FormatFault

inductive Failure
  | params (issues : List Issue)
  | mismatch
  | rejected (rejection : Rejection)
  | format (fault : FormatFault)
  | repeatedNames (names : List Text) (pattern : Text)
  | unsuitable (schema : Value)
  | unusable (shape : Text)
  | broken (breakdown : Breakdown)

namespace Failure

def name? : Failure → Option Text
  | .params _ => some "ParamsError"
  | .mismatch => some "PatternMismatchError"
  | .rejected _ => some "ParamValidationError"
  | .format _ => some "FormatError"
  | .repeatedNames _ _ => some "PatternError"
  | .unsuitable _ | .unusable _ | .broken _ => none

def issues? : Failure → Option (List Issue)
  | .params issues => some issues
  | .mismatch => some [⟨.pathMismatch, some [], none⟩]
  | .rejected rejection => some rejection.issues
  | .format fault => some fault.issues
  | _ => none

def unusableMessage (schema : Text) : Text := "Cannot build a validator from " ++ schema

def unsuitableMessage (schema : Value) : Text :=
  match schema with
  | .none | .record _ =>
    "Expected a Validator, a BaseModel subclass or a type, got " ++ schema.shown
  | _ => unusableMessage schema.shown

def message : Failure → Text
  | .params issues => Issue.summary issues
  | .mismatch => "path doesn't match pattern"
  | .rejected rejection => Issue.summary rejection.issues
  | .format fault => fault.message
  | .repeatedNames names pattern =>
    "Duplicate parameter name(s) " ++ Text.join ", " (names.map Text.quoted) ++
      " in pattern " ++ Text.quoted pattern
  | .unsuitable schema => unsuitableMessage schema
  | .unusable shape => unusableMessage shape
  | .broken breakdown => breakdown.message

def shown (failure : Failure) : Text :=
  let inner := match failure with
    | .params issues | .rejected ⟨issues, _⟩ => Issue.allShown issues
    | .mismatch => Issue.allShown [⟨.pathMismatch, some [], none⟩]
    | _ => Text.quoted failure.message
  failure.name?.getD [] ++ "(" ++ inner ++ ")"

def same : Failure → Failure → Bool
  | .params a, .params b => Issue.sameAll a b
  | .mismatch, .mismatch => true
  | .rejected a, .rejected b => Issue.sameAll a.issues b.issues
  | _, _ => false

def signals : Failure → Failure → Bool
  | .params a, .params b => Issue.signals a b
  | .rejected a, .rejected b => Issue.signals a.issues b.issues
  | _, _ => false

end Failure

end TypedPath
