import TypedPath.Schema.Outcome
import TypedPath.Schema.Shape
import TypedPath.Text.LowerCase

namespace TypedPath

def Objection.setback (input : Value) : Objection → Setback
  | .refused wording => .issues [⟨.refused wording, some [], some input⟩]
  | .unmet wording => .issues [⟨.unmet wording, some [], some input⟩]
  | .broken breakdown => .breakdown breakdown

namespace Refinement

def apply (refinement : Refinement) (input value : Value) : Outcome Value :=
  (refinement value).mapError (Objection.setback input)

def lowered : Refinement
  | .none => .ok .none
  | .text t => .ok (.text (Text.lower t))
  | .record r => match r.slots.find? fun slot => slot.name = "lower".toList with
    | some slot => .error (.broken (.notCallable slot.value.qualifiedTypeName))
    | none => .error (.broken (.noLowerCase r.name))
  | value => .error (.broken (.noLowerCase value.qualifiedTypeName))

def refusing (word wording : Text) : Refinement
  | .text t => if t = word then .error (.refused wording) else .ok (.text t)
  | value => .ok value

end Refinement

end TypedPath
