import TypedPath.Schema.Parts
import TypedPath.Schema.Shape

namespace TypedPath.ExtraPolicy

/-- An extra entry is passed over, is an issue, or stays as it is. Where it is not passed over, its
    key has to be a text. -/
def keep (policy : ExtraPolicy) (reads : Text → Bool) (entry : Value × Value) :
    Outcome (Option (Text × Value)) :=
  match entry.1, policy with
  | _, .ignore => .ok none
  | .text key, policy =>
    if reads key then .ok none
    else match policy with
      | .forbid => Outcome.within (.text key) (.fail .extraForbidden entry.2)
      | _ => .ok (some (key, entry.2))
  | key, _ => Outcome.within key.asStep (.fail .keyNotText key)

def kept (policy : ExtraPolicy) (reads : Text → Bool) (entries : List (Value × Value)) :
    Outcome (List (Text × Value)) :=
  (Outcome.gather (entries.map (policy.keep reads))).map fun found => found.filterMap id

end TypedPath.ExtraPolicy
