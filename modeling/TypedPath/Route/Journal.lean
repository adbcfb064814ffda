import TypedPath.Route.Basic

namespace TypedPath

inductive Event
  | compiled (pattern : Text) (count : Nat)
  | mismatched (path pattern : Text) (mismatch : Mismatch)
  | rejected (validator : Validator) (value : Value) (issues : List Issue)
  | extended (base extension : Text)

def Event.message : Event → Text
  | .compiled pattern count =>
    "compiled pattern " ++ Text.quoted pattern ++ " into " ++ Text.ofNat count ++ " segments"
  | .mismatched path pattern mismatch =>
    "path " ++ Text.quoted path ++ " doesn't match " ++ Text.quoted pattern ++ ": " ++
      mismatch.reason
  | .rejected validator value issues =>
    validator.shown ++ " rejected " ++ value.shown ++ ": " ++ Issue.summary issues
  | .extended base extension =>
    "extended " ++ Text.quoted base ++ " into " ++ Text.quoted extension

end TypedPath
