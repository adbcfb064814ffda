import TypedPath.Pattern.Basic
import TypedPath.Text.Percent

namespace TypedPath

/-- Names with their texts, each name once, in the order in which they were first bound. -/
abbrev Bindings := List (Text × Text)

def Bindings.bind (name value : Text) : Bindings → Bindings
  | [] => [(name, value)]
  | (other, old) :: rest =>
    if other = name then (other, value) :: rest else (other, old) :: Bindings.bind name value rest

inductive Mismatch
  | trailing (part : Text)
  | undecodable (part : Text)
  | unexpected (literal part : Text)
  | missing (token : Text)
deriving DecidableEq, Repr

def Mismatch.reason : Mismatch → Text
  | .trailing part => "unexpected trailing component " ++ Text.quoted part
  | .undecodable part => "undecodable component " ++ Text.quoted part
  | .unexpected literal part => "expected " ++ Text.quoted literal ++ ", got " ++ Text.quoted part
  | .missing token => "missing required segment " ++ Text.quoted token

/-- Follows the segments along the components, with the bindings made so far. -/
def Segment.follow (exact : Bool) :
    List Segment → List Text → Bindings → Except Mismatch Bindings
  | segments, [], bound =>
    match segments.find? fun segment => !segment.isOptional with
    | some segment => .error (.missing segment.token)
    | none => .ok bound
  | [], part :: _, bound => if exact then .error (.trailing part) else .ok bound
  | segment :: segments, part :: parts, bound =>
    if segment.isParam then
      match Percent.decode? part with
      | some value => follow exact segments parts (bound.bind segment.name value)
      | none => .error (.undecodable part)
    else if part = segment.literal then follow exact segments parts bound
    else if segment.isOptional then follow exact segments (part :: parts) bound
    else .error (.unexpected segment.literal part)

/-- What a path binds. Unless `exact`, components after the last segment are passed over. -/
def Pattern.matchPath (pattern : Pattern) (exact : Bool) (path : Text) :
    Except Mismatch Bindings :=
  Segment.follow exact pattern.segments (path.splitOn Pattern.separator) []

end TypedPath
