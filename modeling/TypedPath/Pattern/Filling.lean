import TypedPath.Pattern.Basic
import TypedPath.Text.Percent
import TypedPath.Value.Shown
import TypedPath.Value.Writable

namespace TypedPath

abbrev Assignment := Text → Option Value

structure MissingParameter where
  name : Text
deriving DecidableEq, Repr

def Value.toComponent (value : Value) : Text := Percent.encode value.toText

namespace Segment

def given? (values : Assignment) (segment : Segment) : Option Value :=
  match values segment.name with
  | some .none | none => none
  | some value => some value

def components (values : Assignment) : List Segment → Except MissingParameter (List Text)
  | [] => .ok []
  | segment :: segments =>
    if segment.isParam then
      match segment.given? values with
      | some value => (components values segments).map (value.toComponent :: ·)
      | none =>
        if segment.isOptional then components values segments
        else .error ⟨segment.name⟩
    else (components values segments).map (segment.literal :: ·)

/-- The component of a partly filled pattern. Only an optional parameter that is given as `none`
    has no component at all. -/
def specialized? (values : Assignment) (segment : Segment) : Option Text :=
  if segment.isParam then
    match values segment.name with
    | none => some segment.token
    | some .none => if segment.isOptional then none else some segment.token
    | some value => some value.toComponent
  else some segment.token

def isWritable (values : Assignment) (segment : Segment) : Bool :=
  !segment.isParam || (segment.given? values).all Value.isWritable

def areWritable (values : Assignment) : List Segment → Bool
  | [] => true
  | segment :: segments =>
    segment.isWritable values &&
      (segment.isParam && (segment.given? values).isNone && !segment.isOptional ||
        areWritable values segments)

end Segment

namespace Pattern

def fill (pattern : Pattern) (values : Assignment) : Except MissingParameter Text :=
  (Segment.components values pattern.segments).map (Text.join [separator])

def specialize (pattern : Pattern) (values : Assignment) : Text :=
  Text.join [separator] (pattern.segments.filterMap (Segment.specialized? values))

def canFill (pattern : Pattern) (values : Assignment) : Bool :=
  Segment.areWritable values pattern.segments

def canSpecialize (pattern : Pattern) (values : Assignment) : Bool :=
  pattern.segments.all (Segment.isWritable values)

end Pattern

end TypedPath
