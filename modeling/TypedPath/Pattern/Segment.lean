import TypedPath.Text.Quoted

namespace TypedPath

inductive SegmentKind
  | static
  | param
  | optionalStatic
  | optionalParam
deriving DecidableEq, Repr

def SegmentKind.label : SegmentKind → Text
  | .static => "static"
  | .param => "param"
  | .optionalStatic => "optional_static"
  | .optionalParam => "optional_param"

/-- A parameter uses `name` and any other segment `literal`; a compiled segment leaves the other
    one empty. -/
structure Segment where
  kind : SegmentKind
  literal : Text
  name : Text
deriving DecidableEq, Repr

namespace Segment

def isParam (segment : Segment) : Bool :=
  match segment.kind with
  | .param | .optionalParam => true
  | .static | .optionalStatic => false

def isOptional (segment : Segment) : Bool :=
  match segment.kind with
  | .optionalStatic | .optionalParam => true
  | .static | .param => false

def token (segment : Segment) : Text :=
  let body := if segment.isParam then ':' :: segment.name else segment.literal
  if segment.isOptional then body ++ ['?'] else body

def ofBody (optional : Bool) : Text → Segment
  | ':' :: name => ⟨if optional then .optionalParam else .param, [], name⟩
  | literal => ⟨if optional then .optionalStatic else .static, literal, []⟩

def ofComponent (component : Text) : Segment :=
  if component.getLast? = some '?' then ofBody true component.dropLast
  else ofBody false component

def shown (segment : Segment) : Text :=
  "Segment(" ++ segment.kind.label.map Char.toUpper ++ ", " ++ Text.quoted segment.token ++ ")"

end Segment

end TypedPath
