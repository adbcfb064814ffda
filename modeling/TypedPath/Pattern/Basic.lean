import TypedPath.Pattern.Segment
import TypedPath.Text.Order

namespace TypedPath

structure Pattern where
  text : Text
  segments : List Segment
deriving DecidableEq, Repr

namespace Pattern

def separator : Char := '/'

def compile (text : Text) : Pattern :=
  ⟨text, (text.splitOn separator).map Segment.ofComponent⟩

def names (pattern : Pattern) : List Text :=
  (pattern.segments.filter Segment.isParam).map Segment.name

def append (left right : Pattern) : Pattern :=
  ⟨left.text ++ separator :: right.text, left.segments ++ right.segments⟩

instance : Append Pattern := ⟨append⟩

@[simp] theorem append_text (left right : Pattern) :
    (left ++ right).text = left.text ++ separator :: right.text := rfl

@[simp] theorem append_segments (left right : Pattern) :
    (left ++ right).segments = left.segments ++ right.segments := rfl

@[simp] theorem append_names (left right : Pattern) :
    (left ++ right).names = left.names ++ right.names := by
  simp [names]

def same (left right : Pattern) : Bool := left.segments = right.segments

def shown (pattern : Pattern) : Text :=
  "CompiledPattern(" ++ Text.quoted pattern.text ++ ")"

def repeatedNames (pattern : Pattern) : List Text :=
  let names := pattern.names
  Sorting.sorted Text.precedes (names.eraseDups.filter fun name => 1 < names.count name)

end Pattern

end TypedPath
