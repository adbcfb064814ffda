import TypedPath.Schema.Shape

namespace TypedPath

/-- What keeps a shape from being a member of a set: a choice inside it that is none. Models and
    mappings with fixed keys are members by their declaration, whatever is in it. -/
def Shape.unhashable? : Shape → Option Unhashable
  | .list item => item.unhashable?
  | .optional inner => inner.unhashable?
  | .mapping key value => key.unhashable?.or value.unhashable?
  | .literal choices => Value.firstUnhashable? choices
  | _ => none
termination_by structural shape => shape

def Shape.orNone (shape : Shape) : Except Unhashable Shape :=
  match shape.unhashable?, shape with
  | some reason, _ => .error reason
  | none, .optional inner => .ok (.optional inner)
  | none, shape => .ok (.optional shape)

def Limit.unhashable? : Limit → Option Unhashable
  | .above bound | .least bound | .below bound | .most bound => bound.unhashable?
  | .shortest _ | .longest _ => none

def Field.relaxed (field : Field Shape) : Except Unhashable (Field Shape) := do
  let shape ← field.shape.orNone
  match field.limits.all.findSome? Limit.unhashable? with
  | some reason => .error reason
  | none => return { field with shape, default := some .none, inputKey := none }

/-- Every field may be left out or be none, and is read under its own name. -/
def Model.relaxed (m : Model Shape) : Except Unhashable (Model Shape) := do
  let fields ← m.fields.mapM Field.relaxed
  return { name := "Partial" ++ m.name, mark := none, above := m.marks, extra := m.extra, fields }

end TypedPath
