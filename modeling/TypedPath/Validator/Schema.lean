import TypedPath.Validator.Basic

namespace TypedPath

inductive Schema
  | validator (v : Validator)
  | model (m : Model Shape)
  | shape (s : Shape)
  | value (v : Value)

def sameChoices (left right : List Value) : Except Unhashable Bool :=
  match Value.firstUnhashable? (left ++ right) with
  | some reason => .error reason
  | none => .ok (left.all (fun choice => right.any choice.alike) &&
      right.all fun choice => left.any choice.alike)

/-- Models are the same by their marks. A mapping with fixed keys is declared anew each time. -/
def Shape.same : Shape → Shape → Except Unhashable Bool
  | .text, .text | .int, .int | .float, .float | .bool, .bool | .uuid, .uuid
  | .decimal, .decimal | .moment, .moment | .any, .any => .ok true
  | .list a, .list b => a.same b
  | .optional a, .optional b => a.same b
  | .mapping key value, .mapping key' value' => do
    if ← key.same key' then value.same value' else return false
  | .literal a, .literal b => sameChoices a b
  | .model a, .model b => .ok (a.mark.isSome && a.mark = b.mark)
  | _, _ => .ok false
termination_by structural left => left

namespace Schema

def toValidator : Schema → Except Failure Validator
  | .validator v => .ok v
  | .model m => .ok (.model m false)
  | .shape (.model m) => .ok (.model m false)
  | .shape s => if s.isUsable then .ok (.adapter s) else .error (.unusable s.shown)
  | .value v => .error (if v.isWritable then .unsuitable v else .broken .oversized)

def isValidator : Schema → Bool
  | .validator _ => true
  | _ => false

def shown : Schema → Text
  | .validator v => v.shown
  | .model m => (Shape.model m).shown
  | .shape s => s.shown
  | .value v => v.shown

def typeName : Schema → Text
  | .validator v => v.className
  | .model m => (Shape.model m).typeName
  | .shape s => s.typeName
  | .value v => v.qualifiedTypeName

def asShape? : Schema → Option Shape
  | .model m => some (.model m)
  | .shape s => some s
  | _ => none

def same (left right : Schema) : Except Unhashable Bool :=
  match left, right with
  | .validator .stringify, .validator .stringify => .ok true
  | .value a, .value b => .ok (a.same b)
  | _, _ => match left.asShape?, right.asShape? with
    | some a, some b => a.same b
    | _, _ => .ok false

def signals : Schema → Schema → Bool
  | .value a, .value b => a.signals b
  | _, _ => false

def unhashable? : Schema → Option Unhashable
  | .validator _ | .model _ => none
  | .shape s => s.unhashable?
  | .value v => v.unhashable?

end Schema

end TypedPath
