import TypedPath.Schema.Limits
import TypedPath.Schema.Style

namespace TypedPath

/-- What a check of a value says against it: that it is refused, that it does not meet a condition,
    or that the check could not be made. -/
inductive Objection
  | refused (wording : Text)
  | unmet (wording : Text)
  | broken (breakdown : Breakdown)

/-- The last step of reading a field, on a value that its shape has accepted. -/
abbrev Refinement := Value → Except Objection Value

inductive ExtraPolicy
  | ignore
  | forbid
  | allow
deriving DecidableEq, Repr

/-- A field without a default is required. The default is taken as it is. -/
structure Field (σ : Type) where
  name : Text
  shape : σ
  default : Option Value
  inputKey : Option Text
  limits : Limits
  refinement : Option Refinement
  style : Option Style

def Field.key {σ : Type} (field : Field σ) : Text := field.inputKey.getD field.name

/-- Values carry the mark of their class and those of the classes above it; a class without a mark
    has no values but the ones it reads itself. -/
structure Model (σ : Type) where
  name : Text
  mark : Option Nat
  above : List Nat
  extra : ExtraPolicy
  fields : List (Field σ)

structure Entry (σ : Type) where
  name : Text
  shape : σ
  required : Bool

inductive Shape
  | text
  | int
  | float
  | bool
  | uuid
  | decimal
  | moment
  | any
  | list (item : Shape)
  | optional (inner : Shape)
  | mapping (key value : Shape)
  | literal (choices : List Value)
  | fixedKeys (name : Text) (entries : List (Entry Shape))
  | model (m : Model Shape)

namespace Shape

def oneOf (choices : List Value) : Shape :=
  .literal (if choices.all Value.isHashable then choices.eraseDupsBy Value.alike else choices)

end Shape

namespace Model

def marks {σ : Type} (m : Model σ) : List Nat := m.mark.toList ++ m.above

def holds {σ : Type} {α : Type} (m : Model σ) (r : Instance α) : Bool :=
  match m.mark with
  | some mark => r.marks.contains mark
  | none => false

end Model

mutual

def Shape.isUsable : Shape → Bool
  | .list item => item.isUsable
  | .optional inner => inner.isUsable
  | .mapping key value => key.isUsable && value.isUsable
  | .literal choices => !choices.isEmpty
  | .fixedKeys _ entries => entriesUsable entries
  | _ => true
termination_by structural shape => shape

def entriesUsable : List (Entry Shape) → Bool
  | [] => true
  | ⟨_, shape, _⟩ :: rest => shape.isUsable && entriesUsable rest
termination_by structural entries => entries

end

def classShown (name : Text) : Text := "<class '" ++ name ++ "'>"

def choicesShown (choices : List Value) : Text :=
  if choices.isEmpty then "()" else Text.join ", " (choices.map Value.shown)

def Shape.inner : Shape → Text
  | .text => "str"
  | .int => "int"
  | .float => "float"
  | .bool => "bool"
  | .uuid => "uuid.UUID"
  | .decimal => "decimal.Decimal"
  | .moment => "datetime.datetime"
  | .any => "typing.Any"
  | .list item => "list[" ++ item.inner ++ "]"
  | .optional shape => "typing.Optional[" ++ shape.inner ++ "]"
  | .mapping key value => "dict[" ++ key.inner ++ ", " ++ value.inner ++ "]"
  | .literal choices => "typing.Literal[" ++ choicesShown choices ++ "]"
  | .fixedKeys name _ => "schemas." ++ name
  | .model m => "schemas." ++ m.name

def Shape.shown : Shape → Text
  | .text => classShown "str"
  | .int => classShown "int"
  | .float => classShown "float"
  | .bool => classShown "bool"
  | .uuid => classShown "uuid.UUID"
  | .decimal => classShown "decimal.Decimal"
  | .moment => classShown "datetime.datetime"
  | .fixedKeys name _ => classShown ("schemas." ++ name)
  | .model m => classShown ("schemas." ++ m.name)
  | shape => shape.inner

def Shape.typeName : Shape → Text
  | .any => "_AnyMeta"
  | .list _ | .mapping _ _ => "types.GenericAlias"
  | .optional _ => "_UnionGenericAlias"
  | .literal _ => "_LiteralGenericAlias"
  | .fixedKeys _ _ => "_TypedDictMeta"
  | .model _ => "ModelMetaclass"
  | _ => "type"

end TypedPath
