import TypedPath.Schema.Bound
import TypedPath.Schema.Dump
import TypedPath.Schema.Extras
import TypedPath.Schema.Refinement

namespace TypedPath

abbrev Filled := Slot Value × Bool

namespace Field

variable {σ : Type} (field : Field σ)

def slot (dump : Bool → Value → Value) (value : Value) : Slot Value :=
  { name := field.name
    value
    written := Style.write field.style (dump false) value
    writtenSupplied := Style.write field.style (dump true) value
    declared := true }

def finish (input value : Value) : Outcome Value :=
  match field.refinement with
  | some refinement => refinement.apply input value
  | none => .ok value

def readWith (validate : Value → Outcome Value) (dump : Bool → Value → Value)
    (entries : List (Value × Value)) : Outcome Filled :=
  match Value.findText? field.key entries with
  | some input =>
    (Outcome.within (.text field.key) ((validate input).bind (field.finish input))).map
      fun value => (field.slot dump value, true)
  | none => match field.default with
    | some value => .ok (field.slot dump value, false)
    | none => Outcome.within (.text field.key) (.fail .missing (.map entries))

end Field

def Entry.readWith {σ : Type} (entry : Entry σ) (validate : Value → Outcome Value)
    (entries : List (Value × Value)) : Outcome (Option (Value × Value)) :=
  match Value.findText? entry.name entries with
  | some input =>
    ((validate input).within (.text entry.name)).map fun value =>
      some (.text entry.name, value)
  | none =>
    if entry.required then Outcome.within (.text entry.name) (.fail .missing (.map entries))
    else .ok none

def Entry.gathered (read : List (Outcome (Option (Value × Value))))
    (extras : Outcome (List (Text × Value))) : Outcome Value :=
  (Outcome.both (Outcome.gather read) extras).map fun (kept, loose) =>
    .map (kept.filterMap id ++ loose.map fun (key, value) => (.text key, value))

namespace Model

variable {σ : Type} (m : Model σ)

def reads (key : Text) : Bool := m.fields.any fun field => field.key = key

def looseSlot (key : Text) (value : Value) : Slot Value :=
  { name := key
    value
    written := value.dump false
    writtenSupplied := value.dump true
    declared := false }

def extras (entries : List (Value × Value)) : Outcome (List (Slot Value)) :=
  (m.extra.kept m.reads entries).map fun kept =>
    kept.map fun (key, value) => looseSlot key value

def build (filled : List Filled) (extras : List (Slot Value)) : Instance Value :=
  { name := m.name
    marks := m.marks
    supplied := ((filled.filter (·.2)).map (·.1.name) ++ extras.map (·.name)).eraseDups
    slots := filled.map (·.1) ++ extras }

def readWith (fields : List (Value × Value) → List (Outcome Filled)) (value : Value) :
    Outcome (Instance Value) :=
  match value with
  | .record r => if m.holds r then .ok r else .fail (.modelType m.name) value
  | .map entries =>
    (Outcome.both (Outcome.gather (fields entries)) (m.extras entries)).map
      fun (filled, extras) => m.build filled extras
  | _ => .fail (.modelType m.name) value

end Model

namespace Limits

def ofText? (limits : Limits) (text : Text) : Option Problem :=
  (limits.shortest.bind fun least =>
    if text.length < least then some (Problem.textTooShort least) else none).or
  (limits.longest.bind fun most =>
    if most < text.length then some (Problem.textTooLong most) else none)

end Limits

def readText (limits : Limits) (value : Value) : Outcome Value :=
  let (own, rest) := limits.ofCounted
  match Reading.text value with
  | .error problem => .fail problem value
  | .ok text => match own.ofText? text with
    | some problem => .fail problem value
    | none => Outcome.ofLimits rest value (.text text)

def readBounded (limits : Limits) (value : Value) (reading : Except Problem Value) :
    Outcome Value :=
  match reading with
  | .error problem => .fail problem value
  | .ok read => match Bound.broken? limits read with
    | some problem => .fail problem value
    | none => .ok read

def readMoment (limits : Limits) (value : Value) : Outcome Value :=
  (readBounded limits value ((Reading.moment value).map .moment)).bind fun
    | .moment m => Outcome.ofReading Value.moment value (Reading.dated m)
    | read => .ok read

def Shape.isAny : Shape → Bool
  | .any => true
  | _ => false

mutual

def Shape.validateIn : Shape → ExtraPolicy → Limits → Value → Outcome Value
  | .text, _, limits, value => readText limits value
  | .int, _, limits, value =>
    .keeping limits.lengths value (readBounded limits value ((Reading.int value).map .int))
  | .float, _, limits, value =>
    .keeping limits.lengths value (readBounded limits value ((Reading.float value).map .float))
  | .decimal, _, limits, value =>
    .keeping limits.lengths value (readBounded limits value ((Reading.decimal value).map .decimal))
  | .moment, _, limits, value => .keeping limits.lengths value (readMoment limits value)
  | .bool, _, limits, value =>
    .keeping limits.all value (.ofReading .bool value (Reading.bool value))
  | .uuid, _, limits, value =>
    .keeping limits.all value (.ofReading .uuid value (Reading.uuid value))
  | .any, _, limits, value => .ofLimits limits.all value value
  | .literal choices, _, limits, value =>
    .keeping limits.all value (.ofReading id value (Reading.literal choices value))
  | .optional inner, extra, limits, value =>
    if value.isNone then .ok .none else inner.validateIn extra limits value
  | .list item, extra, limits, value => match value.items? with
    | some items =>
      let (own, rest) := limits.ofCounted
      .keeping rest value (readItems (item.validateIn extra .free) item.isAny own value items)
    | none => .fail .listType value
  | .mapping key item, extra, limits, value => match value with
    | .map entries =>
      let (own, rest) := limits.ofCounted
      .keeping rest value
        (readEntries (key.validateIn extra .free) (item.validateIn extra .free) own value entries)
    | _ => .fail .mappingType value
  | .fixedKeys _ entries, extra, limits, value => match value with
    | .map given =>
      .keeping limits.all value
        (Entry.gathered (validateEntries entries extra given)
          (extra.kept (fun key => entries.any fun entry => entry.name = key) given))
    | _ => .fail .mappingType value
  | .model m, _, limits, value =>
    .keeping limits.all value ((m.validate value).map Value.record)
termination_by structural shape => shape

def Model.validate : Model Shape → Value → Outcome (Instance Value)
  | ⟨name, mark, above, extra, fields⟩, value =>
    Model.readWith ⟨name, mark, above, extra, fields⟩ (validateFields fields extra) value
termination_by structural m => m

def validateFields :
    List (Field Shape) → ExtraPolicy → List (Value × Value) → List (Outcome Filled)
  | [], _, _ => []
  | ⟨name, shape, default, inputKey, limits, refinement, style⟩ :: rest, extra, entries =>
    Field.readWith ⟨name, shape, default, inputKey, limits, refinement, style⟩
      (shape.validateIn extra limits) (fun suppliedOnly => shape.dump suppliedOnly extra)
      entries ::
      validateFields rest extra entries
termination_by structural fields => fields

def validateEntries : List (Entry Shape) → ExtraPolicy → List (Value × Value) →
    List (Outcome (Option (Value × Value)))
  | [], _, _ => []
  | ⟨name, shape, required⟩ :: rest, extra, given =>
    Entry.readWith ⟨name, shape, required⟩ (shape.validateIn extra .free) given ::
      validateEntries rest extra given
termination_by structural entries => entries

end

def Shape.validate (shape : Shape) (value : Value) : Outcome Value :=
  shape.validateIn .ignore .free value

end TypedPath
