import TypedPath.Schema.Shape
import TypedPath.Value.Dump

namespace TypedPath

def Style.write (style : Option Style) (dump : Value → Value) (value : Value) : Value :=
  match style with
  | some style => style value
  | none => dump value

def dumpKnown (suppliedOnly : Bool) (extra : ExtraPolicy) (write : Text → Value → Option Value)
    (entry : Value × Value) : Option (Value × Value) :=
  match entry.1 with
  | .text key => match write key entry.2 with
    | some value => some (entry.1, value)
    | none => if extra = .allow then some (entry.1, entry.2.dump suppliedOnly) else none
  | _ => none

mutual

def Shape.dump (suppliedOnly : Bool) : Shape → ExtraPolicy → Value → Value
  | .list item, extra, value => match value with
    | .list items => .list (items.map (item.dump suppliedOnly extra))
    | _ => value.dump suppliedOnly
  | .optional inner, extra, value => inner.dump suppliedOnly extra value
  | .mapping _ item, extra, value => match value with
    | .map entries =>
      .map (entries.map fun entry => (entry.1, item.dump suppliedOnly extra entry.2))
    | _ => value.dump suppliedOnly
  | .fixedKeys _ fields, extra, value => match value with
    | .map entries =>
      .map (entries.filterMap
        (dumpKnown suppliedOnly extra (dumpEntry suppliedOnly fields extra)))
    | _ => value.dump suppliedOnly
  | .model m, _, value => match value with
    | .record r => m.dump suppliedOnly r
    | _ => value.dump suppliedOnly
  | _, _, value => value.dump suppliedOnly
termination_by structural shape => shape

def Model.dump (suppliedOnly : Bool) : Model Shape → Instance Value → Value
  | ⟨_, _, _, extra, fields⟩, r =>
    r.dumpWith suppliedOnly fun slot =>
      if slot.declared then dumpField suppliedOnly fields extra slot.name slot.value
      else if extra = .allow then some (slot.dump suppliedOnly)
      else none
termination_by structural m => m

def dumpField (suppliedOnly : Bool) :
    List (Field Shape) → ExtraPolicy → Text → Value → Option Value
  | [], _, _, _ => none
  | ⟨name, shape, _, _, _, _, style⟩ :: rest, extra, key, value =>
    if name = key then some (Style.write style (shape.dump suppliedOnly extra) value)
    else dumpField suppliedOnly rest extra key value
termination_by structural fields => fields

def dumpEntry (suppliedOnly : Bool) :
    List (Entry Shape) → ExtraPolicy → Text → Value → Option Value
  | [], _, _, _ => none
  | ⟨name, shape, _⟩ :: rest, extra, key, value =>
    if name = key then some (shape.dump suppliedOnly extra value)
    else dumpEntry suppliedOnly rest extra key value
termination_by structural entries => entries

end

end TypedPath
