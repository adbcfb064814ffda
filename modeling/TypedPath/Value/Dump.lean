import TypedPath.Value.Equality

namespace TypedPath

namespace Slot

def dump {α : Type} (suppliedOnly : Bool) (slot : Slot α) : α :=
  if suppliedOnly then slot.writtenSupplied else slot.written

end Slot

namespace Instance

def dumpWith (suppliedOnly : Bool) (write : Slot Value → Option Value) (r : Instance Value) :
    Value :=
  let put (built : List (Value × Value)) (slot : Slot Value) :=
    if suppliedOnly && !r.supplied.contains slot.name then built
    else match write slot with
      | some value => Value.put (.text slot.name) value built
      | none => built
  .map (r.slots.foldl put [])

def dump (suppliedOnly : Bool) (r : Instance Value) : Value :=
  r.dumpWith suppliedOnly fun slot => some (slot.dump suppliedOnly)

end Instance

namespace Value

mutual

def dump (suppliedOnly : Bool) : Value → Value
  | .list items => .list (dumpItems suppliedOnly items)
  | .tuple items => .tuple (dumpItems suppliedOnly items)
  | .set items frozen => .set (dumpItems suppliedOnly items) frozen
  | .map entries => .map (dumpEntries suppliedOnly entries)
  | .record r => r.dump suppliedOnly
  | value => value
termination_by structural value => value

def dumpItems (suppliedOnly : Bool) : List Value → List Value
  | [] => []
  | item :: rest => dump suppliedOnly item :: dumpItems suppliedOnly rest
termination_by structural items => items

def dumpEntries (suppliedOnly : Bool) : List (Value × Value) → List (Value × Value)
  | [] => []
  | (key, value) :: rest => (key, dump suppliedOnly value) :: dumpEntries suppliedOnly rest
termination_by structural entries => entries

end

end Value

end TypedPath
