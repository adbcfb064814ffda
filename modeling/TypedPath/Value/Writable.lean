import TypedPath.Number.WholeNumber
import TypedPath.Value.Basic

namespace TypedPath

namespace Value

mutual

/-- Whether the value has a text: no integer in it is too long. -/
def isWritable : Value → Bool
  | .int n => WholeNumber.isWritable n
  | .list items | .tuple items | .set items _ => allWritable items
  | .map entries => entriesWritable entries
  | .record r => instanceWritable r
  | _ => true
termination_by structural value => value

def allWritable : List Value → Bool
  | [] => true
  | item :: rest => isWritable item && allWritable rest
termination_by structural items => items

def entriesWritable : List (Value × Value) → Bool
  | [] => true
  | (key, value) :: rest => isWritable key && isWritable value && entriesWritable rest
termination_by structural entries => entries

def instanceWritable : Instance Value → Bool
  | ⟨_, _, _, slots⟩ => slotsWritable slots
termination_by structural r => r

def slotsWritable : List (Slot Value) → Bool
  | [] => true
  | ⟨_, value, _, _, _⟩ :: rest => isWritable value && slotsWritable rest
termination_by structural slots => slots

end

end Value

end TypedPath
