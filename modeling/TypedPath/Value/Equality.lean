import TypedPath.Text.Order
import TypedPath.Value.Basic

namespace TypedPath

inductive Quantity
  | exact (numeral : Numeral)
  | infinite (negative : Bool)
  | undefined

namespace Quantity

def same : Quantity → Quantity → Bool
  | .exact a, .exact b => a.same b
  | .infinite a, .infinite b => a = b
  | _, _ => false

def less : Quantity → Quantity → Bool
  | .exact a, .exact b => a.less b
  | .exact _, .infinite negative => !negative
  | .infinite negative, .exact _ => negative
  | .infinite a, .infinite b => a && !b
  | _, _ => false

def atMost (left right : Quantity) : Bool := left.less right || left.same right

end Quantity

namespace Value

def quantity? : Value → Option Quantity
  | .bool b => some (.exact (.ofInt (if b then 1 else 0)))
  | .int n => some (.exact (.ofInt n))
  | .float (.finite negative significand exponent) =>
    some (.exact (Binary64.toNumeral negative significand exponent))
  | .float (.infinite negative) => some (.infinite negative)
  | .float (.undefined _) => some .undefined
  | .decimal (.finite numeral) => some (.exact numeral)
  | .decimal (.infinite negative) => some (.infinite negative)
  | .decimal (.undefined _ _ _ _) => some .undefined
  | _ => Option.none

def sameQuantity (left right : Value) : Bool :=
  match left.quantity?, right.quantity? with
  | some a, some b => a.same b
  | _, _ => false

/-- One and the same number that is undefined. -/
def isIdentical : Value → Value → Bool
  | .float (.undefined mark), .float x => mark.isSome && x = .undefined mark
  | .decimal (.undefined negative signalling tag mark), .decimal d =>
    mark.isSome && d = .undefined negative signalling tag mark
  | _, _ => false

mutual

/-- Numbers are compared by their exact value, mappings and sets whatever their order, moments with
    an offset as instants. A number that is undefined differs from itself, but not where it stands
    inside another value. -/
def same : Value → Value → Bool
  | .none, .none => true
  | .text a, .text b => a = b
  | .uuid a, .uuid b => a = b
  | .moment a, .moment b => a.same b
  | .list a, .list b => sameItems a b
  | .tuple a, .tuple b => sameItems a b
  | .set a _, .set b _ => a.length = b.length && allIn a b
  | .map a, .map b => a.length = b.length && allEntriesIn a b
  | .record a, .record b => sameInstance a b
  | a, b => sameQuantity a b
termination_by structural left => left

def sameItems : List Value → List Value → Bool
  | [], [] => true
  | a :: left, b :: right => (isIdentical a b || same a b) && sameItems left right
  | _, _ => false
termination_by structural left => left

def allIn : List Value → List Value → Bool
  | [], _ => true
  | a :: left, right => right.any (fun b => isIdentical a b || same a b) && allIn left right
termination_by structural left => left

def allEntriesIn : List (Value × Value) → List (Value × Value) → Bool
  | [], _ => true
  | (key, value) :: left, right =>
    right.any (fun entry => (isIdentical key entry.1 || same key entry.1) &&
      (isIdentical value entry.2 || same value entry.2)) && allEntriesIn left right
termination_by structural left => left

def sameInstance : Instance Value → Instance Value → Bool
  | ⟨name, marks, _, slots⟩, other =>
    name = other.name && marks = other.marks && slots.length = other.slots.length &&
      allSlotsIn slots other.slots
termination_by structural left => left

def allSlotsIn : List (Slot Value) → List (Slot Value) → Bool
  | [], _ => true
  | ⟨name, value, _, _, declared⟩ :: left, right =>
    right.any (fun slot => name = slot.name && declared = slot.declared &&
      (isIdentical value slot.value || same value slot.value)) && allSlotsIn left right
termination_by structural left => left

end

def sameMember (left right : Value) : Bool := isIdentical left right || same left right

def quantitiesSignal (left right : Value) : Bool :=
  left.quantity?.isSome && right.quantity?.isSome && (left.isSignalling || right.isSignalling)

mutual

/-- Whether the comparison of the two values is stopped by a number that signals. Items and entries
    are compared one after the other, as far as they are the same; lists, sets and mappings of
    different lengths are not compared any further, but tuples are. -/
def signals : Value → Value → Bool
  | .list a, .list b => a.length = b.length && itemsSignal a b
  | .tuple a, .tuple b => itemsSignal a b
  | .map a, .map b => a.length = b.length && entriesSignal a b
  | .record a, .record b => instanceSignals a b
  | a, b => quantitiesSignal a b
termination_by structural left => left

def itemsSignal : List Value → List Value → Bool
  | a :: left, b :: right => if sameMember a b then itemsSignal left right else signals a b
  | _, _ => false
termination_by structural left => left

def entriesSignal : List (Value × Value) → List (Value × Value) → Bool
  | [], _ => false
  | (key, value) :: left, right =>
    if right.any fun entry => sameMember key entry.1 && sameMember value entry.2 then
      entriesSignal left right
    else right.any fun entry => sameMember key entry.1 && signals value entry.2
termination_by structural left => left

def instanceSignals : Instance Value → Instance Value → Bool
  | ⟨name, marks, _, slots⟩, other =>
    name = other.name && marks = other.marks && slots.length = other.slots.length &&
      (slotsSignal false slots other.slots ||
        allSlotsIn (slots.filter fun slot => !slot.declared) other.slots &&
          slotsSignal true slots other.slots)
termination_by structural left => left

def slotsSignal (fields : Bool) : List (Slot Value) → List (Slot Value) → Bool
  | [], _ => false
  | ⟨name, value, _, _, declared⟩ :: left, right =>
    if declared = fields && !right.any fun slot => name = slot.name && declared = slot.declared &&
        sameMember value slot.value then
      right.any fun slot => name = slot.name && declared = slot.declared && signals value slot.value
    else slotsSignal fields left right
termination_by structural left => left

end

def alike (left right : Value) : Bool := left.typeName = right.typeName && left.same right

def put (key value : Value) : List (Value × Value) → List (Value × Value)
  | [] => [(key, value)]
  | (key', value') :: rest =>
    if sameMember key' key then (key', value) :: rest else (key', value') :: put key value rest

def find? (key : Value) : List (Value × Value) → Option Value
  | [] => Option.none
  | (key', value) :: rest => if sameMember key' key then some value else find? key rest

def ofEntries (entries : List (Value × Value)) : Value :=
  .map (entries.foldl (fun built entry => put entry.1 entry.2 built) [])

def ofSlots (slots : List (Slot Value)) : Value :=
  ofEntries (slots.map fun slot => (.text slot.name, slot.value))

def comesBefore : Value → Value → Bool
  | .int a, .int b => a ≤ b
  | .text a, .text b => Text.precedes a b
  | .int _, _ => true
  | _, .int _ => false
  | _, _ => true

def ofItems (items : List Value) (frozen : Bool) : Value :=
  let keep (kept : List Value) (item : Value) :=
    if kept.any (sameMember · item) then kept else kept ++ [item]
  .set (Sorting.sorted comesBefore (items.foldl keep [])) frozen

end Value

end TypedPath
