import TypedPath.Number.Binary64
import TypedPath.Scalar.Moment
import TypedPath.Scalar.Uuid

namespace TypedPath

/-- A value under a name. It is that of a declared field, or else of a key that no field reads;
    the two may have one name. `written` is the value as the record's own class writes it, and
    `writtenSupplied` leaves out whatever was filled in. -/
structure Slot (α : Type) where
  name : Text
  value : α
  written : α
  writtenSupplied : α
  declared : Bool

/-- A record belongs to a class, known by its mark; the marks of the classes above follow it.
    `supplied` names the fields that were given and not filled in. -/
structure Instance (α : Type) where
  name : Text
  marks : List Nat
  supplied : List Text
  slots : List (Slot α)

inductive Value
  | none
  | bool (b : Bool)
  | int (n : Int)
  | float (x : Binary64)
  | decimal (d : Decimal)
  | text (t : Text)
  | uuid (u : Uuid)
  | moment (m : Moment)
  | list (items : List Value)
  | tuple (items : List Value)
  | set (items : List Value) (frozen : Bool)
  | map (entries : List (Value × Value))
  | record (r : Instance Value)

namespace Value

instance : Inhabited Value := ⟨.none⟩

def isNone : Value → Bool
  | .none => true
  | _ => false

def isSignalling : Value → Bool
  | .decimal (.undefined _ signalling _ _) => signalling
  | _ => false

/-- Values made of other values, which are never one path component. -/
def isContainer : Value → Bool
  | .list _ | .tuple _ | .set _ _ | .map _ | .record _ => true
  | _ => false

def typeName : Value → Text
  | .none => "NoneType"
  | .bool _ => "bool"
  | .int _ => "int"
  | .float _ => "float"
  | .decimal _ => "Decimal"
  | .text _ => "str"
  | .uuid _ => "UUID"
  | .moment _ => "datetime"
  | .list _ => "list"
  | .tuple _ => "tuple"
  | .set _ false => "set"
  | .set _ true => "frozenset"
  | .map _ => "dict"
  | .record r => r.name

def length? : Value → Option Nat
  | .text t => some t.length
  | .list items | .tuple items | .set items _ => some items.length
  | .map entries => some entries.length
  | _ => Option.none

def qualifiedTypeName : Value → Text
  | .decimal _ => "decimal.Decimal"
  | .moment _ => "datetime.datetime"
  | value => value.typeName

def isWord (n : Int) : Bool := -(Nat.pow 2 63) ≤ n && n < Nat.pow 2 63

def findText? (key : Text) : List (Value × Value) → Option Value
  | [] => Option.none
  | (.text t, value) :: rest => if t = key then some value else findText? key rest
  | _ :: rest => findText? key rest

end Value

end TypedPath
