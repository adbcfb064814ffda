import TypedPath.Value.Basic

namespace TypedPath

inductive Unhashable
  | mutable (kind : Text)
  | signalling
deriving DecidableEq, Repr

def Unhashable.message : Unhashable → Text
  | .mutable kind => "unhashable type: '" ++ kind ++ "'"
  | .signalling => "Cannot hash a signaling NaN value"

namespace Value

mutual

def unhashable? : Value → Option Unhashable
  | .list _ => some (.mutable "list")
  | .set _ false => some (.mutable "set")
  | .map _ => some (.mutable "dict")
  | .record r => some (.mutable r.name)
  | .decimal (.undefined _ true _ _) => some .signalling
  | .tuple items => firstUnhashable? items
  | _ => Option.none
termination_by structural value => value

def firstUnhashable? : List Value → Option Unhashable
  | [] => Option.none
  | item :: rest => (unhashable? item).or (firstUnhashable? rest)
termination_by structural items => items

end

def isHashable (value : Value) : Bool := value.unhashable?.isNone

def asMember (value : Value) : Except Unhashable Value :=
  match value.unhashable? with
  | some reason => .error reason
  | Option.none => .ok value

end Value

end TypedPath
