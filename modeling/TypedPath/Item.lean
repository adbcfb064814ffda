import TypedPath.Validator.Schema
import TypedPath.Value.Member
import TypedPath.Pattern.Basic

namespace TypedPath

inductive Item
  | pattern (p : Pattern)
  | segment (s : Segment)
  | failure (f : Failure)
  | result (r : ParseResult)
  | schema (s : Schema)
  | value (v : Value)

inductive Misuse
  | operands (left right : Text)
  | immutable (kind : Text)
  | unhashable (reason : Unhashable)
  | signalling
deriving DecidableEq, Repr

def Misuse.sequences : List Text := ["str", "list", "tuple"]

def Misuse.message : Misuse → Text
  | .operands left right =>
    if sequences.contains left then
      "can only concatenate " ++ left ++ " (not \"" ++ right ++ "\") to " ++ left
    else "unsupported operand type(s) for +: '" ++ left ++ "' and '" ++ right ++ "'"
  | .immutable kind => kind ++ " is immutable"
  | .unhashable reason => reason.message
  | .signalling => Breakdown.signalling.message

namespace Item

def kind : Item → Text
  | .pattern _ => "CompiledPattern"
  | .segment _ => "Segment"
  | .failure f => f.name?.getD []
  | .result _ => "ParseResult"
  | .schema s => s.typeName
  | .value v => v.qualifiedTypeName

def shown : Item → Text
  | .pattern p => p.shown
  | .segment s => s.shown
  | .failure f => f.shown
  | .result r => r.shown
  | .schema s => s.shown
  | .value v => v.shown

def compared (stopped same : Bool) : Except Misuse Bool :=
  if stopped then .error .signalling else .ok same

def same : Item → Item → Except Misuse Bool
  | .pattern a, .pattern b => .ok (a.same b)
  | .segment a, .segment b => .ok (a = b)
  | .failure a, .failure b => compared (a.signals b) (a.same b)
  | .result a, .result b => compared (a.signals b) (a.same b)
  | .schema a, .schema b => do compared (a.signals b) (← (a.same b).mapError .unhashable)
  | .value a, .value b => compared (a.signals b) (a.same b)
  | _, _ => .ok false

def hashesAlike : Item → Bool
  | .pattern _ | .segment _ | .schema _ => true
  | _ => false

def joined : Item → Item → Except Misuse Pattern
  | .pattern a, .pattern b => .ok (a ++ b)
  | a, b => .error (.operands a.kind b.kind)

def assigned (item : Item) (_part : Text) (_value : Value) : Except Misuse Item :=
  .error (.immutable item.kind)

def unhashable? : Item → Option Unhashable
  | .result r => some (.mutable (Item.result r).kind)
  | .value v => v.unhashable?
  | .schema s => s.unhashable?
  | _ => none

def sameMember (left right : Item) : Bool :=
  match left with
  | .failure _ => false
  | _ => match left.same right with
    | .ok same => same
    | .error _ => false

def included (kept : List Item) (item : Item) : Except Misuse (List Item) :=
  match item.unhashable? with
  | some reason => .error (.unhashable reason)
  | none => .ok (if kept.any fun other => other.sameMember item then kept else item :: kept)

def distinct (items : List Item) : Except Misuse (List Item) := items.foldlM included []

end Item

end TypedPath
