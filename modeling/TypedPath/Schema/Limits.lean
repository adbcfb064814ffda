import TypedPath.Breakdown
import TypedPath.Issue
import TypedPath.Value.Order

namespace TypedPath

structure Limits where
  above : Option Value
  least : Option Value
  below : Option Value
  most : Option Value
  shortest : Option Nat
  longest : Option Nat

inductive Limit
  | above (bound : Value)
  | least (bound : Value)
  | below (bound : Value)
  | most (bound : Value)
  | shortest (length : Nat)
  | longest (length : Nat)

namespace Limits

def free : Limits := ⟨none, none, none, none, none, none⟩

def bounds (limits : Limits) : List Limit :=
  (limits.above.map Limit.above).toList ++ (limits.least.map Limit.least).toList ++
    (limits.below.map Limit.below).toList ++ (limits.most.map Limit.most).toList

def lengths (limits : Limits) : List Limit :=
  (limits.shortest.map Limit.shortest).toList ++ (limits.longest.map Limit.longest).toList

def all (limits : Limits) : List Limit := limits.bounds ++ limits.lengths

/-- What a shape that counts parts checks by itself, and what is left for its finished value. Bounds
    leave everything to the finished value. -/
def ofCounted (limits : Limits) : Limits × List Limit :=
  if limits.bounds.isEmpty then (limits, []) else (free, limits.all)

end Limits

namespace Limit

def boundText? : Value → Option Text
  | .bool b => some (if b then ['1'] else ['0'])
  | .int n =>
    if Value.isWord n then some (Text.ofInt n)
    else match Binary64.ofInt n with
      | .infinite _ => none
      | x => some x.inPlace
  | .float x => some x.inPlace
  | .text t => some t
  | bound => some bound.shown

def inapplicable (name : Text) (value : Value) : Except Breakdown (Option Problem) :=
  if value.isWritable then .error (.limit name value)
  else .ok (some (.refused Breakdown.oversized.message))

def compared (name : Text) (value bound : Value) (kept : Option Bool) (problem : Text → Problem) :
    Except Breakdown (Option Problem) :=
  match kept, boundText? bound with
  | some true, _ => .ok none
  | some false, some text => .ok (some (problem text))
  | some false, none => inapplicable name value
  | none, _ => if value.orderSignals bound then .error .signalling else inapplicable name value

def counted (name : Text) (value : Value) (keeps : Nat → Bool) (problem : Nat → Problem) :
    Except Breakdown (Option Problem) :=
  match value.length? with
  | some n => .ok (if keeps n then none else some (problem n))
  | none => inapplicable name value

def check (value : Value) : Limit → Except Breakdown (Option Problem)
  | .above bound => compared "gt" value bound (bound.ordered? true value) .notGreater
  | .least bound => compared "ge" value bound (bound.ordered? false value) .notAtLeast
  | .below bound => compared "lt" value bound (value.ordered? true bound) .notLess
  | .most bound => compared "le" value bound (value.ordered? false bound) .notAtMost
  | .shortest n => counted "min_length" value (n ≤ ·) (.tooShort .other n)
  | .longest n => counted "max_length" value (· ≤ n) fun found => .tooLong .other n (some found)

def checkAll (value : Value) : List Limit → Except Breakdown (Option Problem)
  | [] => .ok none
  | limit :: rest => match limit.check value with
    | .ok none => checkAll value rest
    | result => result

end Limit

end TypedPath
