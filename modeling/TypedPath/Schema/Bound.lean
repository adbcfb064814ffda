import TypedPath.Schema.Limits
import TypedPath.Schema.Reading

namespace TypedPath.Bound

def read (limited bound : Value) : Value :=
  let reading := match limited with
    | .int _ => (Reading.int bound).map Value.int
    | .float _ => (Reading.float bound).map Value.float
    | .decimal _ => (Reading.anyDecimal bound).map Value.decimal
    | .moment _ => (Reading.moment bound).map Value.moment
    | _ => .ok bound
  match reading with
  | .ok read => read
  | .error _ => bound

def text : Value → Text
  | .float x => x.inPlace
  | .bool b => if b then ['1'] else ['0']
  | .moment m => m.boundText
  | bound => bound.toText

/-- Moments of which only one has an offset are compared by their clocks. An undefined number is
    neither less than another nor the same. -/
def ordered (strict : Bool) (left right : Value) : Bool :=
  match left, right with
  | .moment a, .moment b =>
    let (earlier, later) := a.scaled b
    if strict then earlier < later else earlier ≤ later
  | _, _ => match left.quantity?, right.quantity? with
    | some p, some q => Value.quantitiesOrdered strict p q
    | _, _ => true

def problem? (value : Value) : Limit → Option Problem
  | .above bound =>
    let bound := read value bound
    if ordered true bound value then none else some (.notGreater (text bound))
  | .least bound =>
    let bound := read value bound
    if ordered false bound value then none else some (.notAtLeast (text bound))
  | .below bound =>
    let bound := read value bound
    if ordered true value bound then none else some (.notLess (text bound))
  | .most bound =>
    let bound := read value bound
    if ordered false value bound then none else some (.notAtMost (text bound))
  | .shortest _ | .longest _ => none

def broken? (limits : Limits) (value : Value) : Option Problem :=
  limits.bounds.reverse.findSome? (problem? value)

end TypedPath.Bound
