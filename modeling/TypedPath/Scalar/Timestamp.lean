import TypedPath.Number.Binary64
import TypedPath.Scalar.Moment

namespace TypedPath.Moment

def epoch : Int := dayNumber 1970 1 1

def leastSecond : Int := -62167219200

def greatestSecond : Int := 253402300799

def greatestCount : Nat := 20000000000

def ofSeconds (seconds : Int) (microsecond : Nat) : Except Fault Moment :=
  if seconds < leastSecond then .error .tooEarly
  else if greatestSecond < seconds then .error .tooLate
  else
    let date := ofSignedDay .seconds (epoch + seconds / 86400)
    let ofDay := (seconds % 86400).toNat
    .ok { date with
      hour := ofDay / 3600, minute := ofDay / 60 % 60, second := ofDay % 60
      microsecond, offset := some 0 }

def ofMicroseconds (count : Int) : Except Fault Moment :=
  ofSeconds (count / 1000000) (count % 1000000).toNat

def ofCount (count : Int) : Except Fault Moment :=
  ofMicroseconds (count * if count.natAbs ≤ greatestCount then 1000000 else 1000)

def wholePart (negative : Bool) (numerator denominator : Nat) : Int × Nat :=
  let whole : Int := (numerator / denominator : Nat)
  let rest := numerator % denominator
  if !negative then (whole, rest)
  else if rest = 0 then (-whole, 0)
  else (-whole - 1, denominator - rest)

/-- A fraction of a second or a millisecond, of which each has so many microseconds: after each step
    to the nearest binary number and last to the nearest integer, a half upwards. -/
def microseconds (scale numerator denominator : Nat) : Nat :=
  let (numerator, denominator) := Binary64.nearest numerator denominator
  let (numerator, denominator) := Binary64.nearest (numerator * scale) denominator
  (2 * numerator + denominator) / (2 * denominator)

def ofBinary64 : Binary64 → Except Fault Moment
  | .finite negative significand exponent =>
    let (numerator, denominator) := Binary64.quotient significand exponent
    let scale := if numerator ≤ greatestCount * denominator then 1000000 else 1000
    let (whole, rest) := wholePart negative numerator denominator
    ofMicroseconds (whole * scale + microseconds scale rest denominator)
  | .infinite true => .error .tooEarly
  | .infinite false => .error .tooLate
  | .undefined _ => .error .undefined

def count? (text : Text) : Option Int :=
  let (negative, digits) := Numeral.signed? text
  (Text.toNat? digits).bind fun n =>
    let count : Int := if negative then -(n : Int) else n
    if -(Nat.pow 2 63) ≤ count ∧ count < Nat.pow 2 63 then some count else none

def fractional? (text : Text) : Option Numeral :=
  if text.contains '.' then Numeral.read? text else none

/-- A text with a fraction that is no timestamp counts as no number at all. -/
def read (zone : ZoneForm) (text : Text) : Except Fault Moment :=
  match count? text, fractional? text with
  | some count, _ => ofCount count
  | none, some numeral => match ofBinary64 (Binary64.ofNumeral numeral) with
    | .ok m => .ok m
    | .error _ => readCalendar zone text
  | none, none => readCalendar zone text

end TypedPath.Moment
