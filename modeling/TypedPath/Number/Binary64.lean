import TypedPath.Number.Decimal

namespace TypedPath

/-- `finite` stands for `significand * 2 ^ exponent`; the significand is below `2 ^ 53`, and at
    least `2 ^ 52` unless the exponent is `-1074`. A number that is undefined is known again by its
    mark; one that was just read from a text has none. -/
inductive Binary64
  | finite (negative : Bool) (significand : Nat) (exponent : Int)
  | infinite (negative : Bool)
  | undefined (mark : Option Nat)
deriving DecidableEq, Repr

namespace Binary64

def leastExponent : Int := -1074
def greatestExponent : Int := 971

def scaled (numerator denominator : Nat) (shift : Int) : Nat × Nat :=
  if shift < 0 then (numerator, denominator * Nat.pow 2 shift.natAbs)
  else (numerator * Nat.pow 2 shift.natAbs, denominator)

def roundedQuotient (numerator denominator : Nat) : Nat :=
  let quotient := numerator / denominator
  let rest := numerator % denominator
  if 2 * rest < denominator ∨ (2 * rest = denominator ∧ quotient % 2 = 0) then quotient
  else quotient + 1

def exponentFor (numerator denominator : Nat) : Int :=
  let guess : Int := (numerator.log2 : Int) - denominator.log2 - 52
  let (top, bottom) := scaled numerator denominator (-guess)
  let exact := if top / bottom < Nat.pow 2 52 then guess - 1 else guess
  max exact leastExponent

def ofQuotient (negative : Bool) (numerator denominator : Nat) : Binary64 :=
  if numerator = 0 then .finite negative 0 leastExponent
  else
    let exponent := exponentFor numerator denominator
    let (top, bottom) := scaled numerator denominator (-exponent)
    let significand := roundedQuotient top bottom
    let (significand, exponent) :=
      if significand = Nat.pow 2 53 then (Nat.pow 2 52, exponent + 1) else (significand, exponent)
    if greatestExponent < exponent then .infinite negative
    else .finite negative significand exponent

def ofInt (n : Int) : Binary64 := ofQuotient (n < 0) n.natAbs 1

def ofNumeral (numeral : Numeral) : Binary64 :=
  if numeral.isZero ∨ numeral.size < -400 then .finite numeral.negative 0 leastExponent
  else if 400 < numeral.size then .infinite numeral.negative
  else if numeral.exponent < 0 then
    ofQuotient numeral.negative numeral.coefficient (Nat.pow 10 numeral.exponent.natAbs)
  else ofQuotient numeral.negative (numeral.coefficient * Nat.pow 10 numeral.exponent.natAbs) 1

def readSpecial? (text : Text) : Option Binary64 :=
  let (negative, unsigned) := Numeral.signed? text
  let word := unsigned.map Char.toLower
  if word = "inf".toList ∨ word = "infinity".toList then some (.infinite negative)
  else if word = "nan".toList then some (.undefined none)
  else none

def readPlain? (text : Text) : Option Binary64 :=
  match Numeral.read? text with
  | some numeral => some (ofNumeral numeral)
  | none => readSpecial? text

def withoutUnderscores? (text : Text) : Option Text :=
  let parts := text.splitOn '_'
  if parts.length > 1 ∧ parts.all (· ≠ []) then some parts.flatten else none

def read? (text : Text) : Option Binary64 :=
  match readPlain? (Text.trim Text.isBlank text) with
  | some number => some number
  | none => (withoutUnderscores? text).bind readPlain?

def quotient (significand : Nat) (exponent : Int) : Nat × Nat := scaled significand 1 exponent

def nearest (numerator denominator : Nat) : Nat × Nat :=
  match ofQuotient false numerator denominator with
  | .finite _ significand exponent => quotient significand exponent
  | _ => (numerator, denominator)

def leadingPlace (numerator denominator : Nat) : Int :=
  if denominator ≤ numerator then ((Text.ofNat (numerator / denominator)).length : Int) - 1
  else -((Text.ofNat ((denominator - 1) / numerator)).length : Int)

/-- Of the two multiples of `10 ^ place` around the quotient, the nearer one between the bounds,
    as a multiple. All three numbers are numerators over `denominator`. -/
def nearestOnGrid (low value high denominator : Nat) (closed : Bool) (place : Int) : Option Nat :=
  let step := if place < 0 then denominator else denominator * Nat.pow 10 place.natAbs
  let lift := if place < 0 then Nat.pow 10 place.natAbs else 1
  let inside := fun n =>
    let point := n * step
    if closed then low * lift ≤ point && point ≤ high * lift
    else low * lift < point && point < high * lift
  let below := value * lift / step
  let above := below + 1
  match inside below, inside above with
  | true, true =>
    let down := value * lift - below * step
    let up := above * step - value * lift
    if down < up ∨ (down = up ∧ below % 2 = 0) then some below else some above
  | true, false => some below
  | false, true => some above
  | false, false => none

/-- The first of the grids with 1, 2, ... digits that has a point between the bounds. -/
def shortestFrom (low value high denominator : Nat) (closed : Bool) :
    Nat → Int → Nat × Int
  | 0, place => (value * Nat.pow 10 place.natAbs / denominator, place)
  | grids + 1, place =>
    match nearestOnGrid low value high denominator closed place with
    | some multiple => (multiple, place)
    | none => shortestFrom low value high denominator closed grids (place - 1)

def shortest (significand : Nat) (exponent : Int) : Nat × Int :=
  let (value, denominator) := scaled (4 * significand) 1 (exponent - 2)
  let (unit, _) := scaled 1 1 (exponent - 2)
  let narrow := significand = Nat.pow 2 52 ∧ exponent ≠ leastExponent
  let low := value - (if narrow then unit else 2 * unit)
  let high := value + 2 * unit
  let place := leadingPlace value denominator
  let (multiple, place) :=
    shortestFrom low value high denominator (significand % 2 = 0) 17 place
  Numeral.withoutTrailingZeros multiple place 20

def exponentText (n : Int) : Text :=
  (if n < 0 then '-' else '+') :: Text.padded 2 n.natAbs

def positiveText (significand : Nat) (exponent : Int) : Text :=
  let (multiple, place) := shortest significand exponent
  let digits := Text.ofNat multiple
  let lead := place + digits.length - 1
  if -4 ≤ lead ∧ lead < 16 then
    let written := Decimal.pointed digits (lead + 1)
    if written.contains '.' then written else written ++ ".0"
  else
    (if digits.length = 1 then digits else Decimal.pointed digits 1) ++ 'e' :: exponentText lead

def toText : Binary64 → Text
  | .finite negative significand exponent =>
    Decimal.signText negative ++
      if significand = 0 then ("0.0" : Text) else positiveText significand exponent
  | .infinite negative => Decimal.signText negative ++ "inf"
  | .undefined _ => "nan"

def positiveInPlace (significand : Nat) (exponent : Int) : Text :=
  let (multiple, place) := shortest significand exponent
  let digits := Text.ofNat multiple
  Decimal.pointed digits (place + digits.length)

def inPlace : Binary64 → Text
  | .finite negative significand exponent =>
    Decimal.signText negative ++
      if significand = 0 then ['0'] else positiveInPlace significand exponent
  | .infinite negative => Decimal.signText negative ++ "inf"
  | .undefined _ => "NaN"

def toNumeral (negative : Bool) (significand : Nat) (exponent : Int) : Numeral :=
  if exponent < 0 then ⟨negative, significand * Nat.pow 5 exponent.natAbs, exponent⟩
  else ⟨negative, significand * Nat.pow 2 exponent.natAbs, 0⟩

end Binary64

end TypedPath
