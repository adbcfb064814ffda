import TypedPath.Text.Basic

namespace TypedPath

/-- The number `coefficient * 10 ^ exponent`, with its sign apart so that zero may carry one. -/
structure Numeral where
  negative : Bool
  coefficient : Nat
  exponent : Int
deriving DecidableEq, Repr

namespace Numeral

def signed? : Text → Bool × Text
  | '-' :: rest => (true, rest)
  | '+' :: rest => (false, rest)
  | rest => (false, rest)

def readExponent? : Text → Option Int
  | [] => some 0
  | c :: rest =>
    if c = 'e' ∨ c = 'E' then
      let (negative, digits) := signed? rest
      (Text.toNat? digits).map fun n => if negative then -(n : Int) else n
    else none

def readFraction (text : Text) : Text × Text :=
  match text with
  | '.' :: rest => (rest.takeWhile Char.isDigit, rest.dropWhile Char.isDigit)
  | rest => ([], rest)

def read? (text : Text) : Option Numeral :=
  let (negative, unsigned) := signed? text
  let whole := unsigned.takeWhile Char.isDigit
  let (fraction, rest) := readFraction (unsigned.dropWhile Char.isDigit)
  match Text.toNat? (whole ++ fraction), readExponent? rest with
  | some coefficient, some exponent => some ⟨negative, coefficient, exponent - fraction.length⟩
  | _, _ => none

def digits (numeral : Numeral) : Text := Text.ofNat numeral.coefficient

def size (numeral : Numeral) : Int := numeral.exponent + numeral.digits.length

def withoutTrailingZeros (n : Nat) (place : Int) : (fuel : Nat) → Nat × Int
  | 0 => (n, place)
  | fuel + 1 =>
    if n ≠ 0 ∧ n % 10 = 0 then withoutTrailingZeros (n / 10) (place + 1) fuel else (n, place)

/-- The one form that all numerals for the same number share. Zero has no sign in it. -/
def reduced (numeral : Numeral) : Numeral :=
  if numeral.coefficient = 0 then ⟨false, 0, 0⟩
  else
    let (coefficient, exponent) :=
      withoutTrailingZeros numeral.coefficient numeral.exponent numeral.digits.length
    ⟨numeral.negative, coefficient, exponent⟩

def same (left right : Numeral) : Bool := left.reduced = right.reduced

def isZero (numeral : Numeral) : Bool := numeral.coefficient = 0

def alignedTo (numeral other : Numeral) : Nat :=
  numeral.coefficient * Nat.pow 10 (numeral.exponent - other.exponent).toNat

/-- The order of the numbers without their signs. Only numerals of one size are written out to the
    same exponent, so no power of ten is taken that the digits do not span. -/
def lessInSize (left right : Numeral) : Bool :=
  if right.isZero then false
  else if left.isZero then true
  else if left.size = right.size then left.alignedTo right < right.alignedTo left
  else left.size < right.size

def less (left right : Numeral) : Bool :=
  match left.negative && !left.isZero, right.negative && !right.isZero with
  | false, false => left.lessInSize right
  | true, true => right.lessInSize left
  | negative, _ => negative

def signed (numeral : Numeral) (n : Nat) : Int := if numeral.negative then -(n : Int) else n

def toInt? (numeral : Numeral) : Option Int :=
  let places := numeral.exponent.natAbs
  if numeral.isZero then some 0
  else if 0 ≤ numeral.exponent then some (numeral.signed (numeral.coefficient * Nat.pow 10 places))
  else if numeral.size ≤ 0 then none
  else if numeral.coefficient % Nat.pow 10 places = 0 then
    some (numeral.signed (numeral.coefficient / Nat.pow 10 places))
  else none

def ofInt (n : Int) : Numeral := ⟨n < 0, n.natAbs, 0⟩

end Numeral

end TypedPath
