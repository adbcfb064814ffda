import TypedPath.Number.Numeral
import TypedPath.Text.Blank

namespace TypedPath.WholeNumber

inductive Fault
  | malformed
  | oversized
deriving DecidableEq, Repr

def greatestLength : Nat := 4300

def minus? : Text → Bool × Text
  | '-' :: rest => (true, rest)
  | rest => (false, rest)

def plainLength (digits : Text) : Nat := (digits.takeWhile Char.isDigit).length

/-- A number that is too long is not read to its end. -/
def readPlain (text : Text) : Except Fault Int :=
  let (negative, digits) := minus? text
  if digits = ['0'] then .ok 0
  else if digits.head? = some '0' then .error .malformed
  else if greatestLength < plainLength digits then .error .oversized
  else match Text.toNat? digits with
    | some n => .ok (if negative then -(n : Int) else n)
    | none => .error .malformed

def afterZeros? (last : Char) : Text → Option Text
  | [] => some [last]
  | c :: rest =>
    if c = '0' ∨ c = '_' then afterZeros? c rest
    else if c.isDigit ∨ c = '-' then some (c :: rest)
    else if c = '.' then some (last :: c :: rest)
    else none

def withoutZeros? : Text → Option Text
  | '0' :: rest => afterZeros? '0' rest
  | c :: rest => if c.isDigit ∨ c = '-' then some (c :: rest) else none
  | [] => none

def withoutIdleZeros? : Text → Option Text
  | '-' :: rest => (withoutZeros? rest).map ('-' :: ·)
  | rest => withoutZeros? rest

def withoutPlus? : Text → Option Text
  | '+' :: '-' :: _ => none
  | '+' :: rest => some rest
  | rest => some rest

def withoutFraction (text : Text) : Text :=
  match Text.cut? '.' text with
  | some (whole, zeros) => if zeros ≠ [] ∧ zeros.all (· = '0') then whole else text
  | none => text

def withoutUnderscores (text : Text) : Text :=
  let groups := text.splitOn '_'
  if groups.all (· ≠ []) then groups.flatten else text

def plain? (text : Text) : Option Text :=
  ((withoutPlus? text).bind withoutIdleZeros?).map fun significant =>
    withoutUnderscores (withoutFraction significant)

/-- Only a number in its plain form is told to be too long. -/
def read (text : Text) : Except Fault Int :=
  let trimmed := Text.trim Text.isBlank text
  match readPlain trimmed with
  | .error .malformed => match (plain? trimmed).map readPlain with
    | some (.ok n) => .ok n
    | _ => .error .malformed
  | result => result

def isWritable (n : Int) : Bool := (Text.ofNat n.natAbs).length ≤ greatestLength

end TypedPath.WholeNumber
