import TypedPath.Issue
import TypedPath.Number.WholeNumber
import TypedPath.Scalar.Timestamp
import TypedPath.Value.Equality
import TypedPath.Value.Member

namespace TypedPath.Reading

def text : Value → Except Problem Text
  | .text t => .ok t
  | _ => .error .textType

def ofIntText (text : Text) : Except Problem Int :=
  (WholeNumber.read text).mapError fun
    | .malformed => .intParsing
    | .oversized => .intSize

def wholeNumber (numeral : Numeral) : Except Problem Int :=
  match numeral.toInt? with
  | some n => .ok n
  | none => .error .intFraction

def ofFloat : Binary64 → Except Problem Int
  | .finite negative significand exponent =>
    match wholeNumber (Binary64.toNumeral negative significand exponent) with
    | .ok n => if n.natAbs < Nat.pow 2 63 then .ok n else .error .intSize
    | .error problem => .error problem
  | _ => .error .notFinite

def int : Value → Except Problem Int
  | .int n => .ok n
  | .bool b => .ok (if b then 1 else 0)
  | .float x => ofFloat x
  | .decimal (.finite numeral) => wholeNumber numeral
  | .decimal _ => .error .notFinite
  | .text t => ofIntText t
  | _ => .error .intType

def trueWords : List Text := ["1", "on", "t", "true", "y", "yes"]

def falseWords : List Text := ["0", "off", "f", "false", "n", "no"]

def boolText? (text : Text) : Option Bool :=
  let word := text.map Char.toLower
  if trueWords.contains word then some true
  else if falseWords.contains word then some false
  else none

def boolNumber (n : Int) : Except Problem Bool :=
  if n = 1 then .ok true else if n = 0 then .ok false else .error .boolParsing

def floatOfDecimal : Decimal → Except Problem Binary64
  | .finite numeral => .ok (Binary64.ofNumeral numeral)
  | .infinite negative => .ok (.infinite negative)
  | .undefined _ signalling _ _ => if signalling then .error .floatType else .ok (.undefined none)

def boolFloat (x : Binary64) : Except Problem Bool :=
  match ofFloat x with
  | .ok n => boolNumber n
  | .error _ => .error .boolType

def bool : Value → Except Problem Bool
  | .bool b => .ok b
  | .int n => if Value.isWord n then boolNumber n else .error .boolType
  | .text t => match boolText? t with
    | some b => .ok b
    | none => .error .boolParsing
  | .float x => boolFloat x
  | .decimal d => match floatOfDecimal d with
    | .ok x => boolFloat x
    | .error _ => .error .boolType
  | _ => .error .boolType

def float : Value → Except Problem Binary64
  | .float x => .ok x
  | .int n => match Binary64.ofInt n with
    | .infinite _ => .error .floatType
    | x => .ok x
  | .bool b => .ok (Binary64.ofInt (if b then 1 else 0))
  | .decimal d => floatOfDecimal d
  | .text t => match Binary64.read? t with
    | some x => .ok x
    | none => .error .floatParsing
  | _ => .error .floatType

def decimalText (text : Text) : Except Problem Decimal :=
  match Decimal.read? text with
  | some d => .ok d
  | none => .error .decimalParsing

def anyDecimal : Value → Except Problem Decimal
  | .decimal d => .ok d
  | .int n => .ok (.finite ⟨n < 0, n.natAbs, 0⟩)
  | .float x => decimalText x.toText
  | .text t => decimalText t
  | _ => .error .decimalType

def finite : Decimal → Except Problem Decimal
  | .finite numeral => .ok (.finite numeral)
  | _ => .error .notFinite

def decimal (value : Value) : Except Problem Decimal := (anyDecimal value).bind finite

def uuid : Value → Except Problem Uuid
  | .uuid u => .ok u
  | .text t => (Uuid.read t).mapError .uuidParsing
  | _ => .error .uuidType

def moment (value : Value) : Except Problem Moment :=
  match value with
  | .moment m => .ok m
  | .text t => (Moment.read .seconds t).mapError .momentParsing
  | .int n =>
    if Value.isWord n then (Moment.ofCount n).mapError .momentCount
    else match float value with
      | .ok x => (Moment.ofBinary64 x).mapError .momentCount
      | .error _ => .error .momentType
  | .float x => (Moment.ofBinary64 x).mapError .momentCount
  | .decimal d => match floatOfDecimal d with
    | .ok x => (Moment.ofBinary64 x).mapError .momentCount
    | .error _ => .error .momentType
  | _ => .error .momentType

def dated (m : Moment) : Except Problem Moment :=
  if m.year = 0 then .error (.momentCount .yearZero) else .ok m

/-- Texts and integers of 64 bits, which count as nothing but themselves while they can. -/
def isPlain : Value → Bool
  | .text _ => true
  | .int n => Value.isWord n
  | _ => false

def exactChoice? (choices : List Value) (value : Value) : Option Value :=
  match value with
  | .bool _ => choices.find? value.alike
  | _ => if isPlain value then choices.find? value.alike else none

def latestSame? (choices : List Value) (value : Value) : Option Value :=
  if value.isHashable then choices.reverse.find? value.same else none

/-- The last choice that is the same as the value. Plain choices come last, and just before them
    those that can change, of which the first is taken. -/
def sameChoice? (choices : List Value) (value : Value) : Option Value :=
  let (fixed, mutable) := choices.partition Value.isHashable
  let (plain, others) := fixed.partition isPlain
  ((latestSame? others value).or (mutable.find? value.same)).or (latestSame? plain value)

def isBeyond (choices : List Value) (value : Value) : Bool :=
  match value with
  | .int n => !Value.isWord n && choices.any fun
    | .int choice => Value.isWord choice
    | _ => false
  | _ => false

def literal (choices : List Value) (value : Value) : Except Problem Value :=
  if isBeyond choices value then .error .intSize
  else match (exactChoice? choices value).or (sameChoice? choices value) with
    | some choice => .ok choice
    | none => .error (.literal choices)

end TypedPath.Reading
