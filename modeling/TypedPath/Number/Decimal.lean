import TypedPath.Number.Numeral
import TypedPath.Text.Blank

namespace TypedPath

/-- A number that is undefined is known again by its mark, if it has one. -/
inductive Decimal
  | finite (numeral : Numeral)
  | infinite (negative : Bool)
  | undefined (negative signalling : Bool) (tag : Nat) (mark : Option Nat)
deriving DecidableEq, Repr

namespace Decimal

def signText (negative : Bool) : Text := if negative then ['-'] else []

def exponentText (n : Int) : Text :=
  (if n < 0 then '-' else '+') :: Text.ofNat n.natAbs

def pointed (digits : Text) (place : Int) : Text :=
  if place ≤ 0 then '0' :: '.' :: (List.replicate place.natAbs '0' ++ digits)
  else if place.toNat < digits.length then
    digits.take place.toNat ++ '.' :: digits.drop place.toNat
  else digits ++ List.replicate (place.toNat - digits.length) '0'

def numeralText (numeral : Numeral) : Text :=
  signText numeral.negative ++
    if numeral.exponent ≤ 0 ∧ numeral.size > -6 then pointed numeral.digits numeral.size
    else pointed numeral.digits 1 ++ 'E' :: exponentText (numeral.size - 1)

def tagText (tag : Nat) : Text := if tag = 0 then [] else Text.ofNat tag

def toText : Decimal → Text
  | .finite numeral => numeralText numeral
  | .infinite negative => signText negative ++ "Infinity"
  | .undefined negative signalling tag _ =>
    signText negative ++ (if signalling then ("sNaN" : Text) else "NaN") ++ tagText tag

def greatestExponent : Int := 999999999999999999

def leastExponent : Int := -1999999999999999997

def isInRange (numeral : Numeral) : Bool :=
  leastExponent ≤ numeral.exponent && numeral.size - 1 ≤ greatestExponent

/-- Code points of the digit zero in every script; the other nine digits follow it. -/
def zeroDigits : List Nat :=
  [0x30, 0x660, 0x6F0, 0x7C0, 0x966, 0x9E6, 0xA66, 0xAE6, 0xB66, 0xBE6, 0xC66, 0xCE6, 0xD66,
   0xDE6, 0xE50, 0xED0, 0xF20, 0x1040, 0x1090, 0x17E0, 0x1810, 0x1946, 0x19D0, 0x1A80, 0x1A90,
   0x1B50, 0x1BB0, 0x1C40, 0x1C50, 0xA620, 0xA8D0, 0xA900, 0xA9D0, 0xA9F0, 0xAA50, 0xABF0,
   0xFF10, 0x104A0, 0x10D30, 0x11066, 0x110F0, 0x11136, 0x111D0, 0x112F0, 0x11450, 0x114D0,
   0x11650, 0x116C0, 0x11730, 0x118E0, 0x11950, 0x11C50, 0x11D50, 0x11DA0, 0x16A60, 0x16AC0,
   0x16B50, 0x1D7CE, 0x1D7D8, 0x1D7E2, 0x1D7EC, 0x1D7F6, 0x1E140, 0x1E2F0, 0x1E950, 0x1FBF0]

def plainDigit (c : Char) : Char :=
  match zeroDigits.find? fun first => first ≤ c.toNat && c.toNat < first + 10 with
  | some first => Char.ofNat ('0'.toNat + (c.toNat - first))
  | none => c

def readTag? (digits : Text) : Option Nat := if digits = [] then some 0 else Text.toNat? digits

def readUndefined? (negative : Bool) (word : Text) : Option Decimal :=
  match Text.after? "nan" word, Text.after? "snan" word with
  | some digits, _ => (readTag? digits).map (.undefined negative false · none)
  | none, some digits => (readTag? digits).map (.undefined negative true · none)
  | none, none => none

def readSpecial? (text : Text) : Option Decimal :=
  let (negative, unsigned) := Numeral.signed? text
  let word := unsigned.map Char.toLower
  if word = "inf".toList ∨ word = "infinity".toList then some (.infinite negative)
  else readUndefined? negative word

/-- Surrounding spacing and every underscore are passed over. -/
def read? (text : Text) : Option Decimal :=
  let plain := ((Text.trim Text.isSpacing text).filter (· ≠ '_')).map plainDigit
  match Numeral.read? plain with
  | some numeral => if isInRange numeral then some (.finite numeral) else none
  | none => readSpecial? plain

end Decimal

end TypedPath
