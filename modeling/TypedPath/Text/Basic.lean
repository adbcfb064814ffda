namespace TypedPath

/-- Text is a list of characters, so that it is taken apart by plain recursion. No character is half of a
    surrogate pair. -/
abbrev Text := List Char

instance : Coe String Text where
  coe := String.toList

namespace Text

def join (separator : Text) (pieces : List Text) : Text :=
  separator.intercalate pieces

def after? (start text : Text) : Option Text :=
  if start.isPrefixOf text then some (text.drop start.length) else none

def cut? (separator : Char) : Text → Option (Text × Text)
  | [] => none
  | c :: rest =>
    if c = separator then some ([], rest)
    else (cut? separator rest).map fun (left, right) => (c :: left, right)

def ofNat (n : Nat) : Text := Nat.toDigits 10 n

/-- All digits of the number, however many; whether it is written at all is told where it is. -/
def ofInt (n : Int) : Text :=
  if n < 0 then '-' :: ofNat n.natAbs else ofNat n.natAbs

def padded (width n : Nat) : Text :=
  let digits := ofNat n
  List.replicate (width - digits.length) '0' ++ digits

def toNat? (digits : Text) : Option Nat :=
  if digits ≠ [] ∧ digits.all Char.isDigit then some (Nat.ofDigitChars 10 digits 0) else none

def liesIn (ranges : List (Nat × Nat)) (c : Char) : Bool :=
  ranges.any fun (first, last) => first ≤ c.toNat && c.toNat ≤ last

def hexDigit (n : Nat) : Char := (Nat.digitChar n).toUpper

def hexValue? (c : Char) : Option Nat :=
  if '0' ≤ c ∧ c ≤ '9' then some (c.toNat - '0'.toNat)
  else if 'a' ≤ c ∧ c ≤ 'f' then some (c.toNat - 'a'.toNat + 10)
  else if 'A' ≤ c ∧ c ≤ 'F' then some (c.toNat - 'A'.toNat + 10)
  else none

def hexPadded (width n : Nat) : Text :=
  let digits := Nat.toDigits 16 n
  List.replicate (width - digits.length) '0' ++ digits

end Text

end TypedPath
