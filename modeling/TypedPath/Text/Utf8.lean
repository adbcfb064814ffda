import TypedPath.Text.Basic

namespace TypedPath.Utf8

def encode (text : Text) : List UInt8 := text.flatMap String.utf8EncodeChar

def isTail (b : UInt8) : Bool := 0x80 ≤ b && b < 0xC0

def tailBits (b : UInt8) : Nat := b.toNat - 0x80

def charAtLeast? (least n : Nat) : Option Char :=
  if h : n.isValidChar then (if least ≤ n then some (Char.ofNatAux n h) else none) else none

def two? (a b : UInt8) : Option Char :=
  if isTail b then charAtLeast? 0x80 ((a.toNat - 0xC0) * 64 + tailBits b) else none

def three? (a b c : UInt8) : Option Char :=
  if isTail b && isTail c then
    charAtLeast? 0x800 ((a.toNat - 0xE0) * 4096 + tailBits b * 64 + tailBits c)
  else none

def four? (a b c d : UInt8) : Option Char :=
  if isTail b && isTail c && isTail d then
    charAtLeast? 0x10000
      ((a.toNat - 0xF0) * 262144 + tailBits b * 4096 + tailBits c * 64 + tailBits d)
  else none

def decode? : List UInt8 → Option Text
  | [] => some []
  | a :: rest =>
    if a < 0x80 then (decode? rest).map (Char.ofNat a.toNat :: ·)
    else if a < 0xC2 then none
    else if a < 0xE0 then
      match rest with
      | b :: rest => match two? a b with
        | some found => (decode? rest).map (found :: ·)
        | none => none
      | [] => none
    else if a < 0xF0 then
      match rest with
      | b :: c :: rest => match three? a b c with
        | some found => (decode? rest).map (found :: ·)
        | none => none
      | _ => none
    else if a < 0xF5 then
      match rest with
      | b :: c :: d :: rest => match four? a b c d with
        | some found => (decode? rest).map (found :: ·)
        | none => none
      | _ => none
    else none

end TypedPath.Utf8
