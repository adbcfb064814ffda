import TypedPath.Text.Utf8

namespace TypedPath.Percent

def isUnreserved (c : Char) : Bool :=
  c.isAlphanum || "_.-~!*'()".toList.contains c

def escapeByte (b : UInt8) : Text :=
  ['%', Text.hexDigit (b.toNat / 16), Text.hexDigit (b.toNat % 16)]

def encodeChar (c : Char) : Text :=
  if isUnreserved c then [c] else (String.utf8EncodeChar c).flatMap escapeByte

def encode (text : Text) : Text := text.flatMap encodeChar

/-- What one step of reading a component finds: a byte, written out or escaped, or a character
    outside ASCII. -/
inductive Piece
  | byte (b : UInt8)
  | raw (c : Char)
deriving DecidableEq, Repr

def Piece.ofChar (c : Char) : Piece :=
  if c.toNat < 0x80 then .byte (UInt8.ofNat c.toNat) else .raw c

def escapedByte? (high low : Char) : Option UInt8 :=
  match Text.hexValue? high, Text.hexValue? low with
  | some h, some l => some (UInt8.ofNat (h * 16 + l))
  | _, _ => none

def pieces : Text → List Piece
  | '%' :: high :: low :: rest =>
    match escapedByte? high low with
    | some b => .byte b :: pieces rest
    | none => .byte 0x25 :: pieces (high :: low :: rest)
  | c :: rest => Piece.ofChar c :: pieces rest
  | [] => []
termination_by structural part => part

def runs : List Piece → List UInt8 × List (Char × List UInt8)
  | [] => ([], [])
  | .byte b :: rest => (b :: (runs rest).1, (runs rest).2)
  | .raw c :: rest => ([], (c, (runs rest).1) :: (runs rest).2)

def decodeRuns? : List (Char × List UInt8) → Option Text
  | [] => some []
  | (c, run) :: rest =>
    match Utf8.decode? run, decodeRuns? rest with
    | some left, some right => some (c :: left ++ right)
    | _, _ => none

def assemble (found : List Piece) : Option Text :=
  match Utf8.decode? (runs found).1, decodeRuns? (runs found).2 with
  | some left, some right => some (left ++ right)
  | _, _ => none

def decode? (part : Text) : Option Text := assemble (pieces part)

end TypedPath.Percent
