import TypedPath.Value.Basic

namespace TypedPath

abbrev Style := Value → Value

namespace Style

def paddedInt (width : Nat) (n : Int) : Text :=
  if n < 0 then '-' :: Text.padded (width - 1) n.natAbs else Text.padded width n.natAbs

-- A value that a style is not made for stays as it is.

def zeroPadded (width : Nat) : Style
  | .int n => .text (paddedInt width n)
  | .bool b => .text (paddedInt width (if b then 1 else 0))
  | value => value

def universalMillis : Style
  | .moment m => .text m.milliText
  | value => value

end Style

end TypedPath
