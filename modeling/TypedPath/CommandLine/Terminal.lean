import TypedPath.Text.Basic

namespace TypedPath.Terminal

def escape : Char := Char.ofNat 0x1B

def isParameter (c : Char) : Bool := c.isDigit || c = ';' || c = '?'

/-- Reads on from `pending`, the part of a control sequence read so far, its last character
    first. A sequence is an escape, `[`, parameters and a letter. -/
def plainFrom (pending : Text) : Text → Text
  | [] => pending.reverse
  | c :: rest =>
    if c = escape then pending.reverse ++ plainFrom [c] rest
    else match pending with
      | [] => c :: plainFrom [] rest
      | [_] => if c = '[' then plainFrom (c :: pending) rest
        else pending.reverse ++ c :: plainFrom [] rest
      | _ => if isParameter c then plainFrom (c :: pending) rest
        else if c.isAlpha then plainFrom [] rest
        else pending.reverse ++ c :: plainFrom [] rest

def plain (text : Text) : Text := plainFrom [] text

end TypedPath.Terminal
