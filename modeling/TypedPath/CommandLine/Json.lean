import TypedPath.Pattern.Matching

namespace TypedPath.Json

def unit (n : Nat) : Text := '\\' :: 'u' :: Text.hexPadded 4 n

def escaped (c : Char) : Text :=
  let n := c.toNat
  if c = '"' ∨ c = '\\' then ['\\', c]
  else if c = '\n' then ['\\', 'n']
  else if c = '\r' then ['\\', 'r']
  else if c = '\t' then ['\\', 't']
  else if n = 0x0C then ['\\', 'f']
  else if n = 0x08 then ['\\', 'b']
  else if 0x20 ≤ n ∧ n < 0x7F then [c]
  else if n < 0x10000 then unit n
  else unit (0xD800 + (n - 0x10000) / 0x400) ++ unit (0xDC00 + (n - 0x10000) % 0x400)

def string (text : Text) : Text := '"' :: (text.flatMap escaped ++ ['"'])

def member (entry : Text × Text) : Text := string entry.1 ++ ": " ++ string entry.2

def object (bindings : Bindings) : Text :=
  let sorted := Sorting.sorted (fun left right => Text.precedes left.1 right.1) bindings
  '\x7b' :: (Text.join ", " (sorted.map member) ++ ['\x7d'])

end TypedPath.Json
