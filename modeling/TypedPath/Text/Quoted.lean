import TypedPath.Text.Printable

namespace TypedPath.Text

def quoteMark (text : Text) : Char :=
  if text.contains '\'' && !text.contains '"' then '"' else '\''

def escapeNumber (n : Nat) : Text :=
  if n < 0x100 then "\\x" ++ hexPadded 2 n
  else if n < 0x10000 then "\\u" ++ hexPadded 4 n
  else "\\U" ++ hexPadded 8 n

def escaped (mark c : Char) : Text :=
  if c = mark ∨ c = '\\' then ['\\', c]
  else if c = '\n' then ['\\', 'n']
  else if c = '\r' then ['\\', 'r']
  else if c = '\t' then ['\\', 't']
  else if isPrintable c then [c]
  else escapeNumber c.toNat

def quoted (text : Text) : Text :=
  let mark := quoteMark text
  mark :: (text.flatMap (escaped mark) ++ [mark])

end TypedPath.Text
