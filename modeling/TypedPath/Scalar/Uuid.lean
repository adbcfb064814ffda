import TypedPath.Text.Utf8

namespace TypedPath

structure Uuid where
  digits : List (Fin 16)
  length_digits : digits.length = 32
deriving DecidableEq, Repr

namespace Uuid

inductive Fault
  | character (found : Char) (position : Nat)
  | length (found : Nat)
  | groupCount (found : Nat)
  | groupLength (group found expected : Nat)
deriving DecidableEq, Repr

def Fault.message : Fault → Text
  | .character found position =>
    "invalid character: found `" ++ [found] ++ "` at " ++ Text.ofNat position
  | .length found => "invalid length: found " ++ Text.ofNat found
  | .groupCount found => "invalid group count: expected 5, found " ++ Text.ofNat found
  | .groupLength group found expected =>
    "invalid group length in group " ++ Text.ofNat group ++ ": expected " ++
      Text.ofNat expected ++ ", found " ++ Text.ofNat found

def hexText (digits : List (Fin 16)) : Text := digits.map fun digit => Nat.digitChar digit.val

def toText (u : Uuid) : Text :=
  let text := hexText u.digits
  text.take 8 ++ '-' :: ((text.drop 8).take 4) ++ '-' :: ((text.drop 12).take 4) ++
    '-' :: ((text.drop 16).take 4) ++ '-' :: text.drop 20

def digit? (c : Char) : Option (Fin 16) :=
  match Text.hexValue? c with
  | some n => if h : n < 16 then some ⟨n, h⟩ else none
  | none => none

def ofDigits? (digits : List (Fin 16)) : Option Uuid :=
  if h : digits.length = 32 then some ⟨digits, h⟩ else none

def simple? (text : Text) : Option Uuid := (text.mapM digit?).bind ofDigits?

def groupLengths : List Nat := [8, 4, 4, 4, 12]

def grouped? (text : Text) : Option Uuid :=
  match text.splitOn '-' with
  | [a, b, c, d, e] =>
    if [a, b, c, d, e].map List.length = groupLengths then simple? (a ++ b ++ c ++ d ++ e)
    else none
  | _ => none

def unwrapped (text : Text) : Option (Text × Nat) :=
  match text with
  | '{' :: inner => if inner.getLast? = some '}' then some (inner.dropLast, 1) else none
  | _ => (Text.after? "urn:uuid:" text).map fun inner => (inner, 9)

def size (text : Text) : Nat := (Utf8.encode text).length

def simpleSize : Nat := 32

def groupedSize : Nat := 36

def greatestSize : Nat := 45

/-- The part of a text in which a fault is looked for, and the position from which it is counted. A
    text of the size of a bare identifier is looked at as one, and so is what stands inside braces
    or after the scheme when it has the size of one with hyphens. -/
def examined (text : Text) : Text × Nat :=
  if size text = simpleSize ∨ size text = groupedSize then (text, 0)
  else match unwrapped text with
    | some (inner, before) => if size inner = groupedSize then (inner, 0) else (inner, before)
    | none => (text, 0)

def strayCharacter? (position : Nat) : Text → Option Fault
  | [] => none
  | c :: rest =>
    if c = '-' ∨ (Text.hexValue? c).isSome then
      strayCharacter? (position + size [c]) rest
    else some (.character c position)

/-- The first group that is not as long as it should be. The last one is blamed with everything that
    comes after its place in a bare identifier, so that what closes or moves it counts as well. -/
def misplacedGroup (size : Nat) : (group : Nat) → (lengths expected : List Nat) → Fault
  | group, length :: lengths, expected :: next :: rest =>
    if length = expected then misplacedGroup size (group + 1) lengths (next :: rest)
    else .groupLength group length expected
  | group, _, expected => .groupLength group (size - 24) (expected.headD 0)

def faultOf (text : Text) : Fault :=
  if greatestSize < size text then .length (size text)
  else
    let (inner, before) := examined text
    match strayCharacter? before inner with
    | some fault => fault
    | none =>
      let groups := inner.splitOn '-'
      if groups.length = 1 ∧ before = 0 ∧ size inner ≠ groupedSize then .length inner.length
      else if groups.length ≠ groupLengths.length then .groupCount groups.length
      else misplacedGroup text.length 0 (groups.map List.length) groupLengths

def parse? (text : Text) : Option Uuid :=
  match unwrapped text with
  | some (inner, _) => grouped? inner
  | none => if text.length = simpleSize then simple? text else grouped? text

def read (text : Text) : Except Fault Uuid :=
  match parse? text with
  | some u => .ok u
  | none => .error (faultOf text)

end Uuid

end TypedPath
