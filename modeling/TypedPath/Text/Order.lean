import TypedPath.Text.Basic

namespace TypedPath

def Text.precedes : Text → Text → Bool
  | [], _ => true
  | _ :: _, [] => false
  | a :: left, b :: right => if a = b then precedes left right else a.toNat < b.toNat

namespace Sorting

variable {α : Type} (before : α → α → Bool)

def insert (a : α) : List α → List α
  | [] => [a]
  | b :: rest => if before a b then a :: b :: rest else b :: insert a rest

def sorted : List α → List α
  | [] => []
  | a :: rest => insert before a (sorted rest)

end Sorting

end TypedPath
