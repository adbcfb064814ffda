import TypedPath.Schema.Outcome

namespace TypedPath.Merge

-- Merging what two validators made of one value. A key that both have must have the same value in
-- both; the value of the right one is kept.

def conflictAt (key left right : Value) : Issue :=
  ⟨.conflict, some [key], some (.tuple [left, right])⟩

def clash? (merged : List (Value × Value)) (entry : Value × Value) : Option Issue :=
  match Value.find? entry.1 merged with
  | some old => if old.same entry.2 then none else some (conflictAt entry.1 old entry.2)
  | none => none

def entries (merged : List (Value × Value)) :
    List (Value × Value) → List (Value × Value) × List Issue
  | [] => (merged, [])
  | entry :: rest =>
    let (all, issues) := entries (Value.put entry.1 entry.2 merged) rest
    (all, (clash? merged entry).toList ++ issues)

def signals (left right : List (Value × Value)) : Bool :=
  right.any fun entry => (Value.find? entry.1 left).any (·.signals entry.2)

def conflicts {α : Type} (issues : List Issue) : Outcome α :=
  if issues.all Issue.isWritable then .error (.issues issues) else .broken .oversized

def mappings (left right : List (Value × Value)) : Outcome Value :=
  if signals left right then .broken .signalling
  else match entries left right with
    | (merged, []) => .ok (.map merged)
    | (_, issues) => conflicts issues

def values (left right : Value) : Outcome Value :=
  match left, right with
  | .map a, .map b => mappings a b
  | _, _ =>
    if left.signals right then .broken .signalling
    else if left.same right then .ok left
    else conflicts [⟨.conflict, some [], none⟩]

end TypedPath.Merge
