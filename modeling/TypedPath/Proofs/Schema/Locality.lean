import TypedPath.Proofs.Schema.Record

namespace TypedPath

def Issue.withoutInput (issue : Issue) : Issue := { issue with input := none }

namespace Outcome

/-- The same result, the same breakdown, or issues that differ in their inputs alone. -/
inductive Alike {α : Type} : Outcome α → Outcome α → Prop
  | ok (a : α) : Alike (.ok a) (.ok a)
  | issues {left right : List Issue} (same : left.map Issue.withoutInput = right.map Issue.withoutInput) :
    Alike (.error (.issues left)) (.error (.issues right))
  | breakdown (breakdown : Breakdown) : Alike (.error (.breakdown breakdown)) (.error (.breakdown breakdown))

variable {α β : Type}

theorem Alike.refl (outcome : Outcome α) : Alike outcome outcome := by
  rcases outcome with (issues | breakdown) | a
  · exact .issues rfl
  · exact .breakdown breakdown
  · exact .ok a

theorem Alike.eq_ok {a : α} {outcome : Outcome α} (alike : Alike (.ok a) outcome) : outcome = .ok a := by
  cases alike
  rfl

theorem Alike.map {left right : Outcome α} (alike : Alike left right) (f : α → β) :
    Alike (Except.map f left) (Except.map f right) := by
  cases alike with
  | ok a => exact .ok (f a)
  | issues same => exact .issues same
  | breakdown breakdown => exact .breakdown breakdown

theorem Alike.both {left left' : Outcome α} {right right' : Outcome β} (first : Alike left left')
    (second : Alike right right') : Alike (Outcome.both left right) (Outcome.both left' right') := by
  cases first with
  | breakdown breakdown => exact .breakdown breakdown
  | ok a =>
    cases second with
    | ok b => exact .ok (a, b)
    | issues more => exact .issues more
    | breakdown breakdown => exact .breakdown breakdown
  | issues same =>
    cases second with
    | ok b => exact .issues same
    | issues more => exact .issues (by rw [List.map_append, List.map_append, same, more])
    | breakdown breakdown => exact .breakdown breakdown

theorem alike_gather_map {γ : Type} {items : List γ} {left right : γ → Outcome α}
    (each : ∀ item ∈ items, Alike (left item) (right item)) :
    Alike (gather (items.map left)) (gather (items.map right)) := by
  induction items with
  | nil => exact .ok []
  | cons item items ih =>
    obtain ⟨first, later⟩ := List.forall_mem_cons.mp each
    exact (first.both (ih later)).map _

end Outcome

open Outcome (Alike)

theorem Field.alike_validateIn {field : Field Shape} {entries others : List (Value × Value)} (extra : ExtraPolicy)
    (agree : Value.findText? field.key entries = Value.findText? field.key others) :
    Alike (field.validateIn extra entries) (field.validateIn extra others) := by
  unfold validateIn readWith
  rw [← agree]
  split
  · exact .refl _
  · split
    · exact .refl _
    · exact .issues rfl

theorem Model.alike_validate {m : Model Shape} (ignores : m.extra = .ignore) {entries others : List (Value × Value)}
    (agree : ∀ field ∈ m.fields, Value.findText? field.key entries = Value.findText? field.key others) :
    Alike (m.validate (.map entries)) (m.validate (.map others)) := by
  have fields := Outcome.alike_gather_map fun field member =>
    Field.alike_validateIn m.extra (agree field member)
  rw [validate_map, validate_map, extras_ignore ignores, extras_ignore ignores]
  exact (fields.both (.ok [])).map _

end TypedPath
