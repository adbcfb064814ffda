import TypedPath.Proofs.Schema.Record

namespace TypedPath

namespace Outcome

variable {α β : Type}

def breakdown? : Outcome α → Option Breakdown
  | .error (.breakdown breakdown) => some breakdown
  | _ => none

def found : Outcome α → List Issue
  | .error (.issues issues) => issues
  | _ => []

theorem breakdown?_eq_some_iff {outcome : Outcome α} {breakdown : Breakdown} :
    outcome.breakdown? = some breakdown ↔ outcome = .error (.breakdown breakdown) := by
  rcases outcome with (issues | other) | a
  · exact iff_of_false nofun nofun
  · simp [breakdown?]
  · exact iff_of_false nofun nofun

theorem found_map (f : α → β) (outcome : Outcome α) : found (Except.map f outcome) = outcome.found := by
  rcases outcome with (issues | breakdown) | a <;> rfl

theorem found_within (step : Value) (outcome : Outcome α) :
    (outcome.within step).found = outcome.found.map (Issue.within step) := by
  rcases outcome with (issues | breakdown) | a <;> rfl

theorem breakdown?_both (left : Outcome α) (right : Outcome β) :
    (both left right).breakdown? = left.breakdown?.or right.breakdown? := by
  rcases left with (issues | breakdown) | a <;> rcases right with (more | other) | b <;> rfl

theorem found_both {left : Outcome α} {right : Outcome β} (unbroken : (both left right).breakdown? = none) :
    (both left right).found = left.found ++ right.found := by
  rw [breakdown?_both, Option.or_eq_none_iff] at unbroken
  rcases left with (issues | breakdown) | a
  · rcases right with (more | other) | b
    · rfl
    · cases unbroken.2
    · exact (List.append_nil issues).symm
  · cases unbroken.1
  · rcases right with (more | other) | b <;> rfl

end Outcome

end TypedPath
