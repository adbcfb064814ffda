import TypedPath.Schema.Limits

namespace TypedPath

inductive Setback
  | issues (issues : List Issue)
  | breakdown (breakdown : Breakdown)

abbrev Outcome (α : Type) := Except Setback α

namespace Outcome

def fail {α : Type} (problem : Problem) (input : Value) : Outcome α :=
  .error (.issues [⟨problem, some [], some input⟩])

def broken {α : Type} (breakdown : Breakdown) : Outcome α := .error (.breakdown breakdown)

def within {α : Type} (step : Value) (outcome : Outcome α) : Outcome α :=
  outcome.mapError fun
    | .issues issues => .issues (issues.map (Issue.within step))
    | .breakdown breakdown => .breakdown breakdown

def both {α β : Type} : Outcome α → Outcome β → Outcome (α × β)
  | .ok a, .ok b => .ok (a, b)
  | .error (.breakdown breakdown), _ => .error (.breakdown breakdown)
  | .error (.issues issues), .error (.issues more) => .error (.issues (issues ++ more))
  | .error (.issues issues), .ok _ => .error (.issues issues)
  | _, .error setback => .error setback

def gather {α : Type} : List (Outcome α) → Outcome (List α)
  | [] => .ok []
  | outcome :: rest => (both outcome (gather rest)).map fun (a, results) => a :: results

theorem both_eq_ok_iff {α β : Type} {left : Outcome α} {right : Outcome β} {a : α} {b : β} :
    both left right = .ok (a, b) ↔ left = .ok a ∧ right = .ok b := by
  rcases left with (issues | breakdown) | a' <;> rcases right with (issues' | breakdown') | b' <;>
    simp [both]

theorem gather_eq_ok_iff {α : Type} {outcomes : List (Outcome α)} {results : List α} :
    gather outcomes = .ok results ↔ outcomes = results.map .ok := by
  induction outcomes generalizing results with
  | nil => cases results <;> simp [gather]
  | cons outcome rest ih =>
    constructor
    · intro h
      simp only [gather] at h
      cases hb : both outcome (gather rest) with
      | error setback => rw [hb] at h; cases h
      | ok pair =>
        obtain ⟨a, others⟩ := pair
        rw [hb] at h
        cases h
        obtain ⟨rfl, hr⟩ := both_eq_ok_iff.mp hb
        rw [ih.mp hr]
        rfl
    · intro h
      cases results with
      | nil => cases h
      | cons a others =>
        rw [List.map_cons, List.cons.injEq] at h
        obtain ⟨rfl, hr⟩ := h
        simp only [gather, both_eq_ok_iff.mpr ⟨rfl, ih.mpr hr⟩]
        rfl

def ofReading {α β : Type} (wrap : α → β) (input : Value) : Except Problem α → Outcome β
  | .ok a => .ok (wrap a)
  | .error problem => fail problem input

def ofLimits (limits : List Limit) (input value : Value) : Outcome Value :=
  match Limit.checkAll value limits with
  | .ok none => .ok value
  | .ok (some problem) => fail problem input
  | .error breakdown => broken breakdown

def keeping (limits : List Limit) (input : Value) (outcome : Outcome Value) : Outcome Value :=
  outcome.bind (ofLimits limits input)

end Outcome

end TypedPath
