import TypedPath.Proofs.Route.Completion
import TypedPath.Proofs.Validator.Repetition

namespace TypedPath

namespace Model

variable {m n : Model Shape} {name : Text} {entries written : List (Value × Value)}

end Model

namespace Stringify

variable {entries : List (Value × Value)} {pairs : List (Text × Value)} {name : Text} {v : Value}

theorem keysWithin_of_putEntries {whole : Value} {built result : List (Value × Value)} {found : List Issue}
    (put : putEntries .free whole built found (entries.map (validateEntry (Shape.text.validateIn .ignore .free)
      (Shape.any.validateIn .ignore .free))) = .ok result) : found = [] ∧ Value.KeysWithin Value.IsText entries := by
  induction entries generalizing built found with
  | nil =>
    rw [List.map_nil, putEntries] at put
    split at put
    · rename_i none
      exact ⟨List.isEmpty_iff.mp none, List.forall_mem_nil _⟩
    · cases put
  | cons entry entries ih =>
    obtain ⟨key, value⟩ := entry
    cases key with
    | text name =>
      obtain ⟨none, later⟩ := ih put
      exact ⟨none, List.forall_mem_cons.mpr ⟨⟨name, rfl⟩, later⟩⟩
    | _ =>
      obtain ⟨none, _⟩ := ih put
      simp at none

theorem keysWithin_of_validate (read : shape.validate (.map entries) = .ok v) :
    Value.KeysWithin Value.IsText entries := by
  change Outcome.keeping [] _ (readEntries _ _ .free _ entries) = .ok v at read
  have read := (Outcome.keeping_eq_ok_iff.mp read).1
  unfold readEntries at read
  cases put : putEntries .free (.map entries) [] [] (entries.map (validateEntry
      (Shape.text.validateIn .ignore .free) (Shape.any.validateIn .ignore .free))) with
  | error setback =>
    rw [put] at read
    cases read
  | ok built => exact (keysWithin_of_putEntries put).2

/-- What the default accepts has texts for keys, and each value is written by itself. -/
theorem exists_keyed_of_run (distinct : (entries.map Prod.fst).Pairwise fun a b => a.same b = false)
    (accepted : run (.map entries) = .ok v) :
    ∃ pairs, entries = Value.keyed pairs ∧ (pairs.map Prod.fst).Nodup ∧
      (∀ pair ∈ pairs, pair.2.HasText) ∧ v = .map (Value.keyed (texts pairs)) := by
  have texts : Value.KeysWithin Value.IsText entries := by
    unfold run at accepted
    cases read : shape.validate (input (.map entries)) with
    | error setback =>
      rw [read] at accepted
      cases accepted
    | ok checked => exact keysWithin_of_validate read
  obtain ⟨pairs, rfl⟩ := Value.exists_eq_keyed texts
  have nodup : (pairs.map Prod.fst).Nodup := by
    rw [Value.keyed, List.map_map, List.pairwise_map] at distinct
    refine List.pairwise_map.mpr (distinct.imp fun apart same => ?_)
    rw [Function.comp_apply, Function.comp_apply, Value.same_text, decide_eq_false_iff_not] at apart
    exact apart same
  obtain ⟨texted, rfl⟩ := (run_keyed_eq_ok_iff nodup).mp accepted
  exact ⟨pairs, rfl, nodup, texted, rfl⟩

end Stringify

namespace Route

variable {route : Route} {pattern : Pattern} {schema : Schema} {formatSchema : Option Schema} {exact : Bool}
  {segment : Segment} {entries : List (Value × Value)} {text : Text}

theorem eq_of_name_eq (route : Route) {other : Segment} (member : segment ∈ route.pattern.segments)
    (inOther : other ∈ route.pattern.segments) (param : segment.isParam = true) (otherParam : other.isParam = true)
    (same : other.name = segment.name) : other = segment :=
  List.inj_on_of_nodup_map route.names_nodup (List.mem_filter.mpr ⟨inOther, otherParam⟩)
    (List.mem_filter.mpr ⟨member, param⟩) same

end Route

end TypedPath
