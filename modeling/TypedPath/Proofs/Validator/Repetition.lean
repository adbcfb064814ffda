import TypedPath.Proofs.Schema.Telling
import TypedPath.Proofs.Validator.Merge
import TypedPath.Proofs.Validator.Stringify

namespace TypedPath

namespace Stringify

/-- Texts under distinct names, or a rejection that tells why, or a stop at a value that is too long. -/
inductive Produces : Verdict → Prop
  | written {pairs : List (Text × Value)} (distinct : (pairs.map Prod.fst).Nodup)
    (texts : ∀ pair ∈ pairs, pair.2.IsText) : Produces (.ok (.map (Value.keyed pairs)))
  | rejected {rejection : Rejection} (told : rejection.issues ≠ []) : Produces (.error (.rejected rejection))
  | broken : Produces (.error (.broken .oversized))

inductive Reads : Outcome (Value × Value) → Prop
  | entry (name : Text) (value : Value) : Reads (.ok (.text name, value))
  | issues (issues : List Issue) : Reads (.error (.issues issues))

theorem reads_validateEntry (entry : Value × Value) :
    Reads (validateEntry (Shape.text.validateIn .ignore .free) (Shape.any.validateIn .ignore .free) entry) := by
  obtain ⟨key, value⟩ := entry
  cases key with
  | text name => exact .entry name value
  | _ => exact .issues _

theorem putEntries_cases {outcomes : List (Outcome (Value × Value))} (all : ∀ outcome ∈ outcomes, Reads outcome)
    (whole : Value) (built : List (Text × Value)) (distinct : (built.map Prod.fst).Nodup) (found : List Issue) :
    (∃ pairs, (pairs.map Prod.fst).Nodup ∧
        putEntries .free whole (Value.keyed built) found outcomes = .ok (Value.keyed pairs)) ∨
      ∃ issues, putEntries .free whole (Value.keyed built) found outcomes = .error (.issues issues) := by
  induction outcomes generalizing built found with
  | nil =>
    unfold putEntries
    cases found.isEmpty with
    | true => exact .inl ⟨built, distinct, rfl⟩
    | false => exact .inr ⟨found, rfl⟩
  | cons outcome outcomes ih =>
    obtain ⟨first, later⟩ := List.forall_mem_cons.mp all
    cases first with
    | entry name value =>
      obtain ⟨more, put, moreDistinct⟩ := Value.exists_put_keyed distinct name value
      have step : putEntries .free whole (Value.keyed built) found (.ok (.text name, value) :: outcomes) =
          putEntries .free whole (Value.put (.text name) value (Value.keyed built)) found outcomes := rfl
      rw [step, put]
      exact ih later more moreDistinct found
    | issues issues => exact ih later built distinct (found ++ issues)

theorem validate_shape_cases (value : Value) :
    (∃ pairs, (pairs.map Prod.fst).Nodup ∧ shape.validate value = .ok (.map (Value.keyed pairs))) ∨
      ∃ issues, issues ≠ [] ∧ shape.validate value = .error (.issues issues) := by
  have told := shape.isTold_validateIn .ignore .free value
  have cases : (∃ pairs, (pairs.map Prod.fst).Nodup ∧ shape.validate value = .ok (.map (Value.keyed pairs))) ∨
      ∃ issues, shape.validate value = .error (.issues issues) := by
    cases value with
    | map entries =>
      have read : ∀ outcome ∈ entries.map (validateEntry (Shape.text.validateIn .ignore .free)
          (Shape.any.validateIn .ignore .free)), Reads outcome := by
        intro outcome member
        obtain ⟨entry, _, rfl⟩ := List.mem_map.mp member
        exact reads_validateEntry entry
      show (∃ pairs, _ ∧ Outcome.keeping [] _ (readEntries _ _ .free _ entries) = _) ∨
        ∃ issues, Outcome.keeping [] _ (readEntries _ _ .free _ entries) = _
      unfold readEntries
      rcases putEntries_cases read (.map entries) [] List.nodup_nil [] with ⟨pairs, distinct, put⟩ | ⟨issues, put⟩
      · have put : putEntries .free (.map entries) [] [] _ = _ := put
        exact .inl ⟨pairs, distinct, by rw [put]; rfl⟩
      · have put : putEntries .free (.map entries) [] [] _ = _ := put
        exact .inr ⟨issues, by rw [put]; rfl⟩
    | _ => exact .inr ⟨_, rfl⟩
  refine cases.imp_right fun ⟨issues, refused⟩ => ⟨issues, fun none => told ?_, refused⟩
  rw [← none]
  exact refused

theorem produces_run (value : Value) : Produces (run value) := by
  unfold run
  rcases validate_shape_cases (input value) with ⟨pairs, distinct, read⟩ | ⟨issues, told, refused⟩
  · rw [read]
    show Produces (Refusal.ofCheck (entries (Value.keyed pairs)))
    rcases entries_keyed_cases pairs with texted | container | ⟨single, long⟩
    · rw [entries_keyed_of_texts texted]
      exact .written (distinct.sublist map_fst_texts) isText_of_mem_texts
    · rw [entries_keyed_of_container container]
      exact .rejected fun none => container (filterMap_containerIssue?_eq_nil_iff.mp none)
    · rw [entries_keyed_of_long single long]
      exact .broken
  · rw [refused]
    exact .rejected told

end Stringify

namespace Merge

theorem entries_keyed_of_held {left right : List (Text × Value)}
    (held : ∀ pair ∈ right, left.lookup pair.1 = some pair.2) (texts : ∀ pair ∈ right, pair.2.IsText) :
    entries (Value.keyed left) (Value.keyed right) = (Value.keyed left, []) := by
  induction right with
  | nil => rfl
  | cons pair right ih =>
    obtain ⟨here, later⟩ := List.forall_mem_cons.mp held
    obtain ⟨⟨text, isText⟩, moreTexts⟩ := List.forall_mem_cons.mp texts
    have clear : clash? (Value.keyed left) (.text pair.1, pair.2) = none := by
      unfold clash?
      rw [Value.find?_keyed, here, isText]
      simp only [Value.same_text, decide_true, if_true]
    show entries (Value.keyed left) ((.text pair.1, pair.2) :: Value.keyed right) = _
    rw [entries_cons, clear, Value.put_keyed_of_lookup here, ih later moreTexts]
    rfl

theorem values_keyed_self {pairs : List (Text × Value)} (distinct : (pairs.map Prod.fst).Nodup)
    (texts : ∀ pair ∈ pairs, pair.2.IsText) :
    values (.map (Value.keyed pairs)) (.map (Value.keyed pairs)) = .ok (.map (Value.keyed pairs)) := by
  have held : ∀ pair ∈ pairs, pairs.lookup pair.1 = some pair.2 := fun pair member =>
    (lookup_eq_some_iff_mem distinct).mpr member
  have put := entries_keyed_of_held held texts
  rw [values_keyed_of_no_issues distinct (by rw [put]), put]

end Merge

/-- The verdict of one validator, and that of `count` of the same kind side by side. -/
inductive Verdict.Repeats (count : Nat) : Verdict → Verdict → Prop
  | accepted (entries : List (Value × Value)) : Repeats count (.ok (.map entries)) (.ok (.map entries))
  | rejected {once whole : Rejection} (same : whole.issues = (List.replicate count once.issues).flatten) :
    Repeats count (.error (.rejected once)) (.error (.rejected whole))
  | broken (breakdown : Breakdown) : Repeats count (.error (.broken breakdown)) (.error (.broken breakdown))

namespace Verdict

variable {once left right whole : Verdict} {count more : Nat}

theorem repeats_once (produces : Stringify.Produces once) : Repeats 1 once once := by
  cases produces with
  | written distinct texts => exact .accepted _
  | rejected told => exact .rejected (List.append_nil _).symm
  | broken => exact .broken _

/-- One step: texts are merged with themselves, and issues are told one after the other. -/
theorem Repeats.combine (produces : Stringify.Produces once) (first : Repeats (count + 1) once left)
    (second : Repeats more once right) : Repeats (count + 1 + more) once (Validator.combine left right) := by
  cases produces with
  | written distinct texts =>
    cases first
    cases second
    rw [Validator.combine, Merge.values_keyed_self distinct texts]
    exact .accepted _
  | @rejected rejection told =>
    cases first with
    | @rejected _ first same =>
      cases second with
      | @rejected _ second alsoSame =>
        have some : first.issues ++ second.issues ≠ [] := by
          rw [same, List.replicate_succ, List.flatten_cons, List.append_assoc]
          exact List.append_ne_nil_of_left_ne_nil told _
        rw [Validator.combine, Refusal.ofSides_of_ne_nil some]
        refine .rejected ?_
        rw [List.replicate_add, List.flatten_append, same, alsoSame]
  | broken =>
    cases first
    exact .broken _

theorem Repeats.of_ok {value : Value} (repeats : Repeats count (.ok value) whole) : whole = .ok value := by
  cases repeats
  rfl

theorem Repeats.of_rejected {rejection : Rejection} (repeats : Repeats count (.error (.rejected rejection)) whole) :
    ∃ told, whole = .error (.rejected told) ∧ told.issues = (List.replicate count rejection.issues).flatten := by
  cases repeats with
  | rejected same => exact ⟨_, rfl, same⟩

theorem Repeats.of_broken {breakdown : Breakdown} (repeats : Repeats count (.error (.broken breakdown)) whole) :
    whole = .error (.broken breakdown) := by
  cases repeats
  rfl

end Verdict

namespace Validator

def repeated : Nat → Validator
  | 0 => .stringify
  | more + 1 => .both (repeated more) .stringify

theorem repeats_repeated (more : Nat) (value : Value) :
    Verdict.Repeats (more + 1) (Stringify.run value) ((repeated more).validate value) := by
  have produces := Stringify.produces_run value
  induction more with
  | zero => exact Verdict.repeats_once produces
  | succ more ih => exact ih.combine produces (Verdict.repeats_once produces)

end Validator

end TypedPath
