import TypedPath.Proofs.Number.WholeNumber
import TypedPath.Proofs.Validator.Bracketing
import TypedPath.Proofs.Validator.Repetition

namespace TypedPath

namespace Bracketing

theorem leaves_ne_nil (tree : Bracketing) : tree.leaves ≠ [] := by
  induction tree with
  | leaf validator => exact List.cons_ne_nil _ _
  | both left right leftIh _ => exact List.append_ne_nil_of_left_ne_nil leftIh _

/-- The run: each leaf is the default once more, by induction on the bracketing. -/
theorem repeats (tree : Bracketing) (defaults : ∀ leaf ∈ tree.leaves, leaf = .stringify) (value : Value) :
    Verdict.Repeats tree.leaves.length (Stringify.run value) (tree.validator.validate value) := by
  have produces := Stringify.produces_run value
  induction tree with
  | leaf validator =>
    cases defaults validator List.mem_cons_self
    exact Verdict.repeats_once produces
  | both left right leftIh rightIh =>
    have first := leftIh fun leaf member => defaults leaf (List.mem_append_left _ member)
    have second := rightIh fun leaf member => defaults leaf (List.mem_append_right _ member)
    obtain ⟨count, counted⟩ := Nat.exists_eq_add_one_of_ne_zero (List.length_eq_zero_iff.not.mpr left.leaves_ne_nil)
    rw [counted] at first
    rw [leaves, List.length_append, counted]
    exact first.combine produces second

end Bracketing

namespace Stringify

variable {pairs : List (Text × Value)} {s : Value}

def containerIssues (pairs : List (Text × Value)) : List Issue :=
  (pairs.filter fun pair => pair.2.isContainer).map fun pair => ⟨.notSingle, some [.text pair.1], some pair.2⟩

theorem filterMap_containerIssue?_keyed (pairs : List (Text × Value)) :
    (Value.keyed pairs).filterMap containerIssue? = containerIssues pairs := by
  unfold Value.keyed containerIssues
  rw [List.filterMap_map, ← List.filterMap_eq_map, List.filterMap_filter]
  refine List.filterMap_congr fun pair _ => ?_
  simp only [Function.comp_apply, containerIssue?]

theorem run_keyed_eq_containerIssues (distinct : (pairs.map Prod.fst).Nodup)
    (container : ¬ ∀ pair ∈ pairs, pair.2.isContainer = false) :
    run (.map (Value.keyed pairs)) = .error (.rejected ⟨containerIssues pairs, .check⟩) := by
  rw [run_keyed_of_container distinct container, filterMap_containerIssue?_keyed]

theorem map_fst_texts_eq (pairs : List (Text × Value)) :
    (texts pairs).map Prod.fst = (pairs.filter fun pair => !pair.2.isNone).map Prod.fst := by
  unfold texts
  rw [List.map_filterMap, ← List.filterMap_eq_map, List.filterMap_filter]
  refine List.filterMap_congr fun pair _ => ?_
  unfold text?
  cases pair.2.isNone <;> rfl

theorem text?_of_isText {value : Value} (text : value.IsText) : text? value = some value := by
  obtain ⟨t, rfl⟩ := text
  rfl

theorem texts_texts (pairs : List (Text × Value)) : texts (texts pairs) = texts pairs := by
  have same : ∀ pair ∈ texts pairs, (text? pair.2).map (fun value => (pair.1, value)) = some pair := by
    intro pair member
    rw [text?_of_isText (isText_of_mem_texts pair member)]
    rfl
  exact (List.filterMap_congr same).trans (List.filterMap_some)

theorem run_texts (distinct : (pairs.map Prod.fst).Nodup) :
    run (.map (Value.keyed (texts pairs))) = .ok (.map (Value.keyed (texts pairs))) := by
  refine (run_keyed_eq_ok_iff (distinct.sublist map_fst_texts)).mpr ⟨fun pair member => ?_, ?_⟩
  · obtain ⟨t, text⟩ := isText_of_mem_texts pair member
    rw [text]
    exact ⟨rfl, rfl⟩
  · rw [texts_texts]

/-- The default writes a mapping exactly when no value is made of others and none is too long. For values that are
    made of others it tells one issue each, and at one that is too long it breaks down. What it writes has the keys
    whose values are not `none`, in their order, with texts. It writes the same of that again, and so do all of its
    kind together; when they reject the mapping, each tells the issues once more. -/
theorem validate_projection (distinct : (pairs.map Prod.fst).Nodup) :
    ((∃ s, Validator.stringify.validate (.map (Value.keyed pairs)) = .ok s) ↔ ∀ pair ∈ pairs, pair.2.HasText) ∧
      ((¬ ∀ pair ∈ pairs, pair.2.isContainer = false) →
        Validator.stringify.validate (.map (Value.keyed pairs)) =
            .error (.rejected ⟨containerIssues pairs, .check⟩) ∧
          ∀ tree : Bracketing, (∀ leaf ∈ tree.leaves, leaf = .stringify) → ∃ rejection,
            tree.validator.validate (.map (Value.keyed pairs)) = .error (.rejected rejection) ∧
              rejection.issues = (List.replicate tree.leaves.length (containerIssues pairs)).flatten) ∧
      ((∀ pair ∈ pairs, pair.2.isContainer = false) → (¬ ∀ pair ∈ pairs, pair.2.isWritable = true) →
        Validator.stringify.validate (.map (Value.keyed pairs)) = .error (.broken .oversized) ∧
          ∀ tree : Bracketing, (∀ leaf ∈ tree.leaves, leaf = .stringify) →
            tree.validator.validate (.map (Value.keyed pairs)) = .error (.broken .oversized)) ∧
      ∀ s, Validator.stringify.validate (.map (Value.keyed pairs)) = .ok s →
        (∃ out, s = .map (Value.keyed out) ∧
          out.map Prod.fst = (pairs.filter fun pair => !pair.2.isNone).map Prod.fst ∧ ∀ pair ∈ out, pair.2.IsText) ∧
        Validator.stringify.validate s = .ok s ∧
        ∀ tree : Bracketing, (∀ leaf ∈ tree.leaves, leaf = .stringify) →
          tree.validator.validate (.map (Value.keyed pairs)) = .ok s := by
  have accepts (s : Value) : Validator.stringify.validate (.map (Value.keyed pairs)) = .ok s ↔
      (∀ pair ∈ pairs, pair.2.HasText) ∧ s = .map (Value.keyed (texts pairs)) :=
    run_keyed_eq_ok_iff distinct
  refine ⟨?_, ?_, ?_, ?_⟩
  · constructor
    · rintro ⟨s, written⟩
      exact ((accepts s).mp written).1
    · exact fun texted => ⟨_, (accepts _).mpr ⟨texted, rfl⟩⟩
  · intro container
    have refused := run_keyed_eq_containerIssues distinct container
    refine ⟨refused, fun tree defaults => ?_⟩
    have repeats := tree.repeats defaults (.map (Value.keyed pairs))
    rw [refused] at repeats
    exact repeats.of_rejected
  · intro single long
    have stopped := run_keyed_of_long distinct single long
    refine ⟨stopped, fun tree defaults => ?_⟩
    have repeats := tree.repeats defaults (.map (Value.keyed pairs))
    rw [stopped] at repeats
    exact repeats.of_broken
  · intro s written
    obtain ⟨texted, rfl⟩ := (accepts s).mp written
    refine ⟨⟨texts pairs, rfl, map_fst_texts_eq pairs, isText_of_mem_texts⟩, run_texts distinct, ?_⟩
    intro tree defaults
    have repeats := tree.repeats defaults (.map (Value.keyed pairs))
    have once : run (.map (Value.keyed pairs)) = .ok (.map (Value.keyed (texts pairs))) := written
    rw [once] at repeats
    exact repeats.of_ok

def threefold : Bracketing := .both (.leaf .stringify) (.both (.leaf .stringify) (.leaf .stringify))

theorem validate_projection_threefold :
    let flags : List (Text × Value) :=
      [("b", .bool true), ("a", .none), ("c", .decimal (.finite ⟨false, 150, -2⟩))]
    let mixed : List (Text × Value) := [("b", .list []), ("a", .int 5), ("c", .map [])]
    (flags.map Prod.fst).Nodup ∧ (mixed.map Prod.fst).Nodup ∧
      threefold.validator.validate (.map (Value.keyed flags)) =
        .ok (.map (Value.keyed [("b", .text "true"), ("c", .text "1.50")])) ∧
      ∃ rejection, threefold.validator.validate (.map (Value.keyed mixed)) = .error (.rejected rejection) ∧
        rejection.issues = (List.replicate 3
          [⟨.notSingle, some [.text "b"], some (.list [])⟩, ⟨.notSingle, some [.text "c"], some (.map [])⟩]).flatten := by
  intro flags mixed
  have flagsDistinct : (flags.map Prod.fst).Nodup := by decide
  have mixedDistinct : (mixed.map Prod.fst).Nodup := by decide
  have defaults : ∀ leaf ∈ threefold.leaves, leaf = .stringify := by
    simp [threefold, Bracketing.leaves]
  have written : Validator.stringify.validate (.map (Value.keyed flags)) =
      .ok (.map (Value.keyed [("b", .text "true"), ("c", .text "1.50")])) := rfl
  have container : ¬ ∀ pair ∈ mixed, pair.2.isContainer = false := by decide
  exact ⟨flagsDistinct, mixedDistinct, ((validate_projection flagsDistinct).2.2.2 _ written).2.2 _ defaults,
    ((validate_projection mixedDistinct).2.1 container).2 _ defaults⟩

/-- A number with one digit too many is a single value, and yet it is not written. -/
theorem long_not_stringified :
    let long : List (Text × Value) := [("a", .int WholeNumber.leastLong)]
    (long.map Prod.fst).Nodup ∧ (∀ pair ∈ long, pair.2.isContainer = false) ∧
      ¬ ∃ s, Validator.stringify.validate (.map (Value.keyed long)) = .ok s := by
  intro long
  have distinct : (long.map Prod.fst).Nodup := List.pairwise_singleton _ _
  refine ⟨distinct, List.forall_mem_singleton.mpr rfl, ?_⟩
  rintro ⟨s, written⟩
  obtain ⟨_, short⟩ := ((run_keyed_eq_ok_iff distinct).mp written).1 _ List.mem_cons_self
  cases short.symm.trans WholeNumber.isWritable_leastLong

end Stringify

end TypedPath
