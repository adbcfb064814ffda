import TypedPath.Proofs.Validator.Merge
import TypedPath.Validator.Basic

namespace TypedPath

theorem lookup_filterMap_snd {α β : Type} {pairs : List (Text × α)} (nodup : (pairs.map Prod.fst).Nodup)
    (write? : α → Option β) (name : Text) :
    (pairs.filterMap fun pair => (write? pair.2).map fun value => (pair.1, value)).lookup name =
      (pairs.lookup name).bind write? := by
  induction pairs with
  | nil => rfl
  | cons pair rest ih =>
    obtain ⟨key, value⟩ := pair
    rw [List.map_cons, List.nodup_cons] at nodup
    rw [List.filterMap_cons, List.lookup_cons]
    by_cases same : name = key
    · subst same
      rw [beq_self_eq_true]
      cases written : write? value with
      | some text => simp [written]
      | none =>
        have absent := lookup_eq_none_of_not_mem nodup.1
        simp [written, ih nodup.2, absent]
    · have differs : (name == key) = false := beq_eq_false_iff_ne.mpr same
      rw [differs]
      cases write? value with
      | some text => simp only [Option.map_some, List.lookup_cons, differs, ih nodup.2]
      | none => exact ih nodup.2

theorem putEntries_keyed (whole : Value) (built : List (Value × Value)) (pairs : List (Text × Value)) :
    putEntries .free whole built [] ((Value.keyed pairs).map .ok) =
      .ok (pairs.foldl (fun built (pair : Text × Value) => Value.put (.text pair.1) pair.2 built) built) := by
  induction pairs generalizing built with
  | nil => rfl
  | cons pair rest ih => exact ih _

theorem Shape.validate_mapping_keyed {item : Shape} {pairs : List (Text × Value)}
    (nodup : (pairs.map Prod.fst).Nodup)
    (read : ∀ pair ∈ pairs, item.validateIn .ignore .free pair.2 = .ok pair.2) :
    (Shape.mapping .text item).validate (.map (Value.keyed pairs)) = .ok (.map (Value.keyed pairs)) := by
  have each : (Value.keyed pairs).map (validateEntry (Shape.text.validateIn .ignore .free)
      (item.validateIn .ignore .free)) = (Value.keyed pairs).map .ok := by
    unfold Value.keyed
    rw [List.map_map, List.map_map]
    apply List.map_congr_left
    intro pair member
    simp only [Function.comp_apply, validateEntry, read pair member]
    rfl
  have put := @Value.foldl_put_keyed [] pairs nodup
  have built : putEntries .free (.map (Value.keyed pairs)) [] [] ((Value.keyed pairs).map .ok) =
      .ok (Value.keyed pairs) := (putEntries_keyed _ [] pairs).trans (congrArg _ put)
  show Outcome.keeping [] _ (readEntries _ _ .free _ (Value.keyed pairs)) = _
  unfold readEntries
  rw [each, built]
  rfl

/-- A single value that is not too long to be written. -/
def Value.HasText (value : Value) : Prop := value.isContainer = false ∧ value.isWritable = true

namespace Stringify

theorem validate_shape_keyed {pairs : List (Text × Value)} (nodup : (pairs.map Prod.fst).Nodup) :
    shape.validate (.map (Value.keyed pairs)) = .ok (.map (Value.keyed pairs)) :=
  Shape.validate_mapping_keyed nodup fun _ _ => rfl

def text? (value : Value) : Option Value :=
  if value.isNone then none else some (.text (scalarText value))

def texts (pairs : List (Text × Value)) : List (Text × Value) :=
  pairs.filterMap fun pair => (text? pair.2).map fun value => (pair.1, value)

theorem filterMap_written?_keyed (pairs : List (Text × Value)) :
    (Value.keyed pairs).filterMap written? = Value.keyed (texts pairs) := by
  unfold Value.keyed texts
  rw [List.filterMap_map, List.map_filterMap]
  apply congrArg (fun write => List.filterMap write pairs)
  funext pair
  simp only [Function.comp_apply, written?, text?]
  split <;> rfl

theorem isText_of_mem_texts {pairs : List (Text × Value)} : ∀ pair ∈ texts pairs, pair.2.IsText := by
  intro pair member
  obtain ⟨given, _, written⟩ := List.mem_filterMap.mp member
  unfold text? at written
  split at written
  · cases written
  · cases written
    exact ⟨_, rfl⟩

theorem isWritable_of_mem_texts {pairs : List (Text × Value)} : ∀ pair ∈ texts pairs, pair.2.isWritable = true := by
  intro pair member
  obtain ⟨t, isText⟩ := isText_of_mem_texts pair member
  rw [isText]
  rfl

theorem containerIssue?_eq_none_iff (entry : Value × Value) :
    containerIssue? entry = none ↔ entry.2.isContainer = false := by
  unfold containerIssue?
  cases entry.2.isContainer <;> simp

variable {pairs : List (Text × Value)}

theorem filterMap_containerIssue?_eq_nil_iff :
    (Value.keyed pairs).filterMap containerIssue? = [] ↔ ∀ pair ∈ pairs, pair.2.isContainer = false := by
  unfold Value.keyed
  rw [List.filterMap_map, List.filterMap_eq_nil_iff]
  simp only [Function.comp_apply, containerIssue?_eq_none_iff]

theorem all_isWritable_keyed_iff :
    (Value.keyed pairs).all (·.2.isWritable) = true ↔ ∀ pair ∈ pairs, pair.2.isWritable = true := by
  unfold Value.keyed
  rw [List.all_map, List.all_eq_true]
  rfl

theorem entries_keyed_of_container (container : ¬ ∀ pair ∈ pairs, pair.2.isContainer = false) :
    entries (Value.keyed pairs) = .error (.issues ((Value.keyed pairs).filterMap containerIssue?)) := by
  unfold entries
  split
  · rename_i none
    exact absurd (filterMap_containerIssue?_eq_nil_iff.mp none) container
  · rfl

theorem entries_keyed_of_texts (texted : ∀ pair ∈ pairs, pair.2.HasText) :
    entries (Value.keyed pairs) = .ok (.map (Value.keyed (texts pairs))) := by
  unfold entries
  rw [filterMap_containerIssue?_eq_nil_iff.mpr fun pair member => (texted pair member).1, filterMap_written?_keyed]
  exact if_pos (all_isWritable_keyed_iff.mpr fun pair member => (texted pair member).2)

theorem entries_keyed_of_long (single : ∀ pair ∈ pairs, pair.2.isContainer = false)
    (long : ¬ ∀ pair ∈ pairs, pair.2.isWritable = true) :
    entries (Value.keyed pairs) = .error (.breakdown .oversized) := by
  unfold entries
  rw [filterMap_containerIssue?_eq_nil_iff.mpr single]
  exact if_neg fun short => long (all_isWritable_keyed_iff.mp short)

/-- The default writes every value, or tells of those that are made of others, or is stopped by one that is too
    long. -/
theorem entries_keyed_cases (pairs : List (Text × Value)) :
    (∀ pair ∈ pairs, pair.2.HasText) ∨ (¬ ∀ pair ∈ pairs, pair.2.isContainer = false) ∨
      (∀ pair ∈ pairs, pair.2.isContainer = false) ∧ ¬ ∀ pair ∈ pairs, pair.2.isWritable = true := by
  by_cases single : ∀ pair ∈ pairs, pair.2.isContainer = false
  · by_cases short : ∀ pair ∈ pairs, pair.2.isWritable = true
    · exact .inl fun pair member => ⟨single pair member, short pair member⟩
    · exact .inr (.inr ⟨single, short⟩)
  · exact .inr (.inl single)

theorem entries_keyed_eq_ok_iff {v : Value} : entries (Value.keyed pairs) = .ok v ↔
    (∀ pair ∈ pairs, pair.2.HasText) ∧ v = .map (Value.keyed (texts pairs)) := by
  rcases entries_keyed_cases pairs with texted | container | ⟨single, long⟩
  · rw [entries_keyed_of_texts texted]
    exact ⟨fun made => ⟨texted, (Except.ok.inj made).symm⟩, fun ⟨_, made⟩ => congrArg _ made.symm⟩
  · rw [entries_keyed_of_container container]
    exact iff_of_false nofun fun ⟨texted, _⟩ => container fun pair member => (texted pair member).1
  · rw [entries_keyed_of_long single long]
    exact iff_of_false nofun fun ⟨texted, _⟩ => long fun pair member => (texted pair member).2

theorem run_keyed (nodup : (pairs.map Prod.fst).Nodup) :
    run (.map (Value.keyed pairs)) = Refusal.ofCheck (entries (Value.keyed pairs)) := by
  have same : input (.map (Value.keyed pairs)) = .map (Value.keyed pairs) := rfl
  unfold run
  rw [same, validate_shape_keyed nodup]
  rfl

theorem run_keyed_eq_ok_iff (nodup : (pairs.map Prod.fst).Nodup) {v : Value} :
    run (.map (Value.keyed pairs)) = .ok v ↔
      (∀ pair ∈ pairs, pair.2.HasText) ∧ v = .map (Value.keyed (texts pairs)) := by
  rw [run_keyed nodup, ← entries_keyed_eq_ok_iff]
  cases entries (Value.keyed pairs) with
  | error setback => exact iff_of_false nofun nofun
  | ok other =>
    constructor <;> (intro h; cases h; rfl)

theorem run_keyed_of_container (distinct : (pairs.map Prod.fst).Nodup)
    (container : ¬ ∀ pair ∈ pairs, pair.2.isContainer = false) :
    run (.map (Value.keyed pairs)) =
      .error (.rejected ⟨(Value.keyed pairs).filterMap containerIssue?, .check⟩) := by
  rw [run_keyed distinct, entries_keyed_of_container container]
  rfl

theorem run_keyed_of_long (distinct : (pairs.map Prod.fst).Nodup) (single : ∀ pair ∈ pairs, pair.2.isContainer = false)
    (long : ¬ ∀ pair ∈ pairs, pair.2.isWritable = true) :
    run (.map (Value.keyed pairs)) = .error (.broken .oversized) := by
  rw [run_keyed distinct, entries_keyed_of_long single long]
  rfl

theorem map_fst_texts : ((texts pairs).map Prod.fst).Sublist (pairs.map Prod.fst) := by
  induction pairs with
  | nil => exact List.Sublist.refl _
  | cons pair rest ih =>
    unfold texts at ih ⊢
    rw [List.filterMap_cons]
    cases text? pair.2 with
    | none => exact ih.cons _
    | some text => exact ih.cons_cons _

theorem lookup_texts (nodup : (pairs.map Prod.fst).Nodup) (name : Text) :
    (texts pairs).lookup name = (pairs.lookup name).bind text? :=
  lookup_filterMap_snd nodup text? name

end Stringify

end TypedPath
