import TypedPath.Pattern.Filling
import TypedPath.Proofs.Pattern.Pairing
import TypedPath.Proofs.Text.Percent

namespace TypedPath

def Assignment.text? (values : Assignment) (name : Text) : Option Text :=
  match values name with
  | some .none | none => none
  | some value => some value.toText

theorem Value.decode?_toComponent (value : Value) : Percent.decode? value.toComponent = some value.toText :=
  Percent.decode?_encode _

theorem Value.separator_not_mem_toComponent (value : Value) : Pattern.separator ∉ value.toComponent :=
  Percent.not_mem_encode (by decide) (by decide) _

namespace Segment

variable (values : Assignment)

def isOmitted (segment : Segment) : Bool :=
  segment.isParam && segment.isOptional && (segment.given? values).isNone

def IsProvided (segment : Segment) : Prop :=
  segment.isParam = true → segment.isOptional = false → (segment.given? values).isSome

instance (segment : Segment) : Decidable (segment.IsProvided values) :=
  inferInstanceAs (Decidable (segment.isParam = true → segment.isOptional = false →
    (segment.given? values).isSome))

def component (segment : Segment) : Text :=
  if segment.isParam then ((segment.given? values).map Value.toComponent).getD [] else segment.literal

theorem map_toText_given? (segment : Segment) :
    (segment.given? values).map Value.toText = values.text? segment.name := by
  unfold given? Assignment.text?
  cases values segment.name with
  | none => rfl
  | some value => cases value <;> rfl

theorem components_cons_ok_iff (segment : Segment) (segments : List Segment) (parts : List Text) :
    components values (segment :: segments) = .ok parts ↔
      segment.IsProvided values ∧ ∃ rest, components values segments = .ok rest ∧
        parts = if segment.isOmitted values then rest else segment.component values :: rest := by
  rw [components]
  unfold IsProvided isOmitted component
  cases segment.isParam with
  | false => cases components values segments <;> simp [Except.map, @eq_comm _ parts]
  | true =>
    cases segment.given? values with
    | some value => cases components values segments <;> simp [Except.map, @eq_comm _ parts]
    | none => cases segment.isOptional <;> simp [@eq_comm _ parts]

theorem components_eq_ok_iff (segments : List Segment) (parts : List Text) :
    components values segments = .ok parts ↔
      (∀ segment ∈ segments, segment.IsProvided values) ∧
        parts = (segments.filter fun segment => !segment.isOmitted values).map (component values) := by
  induction segments generalizing parts with
  | nil =>
    simp only [components, List.not_mem_nil, false_implies, implies_true, true_and, List.filter_nil,
      List.map_nil, Except.ok.injEq]
    exact eq_comm
  | cons segment segments ih =>
    rw [components_cons_ok_iff]
    simp only [ih, List.forall_mem_cons, List.filter_cons]
    cases segment.isOmitted values <;> simp <;> grind

variable {values}

theorem eq_some_of_given? {segment : Segment} {value : Value} (given : segment.given? values = some value) :
    values segment.name = some value := by
  unfold given? at given
  split at given
  · cases given
  · cases given
  · cases given
    assumption

theorem areWritable_of_all {segments : List Segment} (all : ∀ segment ∈ segments, segment.isWritable values = true) :
    areWritable values segments = true := by
  induction segments with
  | nil => rfl
  | cons segment segments ih =>
    obtain ⟨here, later⟩ := List.forall_mem_cons.mp all
    rw [areWritable, here, ih later, Bool.or_true, Bool.and_true]

theorem areWritable_of_provided {segments : List Segment} (provided : ∀ segment ∈ segments, segment.IsProvided values) :
    areWritable values segments = segments.all (isWritable values) := by
  induction segments with
  | nil => rfl
  | cons segment segments ih =>
    obtain ⟨here, later⟩ := List.forall_mem_cons.mp provided
    have reached : (segment.isParam && (segment.given? values).isNone && !segment.isOptional) = false := by
      by_contra missing
      simp only [Bool.not_eq_false, Bool.and_eq_true, Bool.not_eq_true'] at missing
      obtain ⟨⟨param, none⟩, required⟩ := missing
      rw [Option.isNone_iff_eq_none] at none
      have given := here param required
      rw [none] at given
      cases given
    rw [areWritable, reached, Bool.false_or, ih later, List.all_cons]

theorem given?_isSome {segment : Segment} (provided : segment.IsProvided values)
    (kept : segment.isOmitted values = false) (param : segment.isParam = true) :
    (segment.given? values).isSome := by
  cases optional : segment.isOptional with
  | false => exact provided param optional
  | true =>
    cases given : segment.given? values with
    | some value => rfl
    | none => simp [isOmitted, param, optional, given] at kept

theorem separator_not_mem_component {segment : Segment} (provided : segment.IsProvided values)
    (kept : segment.isOmitted values = false) (enclosed : Pattern.separator ∉ segment.literal) :
    Pattern.separator ∉ segment.component values := by
  unfold component
  split
  · rename_i param
    obtain ⟨value, given⟩ := Option.isSome_iff_exists.mp (given?_isSome provided kept param)
    rw [given]
    exact value.separator_not_mem_toComponent
  · exact enclosed

theorem value?_component {segment : Segment} (provided : segment.IsProvided values)
    (kept : segment.isOmitted values = false) :
    segment.value? (some (segment.component values)) =
      if segment.isParam then values.text? segment.name else none := by
  unfold value? component
  split
  · rename_i param
    obtain ⟨value, given⟩ := Option.isSome_iff_exists.mp (given?_isSome provided kept param)
    rw [← map_toText_given?, given]
    exact value.decode?_toComponent
  · rfl

theorem follow_component {segment : Segment} (provided : segment.IsProvided values)
    (kept : segment.isOmitted values = false) (exact : Bool) (segments : List Segment)
    (parts : List Text) (bound : Bindings) :
    follow exact (segment :: segments) (segment.component values :: parts) bound =
      follow exact segments parts (Pairing.record bound (segment, some (segment.component values))) := by
  have written := value?_component provided kept
  simp only [follow, Pairing.record]
  cases param : segment.isParam with
  | false => simp [value?, param, component]
  | true =>
    obtain ⟨value, given⟩ := Option.isSome_iff_exists.mp (given?_isSome provided kept param)
    have decoded : Percent.decode? (segment.component values) = some value.toText := by
      simp only [component, param, given, ite_true, Option.map_some, Option.getD_some]
      exact value.decode?_toComponent
    simp [value?, param, decoded]

def recordAll (values : Assignment) (segments : List Segment) (bound : Bindings) : Bindings :=
  segments.foldl (fun bound segment => Pairing.record bound (segment, some (segment.component values)))
    bound

theorem follow_components {front : List Segment} (provided : ∀ segment ∈ front, segment.IsProvided values)
    (kept : ∀ segment ∈ front, segment.isOmitted values = false) (exact : Bool)
    (back : List Segment) (parts : List Text) (bound : Bindings) :
    follow exact (front ++ back) (front.map (component values) ++ parts) bound =
      follow exact back parts (recordAll values front bound) := by
  induction front generalizing bound with
  | nil => rfl
  | cons segment front ih =>
    rw [List.forall_mem_cons] at provided kept
    rw [List.cons_append, List.map_cons, List.cons_append, follow_component provided.1 kept.1,
      ih provided.2 kept.2]
    rfl

theorem follow_omitted {back : List Segment} (omitted : ∀ segment ∈ back, segment.isOmitted values = true)
    (exact : Bool) (bound : Bindings) : follow exact back [] bound = .ok bound := by
  induction back with
  | nil => rfl
  | cons segment back ih =>
    rw [List.forall_mem_cons] at omitted
    have optional : segment.isOptional = true := by
      have first := omitted.1
      simp only [isOmitted, Bool.and_eq_true] at first
      exact first.1.2
    exact (follow_cons_nil ..).mpr ⟨optional, ih omitted.2⟩

theorem recordAll_represents {front : List Segment} (provided : ∀ segment ∈ front, segment.IsProvided values)
    (kept : ∀ segment ∈ front, segment.isOmitted values = false) {bound : Bindings}
    {value? : Text → Option Text} (represents : bound.Represents value?) :
    (recordAll values front bound).Represents fun name =>
      if name ∈ (front.filter isParam).map Segment.name then values.text? name else value? name := by
  induction front generalizing bound value? with
  | nil => simpa [recordAll] using represents
  | cons segment front ih =>
    rw [List.forall_mem_cons] at provided kept
    have written := value?_component provided.1 kept.1
    have step : recordAll values (segment :: front) bound =
        recordAll values front (Pairing.record bound (segment, some (segment.component values))) := rfl
    rw [step, Pairing.record, written]
    cases param : segment.isParam with
    | false =>
      simp only [List.filter_cons, param, Bool.false_eq_true, ite_false]
      exact ih provided.2 kept.2 represents
    | true =>
      obtain ⟨value, given⟩ := Option.isSome_iff_exists.mp (given?_isSome provided.1 kept.1 param)
      have text : values.text? segment.name = some value.toText := by
        rw [← map_toText_given?, given]
        rfl
      have extended := ih provided.2 kept.2 (represents.bind segment.name value.toText)
      simp only [ite_true, text]
      refine ⟨extended.nodup, fun name => (extended.lookup_eq name).trans ?_⟩
      by_cases same : name = segment.name
      · subst same
        simp [param, text]
      · simp only [List.filter_cons, param, ite_true, List.map_cons, List.mem_cons, same, false_or,
          ite_false]

end Segment

end TypedPath
