import TypedPath.Failure
import TypedPath.Proofs.Pattern.Built
import TypedPath.Proofs.Pattern.Filling

namespace TypedPath

def Assignment.over (first second : Assignment) : Assignment :=
  fun name => (first name).or (second name)

namespace Segment

theorem token_ofBody (optional : Bool) (body : Text) :
    (ofBody optional body).token = if optional then body ++ ['?'] else body := by
  unfold ofBody
  split <;> cases optional <;> simp [token, isParam, isOptional]

theorem token_ofComponent (component : Text) : (ofComponent component).token = component := by
  unfold ofComponent
  split
  · rename_i marked
    have whole := List.dropLast_append_getLast? '?' marked
    rw [token_ofBody, if_pos rfl, whole]
  · rw [token_ofBody, if_neg Bool.false_ne_true]

def literally (component : Text) : Segment := ⟨.static, component, []⟩

@[simp] theorem isParam_literally (component : Text) : (literally component).isParam = false := rfl

@[simp] theorem literal_literally (component : Text) : (literally component).literal = component := rfl

/-- No written value is read back as a parameter or as something optional. -/
theorem ofComponent_toComponent (value : Value) :
    ofComponent value.toComponent = literally value.toComponent := by
  have notMarked : value.toComponent.getLast? ≠ some '?' := fun marked =>
    Percent.not_mem_encode (by decide) (by decide) _ (List.mem_of_getLast? marked)
  have notParam : ':' ∉ value.toComponent := Percent.not_mem_encode (by decide) (by decide) _
  rw [ofComponent, if_neg notMarked]
  unfold ofBody
  split
  · rename_i name shape
    rw [shape] at notParam
    exact absurd List.mem_cons_self notParam
  · rfl

variable (values : Assignment)

def specialize? (segment : Segment) : Option Segment :=
  if segment.isParam then
    match segment.given? values with
    | some value => some (literally value.toComponent)
    | none => if segment.isOptional && (values segment.name).isSome then none else some segment
  else some segment

theorem specialize?_of_static {segment : Segment} (static : segment.isParam = false) :
    segment.specialize? values = some segment := by
  simp [specialize?, static]

theorem specialized?_eq_map_token (segment : Segment) :
    segment.specialized? values = (segment.specialize? values).map token := by
  unfold specialized? specialize? given?
  split
  · cases values segment.name with
    | none => simp
    | some value => cases value with
      | none => cases segment.isOptional <;> rfl
      | _ => rfl
  · rfl

theorem specialize?_eq_some {segment special : Segment} (kept : segment.specialize? values = some special) :
    special = segment ∨ ∃ value : Value, special = literally value.toComponent := by
  unfold specialize? at kept
  split at kept
  · split at kept
    · exact .inr ⟨_, (Option.some.inj kept).symm⟩
    · split at kept
      · cases kept
      · exact .inl (Option.some.inj kept).symm
  · exact .inl (Option.some.inj kept).symm

theorem specialize?_eq_self_iff {segment : Segment} (param : segment.isParam = true) :
    segment.specialize? values = some segment ↔
      values segment.name = none ∨ values segment.name = some .none ∧ segment.isOptional = false := by
  unfold specialize? given?
  rw [if_pos param]
  cases held : values segment.name with
  | none => simp
  | some value =>
    cases value with
    | none => cases segment.isOptional <;> simp
    | _ =>
      refine iff_of_false (fun same => ?_) (by simp)
      rw [← Option.some.inj same, isParam_literally] at param
      cases param

def IsCompiled (segment : Segment) : Prop :=
  ofComponent segment.token = segment ∧ Pattern.separator ∉ segment.token

theorem isCompiled_ofComponent {component : Text} (enclosed : Pattern.separator ∉ component) :
    (ofComponent component).IsCompiled := by
  unfold IsCompiled
  rw [token_ofComponent]
  exact ⟨rfl, enclosed⟩

theorem IsCompiled.specialize? {segment special : Segment} (compiled : segment.IsCompiled)
    (kept : segment.specialize? values = some special) : special.IsCompiled := by
  rcases specialize?_eq_some values kept with rfl | ⟨value, rfl⟩
  · exact compiled
  · exact ⟨ofComponent_toComponent value, value.separator_not_mem_toComponent⟩

end Segment

namespace Pattern

theorem Built.isCompiled {pattern : Pattern} (built : pattern.Built) {segment : Segment}
    (member : segment ∈ pattern.segments) : segment.IsCompiled := by
  rw [built.eq_compile] at member
  obtain ⟨component, found, rfl⟩ := List.mem_map.mp member
  exact Segment.isCompiled_ofComponent (Text.not_mem_of_mem_splitOn found)

theorem segments_compile_join {segments : List Segment} (compiled : ∀ segment ∈ segments, segment.IsCompiled)
    (some : segments ≠ []) :
    (compile (Text.join [separator] (segments.map Segment.token))).segments = segments := by
  have enclosed : ∀ token ∈ segments.map Segment.token, separator ∉ token := by
    intro token member
    obtain ⟨segment, found, rfl⟩ := List.mem_map.mp member
    exact (compiled segment found).2
  have again : segments.map (Segment.ofComponent ∘ Segment.token) = segments.map id :=
    List.map_congr_left fun segment member => (compiled segment member).1
  unfold compile
  rw [splitOn_join (by simpa using some) enclosed, List.map_map, again, List.map_id]

variable {pattern : Pattern} {values first second : Assignment}

theorem specialize_eq_join (pattern : Pattern) (values : Assignment) :
    pattern.specialize values =
      Text.join [separator] ((pattern.segments.filterMap (Segment.specialize? values)).map Segment.token) := by
  unfold specialize
  rw [List.map_filterMap]
  simp only [Segment.specialized?_eq_map_token]

/-- The segments of a pattern that was filled in part, unless all of it was dropped. -/
theorem Built.segments_compile_specialize (built : pattern.Built)
    (some : pattern.segments.filterMap (Segment.specialize? values) ≠ []) :
    (compile (pattern.specialize values)).segments = pattern.segments.filterMap (Segment.specialize? values) := by
  rw [specialize_eq_join]
  refine segments_compile_join (fun special member => ?_) some
  obtain ⟨segment, found, kept⟩ := List.mem_filterMap.mp member
  exact (built.isCompiled found).specialize? values kept

/-- The parameters that are left open are those of the pattern that were not given. -/
theorem mem_names_specialize_iff (built : pattern.Built) {name : Text} :
    name ∈ (compile (pattern.specialize values)).names ↔ ∃ segment ∈ pattern.segments, segment.isParam = true ∧
      segment.name = name ∧ segment.specialize? values = some segment := by
  by_cases none : pattern.segments.filterMap (Segment.specialize? values) = []
  · -- all of the pattern was dropped, and the empty text is a pattern without parameters
    rw [specialize_eq_join, none]
    refine iff_of_false List.not_mem_nil ?_
    rintro ⟨segment, member, _, _, kept⟩
    rw [List.filterMap_eq_nil_iff.mp none segment member] at kept
    cases kept
  · rw [names, built.segments_compile_specialize none]
    constructor
    · intro left
      obtain ⟨special, found, rfl⟩ := List.mem_map.mp left
      obtain ⟨member, param⟩ := List.mem_filter.mp found
      obtain ⟨segment, isSegment, kept⟩ := List.mem_filterMap.mp member
      rcases Segment.specialize?_eq_some values kept with rfl | ⟨value, rfl⟩
      · exact ⟨special, isSegment, param, rfl, kept⟩
      · cases param
    · rintro ⟨segment, member, param, rfl, kept⟩
      exact List.mem_map_of_mem (List.mem_filter.mpr ⟨List.mem_filterMap.mpr ⟨segment, member, kept⟩, param⟩)

end Pattern

namespace Segment

variable {first second : Assignment}

def IsServed (first : Assignment) (segment : Segment) : Prop :=
  segment.kind = .param → first segment.name ≠ some .none

theorem given?_eq_none_iff {values : Assignment} {segment : Segment} :
    segment.given? values = none ↔ values segment.name = none ∨ values segment.name = some .none := by
  unfold given?
  cases values segment.name with
  | none => simp
  | some value => cases value <;> simp

theorem given?_over {segment : Segment} {value : Value} (given : segment.given? first = some value) :
    segment.given? (first.over second) = some value := by
  unfold given? Assignment.over at *
  cases held : first segment.name with
  | none => simp [held] at given
  | some other => simpa [held] using given

theorem isOptional_of_isServed {segment : Segment} (served : segment.IsServed first)
    (param : segment.isParam = true) (absent : first segment.name = some .none) : segment.isOptional = true := by
  cases kind : segment.kind with
  | param => exact absurd absent (served kind)
  | optionalParam => simp [isOptional, kind]
  | static | optionalStatic => simp [isParam, kind] at param

/-- What becomes of a segment that is filled from `first`, and what is left of it to `second`. -/
theorem specialize?_cases {segment : Segment} (served : segment.IsServed first) (second : Assignment) :
    (segment.isParam = false ∧ segment.specialize? first = some segment) ∨
    (∃ value, segment.isParam = true ∧ segment.given? (first.over second) = some value ∧
      segment.specialize? first = some (literally value.toComponent)) ∨
    (first.over second segment.name = second segment.name ∧ segment.specialize? first = some segment) ∨
    (segment.isParam = true ∧ segment.isOptional = true ∧ first.over second segment.name = some .none ∧
      segment.specialize? first = none) := by
  cases param : segment.isParam with
  | false => exact .inl ⟨rfl, specialize?_of_static first param⟩
  | true =>
    refine .inr ?_
    cases given : segment.given? first with
    | some value => exact .inl ⟨value, rfl, given?_over given, by simp [specialize?, param, given]⟩
    | none =>
      refine .inr ?_
      rcases given?_eq_none_iff.mp given with unknown | absent
      · exact .inl ⟨by simp [Assignment.over, unknown], by simp [specialize?, param, given, unknown]⟩
      · have optional := isOptional_of_isServed served param absent
        exact .inr ⟨rfl, optional, by simp [Assignment.over, absent],
          by simp [specialize?, param, given, optional, absent]⟩

theorem specialize?_congr {values others : Assignment} {segment : Segment}
    (same : values segment.name = others segment.name) :
    segment.specialize? values = segment.specialize? others := by
  unfold specialize? given?
  rw [same]

theorem bind_specialize? {segment : Segment} (served : segment.IsServed first) (second : Assignment) :
    (segment.specialize? first).bind (specialize? second) = segment.specialize? (first.over second) := by
  rcases specialize?_cases served second with ⟨static, kept⟩ | ⟨value, param, given, kept⟩ | ⟨same, kept⟩ |
    ⟨param, optional, absent, dropped⟩
  · rw [kept, Option.bind_some, specialize?_of_static _ static, specialize?_of_static _ static]
  · rw [kept, Option.bind_some, specialize?_of_static _ (isParam_literally _)]
    simp [specialize?, param, given]
  · rw [kept, Option.bind_some, specialize?_congr same]
  · have none : segment.given? (first.over second) = none := given?_eq_none_iff.mpr (.inr absent)
    rw [dropped, Option.bind_none]
    simp [specialize?, param, optional, none, absent]

theorem components_filterMap_specialize? {segments : List Segment}
    (served : ∀ segment ∈ segments, segment.IsServed first) (second : Assignment) :
    components second (segments.filterMap (specialize? first)) = components (first.over second) segments := by
  induction segments with
  | nil => rfl
  | cons segment segments ih =>
    rw [List.forall_mem_cons] at served
    have rest := ih served.2
    rcases specialize?_cases served.1 second with ⟨static, kept⟩ | ⟨value, param, given, kept⟩ | ⟨same, kept⟩ |
      ⟨param, optional, absent, dropped⟩
    · simp [kept, components, static, rest]
    · simp [kept, components, param, given, rest]
    · have given : segment.given? (first.over second) = segment.given? second := by
        unfold given?
        rw [same]
      simp [kept, components, given, rest]
    · have none : segment.given? (first.over second) = none := given?_eq_none_iff.mpr (.inr absent)
      simp [dropped, components, param, optional, none, rest]

end Segment

namespace Pattern

variable {pattern : Pattern} {first : Assignment}

def written (pattern : Pattern) (values : Assignment) : Except (List Issue) Text :=
  (pattern.fill values).mapError fun missing => (FormatFault.missing missing.name pattern.text).issues

theorem fill_specialize (built : pattern.Built) (served : ∀ segment ∈ pattern.segments, segment.IsServed first)
    (second : Assignment) :
    (compile (pattern.specialize first)).fill second = pattern.fill (first.over second) := by
  have whole := Segment.components_filterMap_specialize? served second
  unfold fill
  by_cases none : pattern.segments.filterMap (Segment.specialize? first) = []
  · -- the text is empty, and an empty text is a pattern of one empty literal
    rw [specialize_eq_join, ← whole, none]
    rfl
  · rw [built.segments_compile_specialize none, whole]

theorem specialize_specialize (built : pattern.Built)
    (served : ∀ segment ∈ pattern.segments, segment.IsServed first) (second : Assignment) :
    (compile (pattern.specialize first)).specialize second = pattern.specialize (first.over second) := by
  have whole : (pattern.segments.filterMap (Segment.specialize? first)).filterMap (Segment.specialize? second) =
      pattern.segments.filterMap (Segment.specialize? (first.over second)) := by
    rw [List.filterMap_filterMap]
    exact List.filterMap_congr fun segment member => Segment.bind_specialize? (served segment member) second
  rw [specialize_eq_join _ (first.over second), ← whole]
  by_cases none : pattern.segments.filterMap (Segment.specialize? first) = []
  · rw [specialize_eq_join pattern, none]
    rfl
  · rw [specialize_eq_join, built.segments_compile_specialize none]

/-- Values given one after the other give the path, the issues and the pattern that all of them give
    at once. The values, and the texts they are written as, have no lone surrogates. -/
theorem staged_filling (built : pattern.Built) (served : ∀ segment ∈ pattern.segments, segment.IsServed first)
    (second : Assignment) :
    (compile (pattern.specialize first)).written second = pattern.written (first.over second) ∧
      (compile (pattern.specialize first)).specialize second = pattern.specialize (first.over second) := by
  refine ⟨?_, specialize_specialize built served second⟩
  unfold written
  rw [fill_specialize built served]
  cases pattern.fill (first.over second) <;> rfl

theorem staged_filling_page :
    let pattern := compile "/:id/:tab?/:page"
    let first : Assignment := fun name => [("id".toList, .text ":a?"), ("tab".toList, .none)].lookup name
    let second : Assignment := fun name => [("tab".toList, .text "b"), ("page".toList, .text "5")].lookup name
    pattern.specialize first = "/%3Aa%3F/:page" ∧ (∀ segment ∈ pattern.segments, segment.IsServed first) ∧
      (compile (pattern.specialize first)).written second = pattern.written (first.over second) ∧
      (compile (pattern.specialize first)).specialize second = pattern.specialize (first.over second) := by
  intro pattern first second
  have served : ∀ segment ∈ pattern.segments, segment.IsServed first := by
    intro segment member kind
    have named : segment.name = "id".toList ∨ segment.name = "page".toList := by
      revert segment
      decide +kernel
    rcases named with name | name <;> rw [name] <;> exact nofun
  exact ⟨by decide +kernel, served, staged_filling (.compiled _) served second⟩

end Pattern

end TypedPath
