import TypedPath.Proofs.Pattern.RoundTrip

namespace TypedPath

namespace Segment

theorem exists_of_lookup_foldl_record {bound : Bindings} {entries : List (Segment × Option Text)} {name : Text}
    (held : ((entries.foldl Pairing.record bound).lookup name).isSome) :
    (bound.lookup name).isSome ∨ ∃ entry ∈ entries, entry.1.isParam = true ∧ entry.1.name = name := by
  induction entries generalizing bound with
  | nil => exact .inl held
  | cons entry entries ih =>
    rcases ih held with earlier | ⟨other, member, later⟩
    · unfold Pairing.record at earlier
      split at earlier
      · rename_i value found
        rw [Bindings.lookup_bind] at earlier
        by_cases same : name = entry.1.name
        · refine .inr ⟨entry, List.mem_cons_self, ?_, same.symm⟩
          by_contra static
          rw [value?, if_neg static] at found
          cases found
        · rw [if_neg same] at earlier
          exact .inl earlier
      · exact .inl earlier
    · exact .inr ⟨other, List.mem_cons_of_mem _ member, later⟩

theorem mem_names_of_follow {exact : Bool} {segments : List Segment} {parts : List Text} {bound result : Bindings}
    (followed : follow exact segments parts bound = .ok result) {name : Text} (held : (result.lookup name).isSome) :
    (bound.lookup name).isSome ∨ name ∈ (segments.filter isParam).map Segment.name := by
  obtain ⟨pairing, _, rfl⟩ := (follow_eq_ok_iff ..).mp followed
  rcases exists_of_lookup_foldl_record held with earlier | ⟨entry, member, param, rfl⟩
  · exact .inl earlier
  · exact .inr (List.mem_map_of_mem (List.mem_filter.mpr ⟨(List.of_mem_zip member).1, param⟩))

theorem follow_without_parts {exact : Bool} {segments : List Segment} {bound result : Bindings} :
    follow exact segments [] bound = .ok result ↔
      (∀ segment ∈ segments, segment.isOptional = true) ∧ result = bound := by
  induction segments with
  | nil =>
    rw [follow_nil]
    simp
  | cons segment segments ih =>
    rw [follow_cons_nil, ih, List.forall_mem_cons, and_assoc]

theorem follow_unbound {exact : Bool} {front back : List Segment} {segment : Segment} {parts : List Text}
    {bound result : Bindings} (param : segment.isParam = true) (unbound : result.lookup segment.name = none)
    (followed : follow exact (front ++ segment :: back) parts bound = .ok result) :
    (∀ other ∈ segment :: back, other.isOptional = true) ∧
      ∀ name, (result.lookup name).isSome → (bound.lookup name).isSome ∨
        name ∈ (front.filter isParam).map Segment.name := by
  induction front generalizing parts bound with
  | nil =>
    cases parts with
    | nil =>
      obtain ⟨optional, rfl⟩ := follow_without_parts.mp followed
      exact ⟨optional, fun name held => .inl held⟩
    | cons part parts =>
      have held := follow_param_lookup_isSome param followed
      rw [unbound] at held
      cases held
  | cons first front ih =>
    obtain ⟨taken, _, rest⟩ := (follow_cons ..).mp followed
    obtain ⟨optional, names⟩ := ih rest
    refine ⟨optional, fun name held => ?_⟩
    rcases names name held with earlier | later
    · have step : (([(first, taken)].foldl Pairing.record bound).lookup name).isSome := earlier
      rcases exists_of_lookup_foldl_record step with before | ⟨entry, member, isParam, same⟩
      · exact .inl before
      · cases List.mem_singleton.mp member
        apply Or.inr
        rw [List.filter_cons, if_pos isParam]
        exact List.mem_cons.mpr (.inl same.symm)
    · apply Or.inr
      rw [List.filter_cons]
      split
      · exact List.mem_cons_of_mem _ later
      · exact later

theorem kind_eq_optionalParam {segment : Segment} (param : segment.isParam = true)
    (optional : segment.isOptional = true) : segment.kind = .optionalParam := by
  cases kind : segment.kind with
  | optionalParam => rfl
  | param => simp [isOptional, kind] at optional
  | static | optionalStatic => simp [isParam, kind] at param

theorem isParam_of_isOptional {segment : Segment} (optional : segment.isOptional = true)
    (other : segment.kind ≠ .optionalStatic) : segment.isParam = true := by
  cases kind : segment.kind with
  | param | optionalParam => simp [isParam, kind]
  | optionalStatic => exact absurd kind other
  | static => simp [isOptional, kind] at optional

end Segment

namespace Pattern

def IsOrdered (pattern : Pattern) : Prop :=
  pattern.segments.Pairwise fun earlier later => earlier.kind = .optionalParam → later.kind ≠ .optionalStatic

/-- No optional literal comes after an optional parameter that is not bound. -/
def OmitsAtEnd (pattern : Pattern) (bound : Bindings) : Prop :=
  pattern.segments.Pairwise fun earlier later =>
    earlier.kind = .optionalParam → bound.lookup earlier.name = none → later.kind ≠ .optionalStatic

instance (pattern : Pattern) (bound : Bindings) : Decidable (pattern.OmitsAtEnd bound) :=
  inferInstanceAs (Decidable (pattern.segments.Pairwise fun earlier later =>
    earlier.kind = .optionalParam → bound.lookup earlier.name = none → later.kind ≠ .optionalStatic))

theorem exists_bound_front (bound : Bindings) (segments : List Segment) :
    ∃ front back, segments = front ++ back ∧
      (∀ segment ∈ front, segment.isParam = true → (bound.lookup segment.name).isSome) ∧
      ∀ segment ∈ back.head?, segment.isParam = true ∧ bound.lookup segment.name = none := by
  let isBound (segment : Segment) : Bool := !segment.isParam || (bound.lookup segment.name).isSome
  refine ⟨segments.takeWhile isBound, segments.dropWhile isBound, (List.takeWhile_append_dropWhile ..).symm, ?_, ?_⟩
  · intro segment member param
    have held := List.all_eq_true.mp List.all_takeWhile segment member
    simpa [isBound, param] using held
  · intro segment member
    have stopped := List.head?_dropWhile_not isBound segments
    rw [Option.mem_def.mp member] at stopped
    simpa [isBound] using stopped

/-- The first parameter of a pattern takes a component, of which a path has at least one. -/
theorem front_ne_nil_of_unbound {pattern : Pattern} {front back : List Segment} {segment : Segment} {exact : Bool}
    {path : Text} {bound : Bindings} (matched : pattern.matchPath exact path = .ok bound)
    (split : pattern.segments = front ++ segment :: back) (param : segment.isParam = true)
    (unbound : bound.lookup segment.name = none) : front ≠ [] := by
  intro none
  subst none
  obtain ⟨part, parts, components⟩ := List.exists_cons_of_ne_nil (List.splitOn_ne_nil separator path)
  unfold matchPath at matched
  rw [split, components, List.nil_append] at matched
  have bounded := Segment.follow_param_lookup_isSome param matched
  rw [unbound] at bounded
  cases bounded

theorem not_bound_twice {pattern : Pattern} (nodup : pattern.names.Nodup) {front back : List Segment}
    (split : pattern.segments = front ++ back) {segment : Segment} (member : segment ∈ back)
    (param : segment.isParam = true) : segment.name ∉ (front.filter Segment.isParam).map Segment.name := by
  intro inFront
  have inBack : segment.name ∈ (back.filter Segment.isParam).map Segment.name :=
    List.mem_map_of_mem (List.mem_filter.mpr ⟨member, param⟩)
  rw [Pattern.names, split, List.filter_append, List.map_append] at nodup
  exact (List.nodup_append.mp nodup).2.2 _ inFront _ inBack rfl

/-- What a match leaves unbound are the optional parameters that end the pattern, if no optional literal
    comes after them. -/
theorem OmitsAtEnd.exists_unbound_end {pattern : Pattern} {exact : Bool} {path : Text} {bound : Bindings}
    (last : pattern.OmitsAtEnd bound) (built : pattern.Built) (nodup : pattern.names.Nodup)
    (matched : pattern.matchPath exact path = .ok bound) :
    ∃ front back, pattern.segments = front ++ back ∧ front ≠ [] ∧
      (∀ segment ∈ front, segment.isParam = true → (bound.lookup segment.name).isSome) ∧
      ∀ segment ∈ back, segment.kind = .optionalParam ∧ bound.lookup segment.name = none := by
  obtain ⟨front, back, split, held, stopped⟩ := exists_bound_front bound pattern.segments
  cases back with
  | nil =>
    rw [List.append_nil] at split
    exact ⟨front, [], by rw [split, List.append_nil], split ▸ built.segments_ne_nil, held, by simp⟩
  | cons segment back =>
    obtain ⟨param, unbound⟩ := stopped segment rfl
    have leading := front_ne_nil_of_unbound matched split param unbound
    unfold matchPath at matched
    rw [split] at matched
    obtain ⟨optional, names⟩ := Segment.follow_unbound param unbound matched
    have kind := Segment.kind_eq_optionalParam param (optional segment List.mem_cons_self)
    unfold OmitsAtEnd at last
    rw [split] at last
    have later := List.pairwise_cons.mp (List.pairwise_append.mp last).2.1
    refine ⟨front, segment :: back, split, leading, held, List.forall_mem_cons.mpr ⟨⟨kind, unbound⟩, ?_⟩⟩
    intro other member
    have inBack := List.mem_cons_of_mem segment member
    have otherParam := Segment.isParam_of_isOptional (optional other inBack) (later.1 other member kind unbound)
    refine ⟨Segment.kind_eq_optionalParam otherParam (optional other inBack), ?_⟩
    by_contra bounded
    rw [← ne_eq, Option.ne_none_iff_isSome] at bounded
    rcases names other.name bounded with earlier | inFront
    · cases earlier
    · exact not_bound_twice nodup split inBack otherParam inFront

theorem IsOrdered.omitsAtEnd {pattern : Pattern} (ordered : pattern.IsOrdered) (bound : Bindings) :
    pattern.OmitsAtEnd bound :=
  ordered.imp fun apart kind _ => apart kind

/-- Whatever matches binds every parameter that is not optional. -/
theorem lookup_isSome_of_matchPath {pattern : Pattern} {exact : Bool} {path : Text} {bound : Bindings}
    (matched : pattern.matchPath exact path = .ok bound) {segment : Segment} (member : segment ∈ pattern.segments)
    (required : segment.kind = .param) : (bound.lookup segment.name).isSome := by
  obtain ⟨front, back, split⟩ := List.append_of_mem member
  have param : segment.isParam = true := by simp [Segment.isParam, required]
  by_contra unbound
  unfold matchPath at matched
  rw [split] at matched
  have optional := (Segment.follow_unbound param (Option.not_isSome_iff_eq_none.mp unbound) matched).1 segment
    List.mem_cons_self
  simp [Segment.isOptional, required] at optional

theorem mem_names_of_matchPath {pattern : Pattern} {exact : Bool} {path : Text} {bound : Bindings}
    (matched : pattern.matchPath exact path = .ok bound) {pair : Text × Text} (member : pair ∈ bound) :
    pair.1 ∈ pattern.names := by
  have held : (bound.lookup pair.1).isSome :=
    List.lookup_isSome_iff.mpr ⟨pair, member, beq_self_eq_true pair.1⟩
  rcases Segment.mem_names_of_follow matched held with earlier | name
  · cases earlier
  · exact name

theorem mem_names_of_mem_keys {pattern : Pattern} {exact : Bool} {path : Text} {bound : Bindings}
    (matched : pattern.matchPath exact path = .ok bound) {name : Text} (member : name ∈ bound.map Prod.fst) :
    name ∈ pattern.names := by
  obtain ⟨pair, inside, rfl⟩ := List.mem_map.mp member
  exact mem_names_of_matchPath matched inside

/-- Where values are missing for the optional parameters that end the pattern and for no others, the
    pattern is filled and the path binds those values again. -/
theorem exists_fill_matchPath {pattern : Pattern} (built : pattern.Built) {values : Assignment}
    {front back : List Segment} (split : pattern.segments = front ++ back) (some : front ≠ [])
    (given : ∀ segment ∈ front, segment.isParam = true → (values.text? segment.name).isSome)
    (absent : ∀ segment ∈ back, segment.kind = .optionalParam ∧ values.text? segment.name = none) (exact : Bool) :
    ∃ path bound, pattern.fill values = .ok path ∧ pattern.matchPath exact path = .ok bound ∧
      bound.Represents (pattern.texts? values) := by
  have givenSome (segment : Segment) : (segment.given? values).isSome = (values.text? segment.name).isSome := by
    rw [← Segment.map_toText_given?, Option.isSome_map]
  have kept : ∀ segment ∈ front, segment.isOmitted values = false := by
    intro segment member
    cases param : segment.isParam with
    | false => simp [Segment.isOmitted, param]
    | true => simp [Segment.isOmitted, ← Option.not_isSome, givenSome, given segment member param]
  have omitted : ∀ segment ∈ back, segment.isOmitted values = true := by
    intro segment member
    obtain ⟨kind, none⟩ := absent segment member
    simp [Segment.isOmitted, Segment.isParam, Segment.isOptional, kind, ← Option.not_isSome, givenSome, none]
  have provided : ∀ segment ∈ pattern.segments, segment.IsProvided values := by
    intro segment member param required
    rw [split] at member
    rcases List.mem_append.mp member with inFront | inBack
    · rw [givenSome]
      exact given segment inFront param
    · simp [Segment.isOptional, (absent segment inBack).1] at required
  have filled := (fill_eq_ok_iff pattern _).mpr ⟨provided, rfl⟩
  exact ⟨_, _, filled, matchPath_fill built filled split some kept omitted exact,
    recordAll_represents_texts? provided split kept omitted⟩

end Pattern

end TypedPath
