import TypedPath.Proofs.Pattern.Built
import TypedPath.Proofs.Pattern.Filling

namespace TypedPath

def Assignment.ofTexts (raw : Text → Option (Option Text)) : Assignment :=
  fun name => (raw name).map fun text => (text.map Value.text).getD .none

theorem Assignment.text?_ofTexts (raw : Text → Option (Option Text)) (name : Text) :
    (Assignment.ofTexts raw).text? name = (raw name).join := by
  unfold Assignment.text? Assignment.ofTexts
  rcases raw name with _ | _ | text <;> rfl

namespace Segment

variable {values : Assignment}

theorem lookup_record_isSome {bound : Bindings} {name : Text} (held : (bound.lookup name).isSome)
    (entry : Segment × Option Text) : ((Pairing.record bound entry).lookup name).isSome := by
  unfold Pairing.record
  split
  · rw [Bindings.lookup_bind]
    split
    · rfl
    · exact held
  · exact held

theorem lookup_foldl_record_isSome {bound : Bindings} {name : Text} (held : (bound.lookup name).isSome)
    (entries : List (Segment × Option Text)) :
    ((entries.foldl Pairing.record bound).lookup name).isSome := by
  induction entries generalizing bound with
  | nil => exact held
  | cons entry entries ih => exact ih (lookup_record_isSome held entry)

theorem follow_param_lookup_isSome {exact : Bool} {segment : Segment} (param : segment.isParam = true)
    {segments : List Segment} {part : Text} {parts : List Text} {bound result : Bindings}
    (followed : follow exact (segment :: segments) (part :: parts) bound = .ok result) :
    (result.lookup segment.name).isSome := by
  obtain ⟨taken, takes, rest⟩ := (follow_cons ..).mp followed
  rw [takes_cons_iff, if_pos param] at takes
  obtain ⟨rfl, decoded⟩ := takes
  obtain ⟨text, decoded⟩ := Option.isSome_iff_exists.mp decoded
  obtain ⟨pairing, _, rfl⟩ := (follow_eq_ok_iff ..).mp rest
  apply lookup_foldl_record_isSome
  simp [Pairing.record, value?, param, decoded, Bindings.lookup_bind]

theorem text?_eq_none_of_isOmitted {segment : Segment} (omitted : segment.isOmitted values = true) :
    values.text? segment.name = none := by
  simp only [isOmitted, Bool.and_eq_true, Option.isNone_iff_eq_none] at omitted
  rw [← map_toText_given?, omitted.2]
  rfl

theorem isParam_of_isOmitted {segment : Segment} (omitted : segment.isOmitted values = true) :
    segment.isParam = true := by
  simp only [isOmitted, Bool.and_eq_true] at omitted
  exact omitted.1.1

end Segment

namespace Pattern

variable {values : Assignment}

theorem fill_eq_ok_iff (pattern : Pattern) (path : Text) :
    pattern.fill values = .ok path ↔
      (∀ segment ∈ pattern.segments, segment.IsProvided values) ∧
        path = Text.join [separator] ((pattern.segments.filter fun segment =>
          !segment.isOmitted values).map (Segment.component values)) := by
  unfold fill
  constructor
  · intro filled
    cases written : Segment.components values pattern.segments with
    | error missing => simp [written, Except.map] at filled
    | ok parts =>
      obtain ⟨provided, rfl⟩ := (Segment.components_eq_ok_iff ..).mp written
      simp only [written, Except.map, Except.ok.injEq] at filled
      exact ⟨provided, filled.symm⟩
  · intro h
    obtain ⟨provided, rfl⟩ := h
    rw [(Segment.components_eq_ok_iff ..).mpr ⟨provided, rfl⟩]
    rfl

theorem splitOn_written {pattern : Pattern} (built : pattern.Built)
    (provided : ∀ segment ∈ pattern.segments, segment.IsProvided values) {written : List Segment}
    (kept : (pattern.segments.filter fun segment => !segment.isOmitted values) = written)
    (some : written ≠ []) :
    (Text.join [separator] (written.map (Segment.component values))).splitOn separator =
      written.map (Segment.component values) := by
  apply List.splitOn_intercalate
  · intro part member
    obtain ⟨segment, found, rfl⟩ := List.mem_map.mp member
    rw [← kept, List.mem_filter] at found
    exact Segment.separator_not_mem_component (provided segment found.1) (by simpa using found.2)
      (built.separator_not_mem_literal found.1)
  · simpa using some

theorem matchPath_fill {pattern : Pattern} (built : pattern.Built) {path : Text}
    (filled : pattern.fill values = .ok path) {front back : List Segment}
    (split : pattern.segments = front ++ back) (some : front ≠ [])
    (kept : ∀ segment ∈ front, segment.isOmitted values = false)
    (omitted : ∀ segment ∈ back, segment.isOmitted values = true) (exact : Bool) :
    pattern.matchPath exact path = .ok (Segment.recordAll values front []) := by
  obtain ⟨provided, rfl⟩ := (fill_eq_ok_iff ..).mp filled
  have written : (pattern.segments.filter fun segment => !segment.isOmitted values) = front := by
    rw [split, List.filter_append]
    have first : front.filter (fun segment => !segment.isOmitted values) = front :=
      List.filter_eq_self.mpr fun segment member => by simp [kept segment member]
    have last : back.filter (fun segment => !segment.isOmitted values) = [] :=
      List.filter_eq_nil_iff.mpr fun segment member => by simp [omitted segment member]
    rw [first, last, List.append_nil]
  rw [written]
  unfold matchPath
  rw [splitOn_written built provided written some, split]
  have frontProvided : ∀ segment ∈ front, segment.IsProvided values :=
    fun segment member => provided segment (split ▸ List.mem_append_left _ member)
  have run := Segment.follow_components frontProvided kept exact back [] []
  rw [List.append_nil] at run
  rw [run, Segment.follow_omitted omitted]

def texts? (pattern : Pattern) (values : Assignment) (name : Text) : Option Text :=
  if name ∈ pattern.names then values.text? name else none

theorem recordAll_represents_texts? {pattern : Pattern}
    (provided : ∀ segment ∈ pattern.segments, segment.IsProvided values) {front back : List Segment}
    (split : pattern.segments = front ++ back)
    (kept : ∀ segment ∈ front, segment.isOmitted values = false)
    (omitted : ∀ segment ∈ back, segment.isOmitted values = true) :
    (Segment.recordAll values front []).Represents (pattern.texts? values) := by
  have frontProvided : ∀ segment ∈ front, segment.IsProvided values :=
    fun segment member => provided segment (split ▸ List.mem_append_left _ member)
  have recorded := Segment.recordAll_represents frontProvided kept Bindings.represents_nil
  refine ⟨recorded.nodup, fun name => (recorded.lookup_eq name).trans ?_⟩
  have names : pattern.names = (front.filter Segment.isParam).map Segment.name ++
      (back.filter Segment.isParam).map Segment.name := by
    rw [Pattern.names, split, List.filter_append, List.map_append]
  unfold texts?
  rw [names]
  by_cases first : name ∈ (front.filter Segment.isParam).map Segment.name
  · rw [if_pos first, if_pos (List.mem_append_left _ first)]
  · rw [if_neg first]
    split
    · rename_i found
      rcases List.mem_append.mp found with inFront | inBack
      · exact absurd inFront first
      · obtain ⟨segment, member, rfl⟩ := List.mem_map.mp inBack
        exact (Segment.text?_eq_none_of_isOmitted (omitted segment (List.mem_of_mem_filter member))).symm
    · rfl

theorem filter_kept_append {front : List Segment}
    (kept : ∀ segment ∈ front, segment.isOmitted values = false) {segment : Segment}
    (omitted : segment.isOmitted values = true) (back : List Segment) :
    (front ++ segment :: back).filter (fun segment => !segment.isOmitted values) =
      front ++ back.filter fun segment => !segment.isOmitted values := by
  have first : front.filter (fun segment => !segment.isOmitted values) = front :=
    List.filter_eq_self.mpr fun segment member => by simp [kept segment member]
  rw [List.filter_append, first, List.filter_cons, omitted]
  rfl

/-- With something written after an omitted parameter, or nothing written at all, the path has a
    component where that parameter stands. -/
theorem splitOn_of_isOmitted {pattern : Pattern} (built : pattern.Built) {path : Text}
    (filled : pattern.fill values = .ok path) {front back : List Segment} {segment : Segment}
    (split : pattern.segments = front ++ segment :: back)
    (kept : ∀ segment ∈ front, segment.isOmitted values = false)
    (omitted : segment.isOmitted values = true)
    (left : front = [] ∨ ∃ other ∈ back, other.isOmitted values = false) :
    ∃ part parts, path.splitOn separator = front.map (Segment.component values) ++ part :: parts := by
  obtain ⟨provided, rfl⟩ := (fill_eq_ok_iff ..).mp filled
  have written := splitOn_written built provided rfl
  rw [split, filter_kept_append kept omitted] at written ⊢
  cases rest : back.filter fun segment => !segment.isOmitted values with
  | cons other others =>
    rw [rest] at written
    rw [written (by simp), List.map_append, List.map_cons]
    exact ⟨_, _, rfl⟩
  | nil =>
    have empty : front = [] := by
      rcases left with empty | ⟨other, member, given⟩
      · exact empty
      · have found := List.filter_eq_nil_iff.mp rest other member
        simp [given] at found
    subst empty
    exact ⟨[], [], rfl⟩

theorem matchPath_fill_lookup_isSome {pattern : Pattern} (built : pattern.Built) {path : Text}
    (filled : pattern.fill values = .ok path) {front back : List Segment} {segment : Segment}
    (split : pattern.segments = front ++ segment :: back)
    (kept : ∀ segment ∈ front, segment.isOmitted values = false)
    (omitted : segment.isOmitted values = true)
    (left : front = [] ∨ ∃ other ∈ back, other.isOmitted values = false) {exact : Bool}
    {bound : Bindings} (matched : pattern.matchPath exact path = .ok bound) :
    (bound.lookup segment.name).isSome := by
  obtain ⟨part, parts, components⟩ := splitOn_of_isOmitted built filled split kept omitted left
  have frontProvided : ∀ segment ∈ front, segment.IsProvided values := by
    intro other member
    exact ((fill_eq_ok_iff ..).mp filled).1 other (split ▸ List.mem_append_left _ member)
  unfold matchPath at matched
  rw [components, split, Segment.follow_components frontProvided kept] at matched
  exact Segment.follow_param_lookup_isSome (Segment.isParam_of_isOmitted omitted) matched

theorem exists_split (values : Assignment) (segments : List Segment) :
    ∃ front back, segments = front ++ back ∧
      (∀ segment ∈ front, segment.isOmitted values = false) ∧
      ∀ segment ∈ back.head?, segment.isOmitted values = true := by
  refine ⟨segments.takeWhile fun segment => !segment.isOmitted values,
    segments.dropWhile fun segment => !segment.isOmitted values,
    (List.takeWhile_append_dropWhile ..).symm, ?_, ?_⟩
  · intro segment member
    simpa using List.all_eq_true.mp List.all_takeWhile segment member
  · intro segment member
    have stopped := List.head?_dropWhile_not (fun segment => !segment.isOmitted values) segments
    rw [Option.mem_def.mp member] at stopped
    simpa using stopped

theorem omitted_last_iff {front back : List Segment}
    (kept : ∀ segment ∈ front, segment.isOmitted values = false)
    (stopped : ∀ segment ∈ back.head?, segment.isOmitted values = true) :
    ((front ++ back).Pairwise fun earlier later =>
        earlier.isOmitted values = true → later.isOmitted values = true) ∧
      (∃ segment ∈ front ++ back, segment.isOmitted values = false) ↔
    front ≠ [] ∧ ∀ segment ∈ back, segment.isOmitted values = true := by
  constructor
  · intro h
    obtain ⟨last, segment, member, written⟩ := h
    have omitted : ∀ segment ∈ back, segment.isOmitted values = true := by
      cases back with
      | nil => simp
      | cons first back =>
        have rest := (List.pairwise_cons.mp (List.pairwise_append.mp last).2.1).1
        have head := stopped first rfl
        exact List.forall_mem_cons.mpr ⟨head, fun other found => rest other found head⟩
    refine ⟨?_, omitted⟩
    intro same
    subst same
    rw [omitted segment member] at written
    cases written
  · intro h
    obtain ⟨some, omitted⟩ := h
    obtain ⟨segment, member⟩ := List.exists_mem_of_ne_nil front some
    refine ⟨List.pairwise_append.mpr ⟨?_, ?_, ?_⟩,
      segment, List.mem_append_left _ member, kept segment member⟩
    · exact List.pairwise_of_forall_mem_list fun earlier found later _ held => by
        simp [kept earlier found] at held
    · exact List.pairwise_of_forall_mem_list fun _ _ later found _ => omitted later found
    · exact fun earlier _ later found _ => omitted later found

/-- For texts, the values come back through the path exactly when nothing is written after an
    omitted parameter and something is written at all. -/
theorem matchPath_fill_iff {pattern : Pattern} (built : pattern.Built)
    {raw : Text → Option (Option Text)} {path : Text}
    (filled : pattern.fill (.ofTexts raw) = .ok path) (exact : Bool) :
    (∃ bound, pattern.matchPath exact path = .ok bound ∧
      bound.Represents fun name => if name ∈ pattern.names then (raw name).join else none) ↔
    (pattern.segments.Pairwise fun earlier later =>
      earlier.isOmitted (.ofTexts raw) = true → later.isOmitted (.ofTexts raw) = true) ∧
      ∃ segment ∈ pattern.segments, segment.isOmitted (.ofTexts raw) = false := by
  have expected : (fun name => if name ∈ pattern.names then (raw name).join else none) =
      pattern.texts? (.ofTexts raw) := by
    funext name
    rw [texts?, Assignment.text?_ofTexts]
  obtain ⟨front, back, split, kept, stopped⟩ := exists_split (.ofTexts raw) pattern.segments
  rw [expected, split, omitted_last_iff kept stopped]
  constructor
  · intro h
    obtain ⟨bound, matched, represents⟩ := h
    cases back with
    | nil =>
      rw [List.append_nil] at split
      exact ⟨split ▸ built.segments_ne_nil, by simp⟩
    | cons segment back =>
      have omitted := stopped segment rfl
      have unbound : bound.lookup segment.name = none := by
        rw [represents.lookup_eq, texts?, Segment.text?_eq_none_of_isOmitted omitted, ite_self]
      by_contra misplaced
      have left : front = [] ∨ ∃ other ∈ back, other.isOmitted (.ofTexts raw) = false := by
        by_contra neither
        apply misplaced
        simp only [not_or, not_exists, not_and, Bool.not_eq_false] at neither
        exact ⟨neither.1, List.forall_mem_cons.mpr ⟨omitted, neither.2⟩⟩
      have bounded := matchPath_fill_lookup_isSome built filled split kept omitted left matched
      rw [unbound] at bounded
      cases bounded
  · intro h
    obtain ⟨some, omitted⟩ := h
    have provided := ((fill_eq_ok_iff ..).mp filled).1
    exact ⟨_, matchPath_fill built filled split some kept omitted exact,
      recordAll_represents_texts? provided split kept omitted⟩

theorem matchPath_fill_id :
    (compile "/:id/:page?").Built ∧
      (compile "/:id/:page?").fill (.ofTexts fun name =>
        if name = "id".toList then some (some "a b") else some none) = .ok "/a%20b".toList ∧
      ∃ bound, (compile "/:id/:page?").matchPath true "/a%20b" = .ok bound ∧
        bound.Represents fun name => if name ∈ (compile "/:id/:page?").names then
          (if name = "id".toList then some (some "a b".toList) else some none).join else none := by
  have filled : (compile "/:id/:page?").fill (.ofTexts fun name =>
      if name = "id".toList then some (some "a b") else some none) = .ok "/a%20b".toList :=
    (fill_eq_ok_iff ..).mpr (by decide +kernel)
  exact ⟨.compiled _, filled, (matchPath_fill_iff (.compiled _) filled true).mpr (by decide +kernel)⟩

end Pattern

end TypedPath
