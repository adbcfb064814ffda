import Mathlib.Data.List.Forall2
import TypedPath.Proofs.Pattern.RoundTrip
import TypedPath.Proofs.Pattern.Specialization

namespace TypedPath

namespace Segment

variable {raw : Text → Option (Option Text)} {segment : Segment}

/-- What one segment of a pattern becomes. A parameter that no path does without is kept also for `none`. -/
inductive Becomes (raw : Text → Option (Option Text)) (segment : Segment) : List Segment → Prop
  | replaced {text : Text} (param : segment.isParam = true) (given : raw segment.name = some (some text)) :
    Becomes raw segment [⟨.static, Percent.encode text, []⟩]
  | dropped (optional : segment.kind = .optionalParam) (given : raw segment.name = some none) :
    Becomes raw segment []
  | literal (static : segment.isParam = false) : Becomes raw segment [segment]
  | unknown (given : raw segment.name = none) : Becomes raw segment [segment]
  | required (required : segment.kind = .param) (given : raw segment.name = some none) :
    Becomes raw segment [segment]

def isOpen (raw : Text → Option (Option Text)) (segment : Segment) : Bool :=
  segment.isParam && match raw segment.name with
    | none => true
    | some none => !segment.isOptional
    | some (some _) => false

theorem specialize?_ofTexts (param : segment.isParam = true) :
    segment.specialize? (.ofTexts raw) = match raw segment.name with
      | none => some segment
      | some none => if segment.isOptional then none else some segment
      | some (some text) => some ⟨.static, Percent.encode text, []⟩ := by
  unfold specialize? given? Assignment.ofTexts
  rw [if_pos param]
  rcases raw segment.name with _ | _ | text
  · simp
  · simp
  · rfl

theorem becomes_iff {parts : List Segment} :
    segment.Becomes raw parts ↔ (segment.specialize? (.ofTexts raw)).toList = parts := by
  constructor
  · intro becomes
    cases becomes with
    | replaced param given => rw [specialize?_ofTexts param, given]; rfl
    | dropped optional given =>
      have param : segment.isParam = true := by simp [isParam, optional]
      rw [specialize?_ofTexts param, given]
      simp [isOptional, optional]
    | literal static => rw [specialize?_of_static _ static]; rfl
    | unknown given =>
      cases param : segment.isParam with
      | false => rw [specialize?_of_static _ param]; rfl
      | true => rw [specialize?_ofTexts param, given]; rfl
    | required required given =>
      have param : segment.isParam = true := by simp [isParam, required]
      rw [specialize?_ofTexts param, given]
      simp [isOptional, required]
  · rintro rfl
    cases param : segment.isParam with
    | false =>
      rw [specialize?_of_static _ param]
      exact .literal param
    | true =>
      rw [specialize?_ofTexts param]
      cases given : raw segment.name with
      | none => exact .unknown given
      | some value =>
        cases value with
        | some text => exact .replaced param given
        | none =>
          cases kind : segment.kind with
          | static | optionalStatic => simp [isParam, kind] at param
          | param =>
            simp only [isOptional, kind]
            exact .required kind given
          | optionalParam =>
            simp only [isOptional, kind]
            exact .dropped kind given

theorem specialize?_eq_none_iff :
    segment.specialize? (.ofTexts raw) = none ↔ segment.kind = .optionalParam ∧ raw segment.name = some none := by
  constructor
  · intro none
    have becomes : segment.Becomes raw [] := becomes_iff.mpr (by rw [none]; rfl)
    cases becomes with
    | dropped optional given => exact ⟨optional, given⟩
  · rintro ⟨optional, given⟩
    have none := becomes_iff.mp (Becomes.dropped optional given)
    exact Option.toList_eq_nil_iff.mp none

theorem filter_isParam_specialize? :
    (segment.specialize? (.ofTexts raw)).toList.filter isParam = if segment.isOpen raw then [segment] else [] := by
  unfold isOpen
  cases param : segment.isParam with
  | false => simp [specialize?_of_static _ param, param]
  | true =>
    rw [specialize?_ofTexts param]
    rcases raw segment.name with _ | _ | text
    · simp [param]
    · cases segment.isOptional <;> simp [param]
    · rfl

end Segment

namespace Pattern

variable {pattern : Pattern} {raw : Text → Option (Option Text)}

def LeavesOver (raw : Text → Option (Option Text)) (segments left : List Segment) : Prop :=
  ∃ parts, List.Forall₂ (Segment.Becomes raw) segments parts ∧ parts.flatten = left

theorem leavesOver_iff {segments left : List Segment} :
    LeavesOver raw segments left ↔ segments.filterMap (Segment.specialize? (.ofTexts raw)) = left := by
  unfold LeavesOver
  have each : Segment.Becomes raw = fun segment parts => (segment.specialize? (.ofTexts raw)).toList = parts :=
    funext fun segment => funext fun parts => propext Segment.becomes_iff
  rw [each, List.filterMap_eq_flatMap_toList, List.flatMap_def]
  constructor
  · rintro ⟨parts, all, rfl⟩
    rw [← List.forall₂_map_left_iff, List.forall₂_eq_eq_eq] at all
    rw [all]
  · rintro rfl
    refine ⟨_, ?_, rfl⟩
    rw [← List.forall₂_map_left_iff, List.forall₂_eq_eq_eq]

theorem names_filterMap_specialize? (segments : List Segment) :
    ((segments.filterMap (Segment.specialize? (.ofTexts raw))).filter Segment.isParam).map Segment.name =
      (segments.filter (Segment.isOpen raw)).map Segment.name := by
  induction segments with
  | nil => rfl
  | cons segment segments ih =>
    have here : (segment.specialize? (.ofTexts raw)).toList.filter Segment.isParam =
        if segment.isOpen raw then [segment] else [] :=
      Segment.filter_isParam_specialize?
    rw [List.filterMap_eq_flatMap_toList] at ih ⊢
    rw [List.flatMap_cons, List.filter_append, List.map_append, ih, here, List.filter_cons]
    cases segment.isOpen raw <;> rfl

/-- A pattern that was filled in part has the segments that are left over, unless all of them are optional
    parameters that were dropped. Its parameters are those that are still open. The texts that fill it have no
    lone surrogates. -/
theorem specialize_leavesOver (built : pattern.Built) (raw : Text → Option (Option Text)) :
    (LeavesOver raw pattern.segments (compile (pattern.specialize (.ofTexts raw))).segments ↔
        ¬ ∀ segment ∈ pattern.segments, segment.kind = .optionalParam ∧ raw segment.name = some none) ∧
      (compile (pattern.specialize (.ofTexts raw))).names =
        (pattern.segments.filter (Segment.isOpen raw)).map Segment.name := by
  have dropped : (∀ segment ∈ pattern.segments, segment.kind = .optionalParam ∧ raw segment.name = some none) ↔
      pattern.segments.filterMap (Segment.specialize? (.ofTexts raw)) = [] := by
    rw [List.filterMap_eq_nil_iff]
    exact forall₂_congr fun _ _ => Segment.specialize?_eq_none_iff.symm
  rw [leavesOver_iff, dropped, ← names_filterMap_specialize?]
  by_cases none : pattern.segments.filterMap (Segment.specialize? (.ofTexts raw)) = []
  · -- the text is empty, and an empty text is a pattern of one empty literal
    have empty : pattern.specialize (.ofTexts raw) = [] := by
      rw [specialize_eq_join, none]
      rfl
    rw [empty, none]
    exact ⟨iff_of_false nofun (fun some => some rfl), rfl⟩
  · have left := built.segments_compile_specialize none
    exact ⟨iff_of_true left.symm none, by rw [names, left]⟩

theorem specialize_leavesOver_page :
    let pattern := compile "/:id/:tab?/x?/:page/:id"
    let raw : Text → Option (Option Text) :=
      fun name => [("id".toList, some ":a?".toList), ("tab".toList, none), ("page".toList, none)].lookup name
    LeavesOver raw pattern.segments (compile "/%3Aa%3F/x?/:page/%3Aa%3F").segments ∧
      (compile "/%3Aa%3F/x?/:page/%3Aa%3F").names = ["page"] := by
  intro pattern raw
  have text : pattern.specialize (.ofTexts raw) = "/%3Aa%3F/x?/:page/%3Aa%3F" := by decide +kernel
  obtain ⟨left, names⟩ := specialize_leavesOver (.compiled _) raw
  rw [text] at left names
  have some : ¬ ∀ segment ∈ pattern.segments, segment.kind = .optionalParam ∧ raw segment.name = some none := by
    decide +kernel
  exact ⟨left.mpr some, names.trans (by decide +kernel)⟩

end Pattern

end TypedPath
