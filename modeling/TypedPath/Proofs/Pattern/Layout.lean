import TypedPath.Proofs.Pattern.RoundTrip
import TypedPath.Proofs.Pattern.Specialization

namespace TypedPath

theorem Percent.encode_injective : Function.Injective encode := by
  intro left right same
  have decoded := congrArg decode? same
  rw [decode?_encode, decode?_encode] at decoded
  exact Option.some.inj decoded

namespace Segment

variable {values others : Assignment} {segment : Segment} {front back : List Segment}

theorem isNone_given? (values : Assignment) (segment : Segment) :
    (segment.given? values).isNone = (values.text? segment.name).isNone := by
  rw [← map_toText_given?, Option.isNone_map]

theorem isProvided_iff :
    segment.IsProvided values ↔ (segment.kind = .param → values.text? segment.name ≠ none) := by
  unfold IsProvided
  rw [← Option.not_isNone, isNone_given?]
  cases kind : segment.kind <;> simp [isParam, isOptional, kind, Option.isSome_iff_ne_none]

theorem isOmitted_congr (alike : segment.kind = .optionalParam →
    (values.text? segment.name = none ↔ others.text? segment.name = none)) :
    segment.isOmitted values = segment.isOmitted others := by
  unfold isOmitted
  rw [isNone_given?, isNone_given?, Bool.eq_iff_iff]
  cases kind : segment.kind with
  | optionalParam => simpa [isParam, isOptional, kind] using alike kind
  | static | param | optionalStatic => simp [isParam, isOptional, kind]

/-- The first required parameter without a value is the one that is missing. -/
theorem components_eq_error (provided : ∀ earlier ∈ front, earlier.IsProvided values) (required : segment.kind = .param)
    (absent : values.text? segment.name = none) (back : List Segment) :
    components values (front ++ segment :: back) = .error ⟨segment.name⟩ := by
  induction front with
  | nil =>
    have given : segment.given? values = none := by
      rwa [← Option.isNone_iff_eq_none, isNone_given?, Option.isNone_iff_eq_none]
    simp [components, isParam, isOptional, required, given]
  | cons earlier front ih =>
    obtain ⟨first, later⟩ := List.forall_mem_cons.mp provided
    rw [List.cons_append, components, ih later]
    cases param : earlier.isParam with
    | false => rfl
    | true =>
      cases given : earlier.given? values with
      | some value => rfl
      | none =>
        have optional : earlier.isOptional = true := by
          by_contra required
          have provided := first param (Bool.not_eq_true _ ▸ required)
          rw [given] at provided
          cases provided
        simp [optional]

theorem component_of_text {text : Text} (param : segment.isParam = true)
    (given : values.text? segment.name = some text) : segment.component values = Percent.encode text := by
  rw [← map_toText_given?] at given
  obtain ⟨value, found, rfl⟩ := Option.map_eq_some_iff.mp given
  rw [component, if_pos param, found]
  rfl

theorem exists_text (provided : segment.IsProvided values) (kept : segment.isOmitted values = false)
    (param : segment.isParam = true) : ∃ text, values.text? segment.name = some text := by
  obtain ⟨value, given⟩ := Option.isSome_iff_exists.mp (given?_isSome provided kept param)
  exact ⟨value.toText, by rw [← map_toText_given?, given]; rfl⟩

theorem component_eq_iff (provided : segment.IsProvided values) (kept : segment.isOmitted values = false)
    (otherProvided : segment.IsProvided others) (otherKept : segment.isOmitted others = false) :
    segment.component values = segment.component others ↔
      (segment.isParam = true → values.text? segment.name = others.text? segment.name) := by
  cases param : segment.isParam with
  | false => simp [component, param]
  | true =>
    obtain ⟨text, given⟩ := exists_text provided kept param
    obtain ⟨other, otherGiven⟩ := exists_text otherProvided otherKept param
    rw [component_of_text param given, component_of_text param otherGiven, given, otherGiven]
    simp [Percent.encode_injective.eq_iff]

end Segment

namespace Pattern

variable {pattern : Pattern} {values others : Assignment} {path otherPath : Text}

def emitted (pattern : Pattern) (values : Assignment) : List Segment :=
  pattern.segments.filter fun segment => !segment.isOmitted values

theorem mem_emitted_iff {segment : Segment} :
    segment ∈ pattern.emitted values ↔ segment ∈ pattern.segments ∧ segment.isOmitted values = false := by
  rw [emitted, List.mem_filter, Bool.not_eq_true']

theorem written_eq_ok_iff : pattern.written values = .ok path ↔ pattern.fill values = .ok path := by
  unfold written
  cases pattern.fill values with
  | error missing => exact iff_of_false nofun nofun
  | ok filled =>
    constructor
    · intro same
      cases same
      rfl
    · intro same
      cases same
      rfl

theorem exists_written_iff : (∃ path, pattern.written values = .ok path) ↔
    ∀ segment ∈ pattern.segments, segment.IsProvided values := by
  constructor
  · rintro ⟨path, written⟩
    exact ((fill_eq_ok_iff ..).mp (written_eq_ok_iff.mp written)).1
  · intro provided
    exact ⟨_, written_eq_ok_iff.mpr ((fill_eq_ok_iff ..).mpr ⟨provided, rfl⟩)⟩

theorem written_of_missing {front back : List Segment} {segment : Segment}
    (split : pattern.segments = front ++ segment :: back) (required : segment.kind = .param)
    (absent : values.text? segment.name = none) (provided : ∀ earlier ∈ front, earlier.IsProvided values) :
    pattern.written values = .error [⟨.missing, some [.text segment.name], none⟩] := by
  unfold written fill
  rw [split, Segment.components_eq_error provided required absent]
  rfl

theorem splitOn_of_written (built : pattern.Built) (written : pattern.written values = .ok path)
    (some : pattern.emitted values ≠ []) :
    path.splitOn separator = (pattern.emitted values).map (Segment.component values) := by
  obtain ⟨provided, rfl⟩ := (fill_eq_ok_iff ..).mp (written_eq_ok_iff.mp written)
  exact splitOn_written built provided rfl some

theorem path_of_emitted_eq_nil (written : pattern.written values = .ok path) (none : pattern.emitted values = []) :
    path = [] := by
  obtain ⟨_, rfl⟩ := (fill_eq_ok_iff ..).mp (written_eq_ok_iff.mp written)
  show Text.join [separator] ((pattern.emitted values).map (Segment.component values)) = []
  rw [none]
  rfl

theorem emitted_congr (alike : ∀ segment ∈ pattern.segments, segment.kind = .optionalParam →
    (values.text? segment.name = none ↔ others.text? segment.name = none)) :
    pattern.emitted values = pattern.emitted others :=
  List.filter_congr fun segment member => congrArg (!·) (Segment.isOmitted_congr (alike segment member))

/-- Two paths that omit the same parameters differ where a parameter stands that has two values. -/
theorem components_of_written (built : pattern.Built) (written : pattern.written values = .ok path)
    (otherWritten : pattern.written others = .ok otherPath) (same : pattern.emitted values = pattern.emitted others) :
    (path.splitOn separator).length = (otherPath.splitOn separator).length ∧
      ∀ index : Nat, (path.splitOn separator)[index]? ≠ (otherPath.splitOn separator)[index]? ↔
        ∃ segment, (pattern.emitted values)[index]? = some segment ∧ segment.isParam = true ∧
          values.text? segment.name ≠ others.text? segment.name := by
  by_cases none : pattern.emitted values = []
  · -- an empty path still has one component, which is empty in both
    rw [path_of_emitted_eq_nil written none, path_of_emitted_eq_nil otherWritten (same ▸ none), none]
    simp
  · rw [splitOn_of_written built written none, splitOn_of_written built otherWritten (same ▸ none), ← same]
    refine ⟨by rw [List.length_map, List.length_map], fun index => ?_⟩
    rw [List.getElem?_map, List.getElem?_map]
    cases found : (pattern.emitted values)[index]? with
    | none => simp
    | some segment =>
      have member := List.mem_of_getElem? found
      obtain ⟨inPattern, kept⟩ := mem_emitted_iff.mp member
      obtain ⟨_, otherKept⟩ := mem_emitted_iff.mp (same ▸ member)
      have provided := exists_written_iff.mp ⟨path, written⟩ segment inPattern
      have otherProvided := exists_written_iff.mp ⟨otherPath, otherWritten⟩ segment inPattern
      simp [Segment.component_eq_iff provided kept otherProvided otherKept]

/-- A path is written exactly when each required parameter has a text, and else the first one without is told to
    be missing. It has one component for each segment that is emitted. Texts for the same parameters give paths
    of the same layout, which differ where a parameter has another text. All texts are without lone
    surrogates. -/
theorem written_layout (built : pattern.Built) (raw : Text → Option (Option Text)) :
    ((∃ path, pattern.written (.ofTexts raw) = .ok path) ↔
        ∀ segment ∈ pattern.segments, segment.kind = .param → (raw segment.name).join ≠ none) ∧
      (∀ front segment back, pattern.segments = front ++ segment :: back → segment.kind = .param →
        (raw segment.name).join = none → (∀ earlier ∈ front, earlier.kind = .param → (raw earlier.name).join ≠ none) →
        pattern.written (.ofTexts raw) = .error [⟨.missing, some [.text segment.name], none⟩]) ∧
      (∀ path, pattern.written (.ofTexts raw) = .ok path → pattern.emitted (.ofTexts raw) ≠ [] →
        path.splitOn separator = (pattern.emitted (.ofTexts raw)).map (Segment.component (.ofTexts raw))) ∧
      ∀ other path otherPath, (∀ segment ∈ pattern.segments, segment.kind = .optionalParam →
          ((raw segment.name).join = none ↔ (other segment.name).join = none)) →
        pattern.written (.ofTexts raw) = .ok path → pattern.written (.ofTexts other) = .ok otherPath →
        (path.splitOn separator).length = (otherPath.splitOn separator).length ∧
          ∀ index : Nat, (path.splitOn separator)[index]? ≠ (otherPath.splitOn separator)[index]? ↔
            ∃ segment, (pattern.emitted (.ofTexts raw))[index]? = some segment ∧ segment.isParam = true ∧
              (raw segment.name).join ≠ (other segment.name).join := by
  simp only [← Assignment.text?_ofTexts]
  refine ⟨?_, ?_, fun path => splitOn_of_written built, ?_⟩
  · rw [exists_written_iff]
    exact forall₂_congr fun _ _ => Segment.isProvided_iff
  · intro front segment back split required absent provided
    exact written_of_missing split required absent fun earlier member =>
      Segment.isProvided_iff.mpr (provided earlier member)
  · intro other path otherPath alike written otherWritten
    exact components_of_written built written otherWritten (emitted_congr alike)

theorem written_layout_id :
    let pattern := compile "/:id/:tab?/x?"
    let raw (id name : Text) : Option (Option Text) := if name = "id".toList then some (some id) else some none
    pattern.written (.ofTexts (raw "a/b")) = .ok "/a%2Fb/x" ∧ pattern.written (.ofTexts (raw "?")) = .ok "/%3F/x" ∧
      ("/a%2Fb/x".toList.splitOn separator).length = ("/%3F/x".toList.splitOn separator).length ∧
      ∀ index : Nat, ("/a%2Fb/x".toList.splitOn separator)[index]? ≠ ("/%3F/x".toList.splitOn separator)[index]? ↔
        ∃ segment, (pattern.emitted (.ofTexts (raw "a/b")))[index]? = some segment ∧ segment.isParam = true ∧
          (raw "a/b" segment.name).join ≠ (raw "?" segment.name).join := by
  intro pattern raw
  have written : pattern.written (.ofTexts (raw "a/b")) = .ok "/a%2Fb/x" :=
    written_eq_ok_iff.mpr ((fill_eq_ok_iff ..).mpr (by decide +kernel))
  have otherWritten : pattern.written (.ofTexts (raw "?")) = .ok "/%3F/x" :=
    written_eq_ok_iff.mpr ((fill_eq_ok_iff ..).mpr (by decide +kernel))
  have alike : ∀ segment ∈ pattern.segments, segment.kind = .optionalParam →
      ((raw "a/b" segment.name).join = none ↔ (raw "?" segment.name).join = none) := by
    intro segment _ _
    dsimp only [raw]
    split <;> simp
  exact ⟨written, otherWritten,
    (written_layout (.compiled _) (raw "a/b")).2.2.2 (raw "?") _ _ alike written otherWritten⟩

end Pattern

end TypedPath
