import TypedPath.Proofs.CommandLine.Assignments
import TypedPath.Proofs.CommandLine.Json
import TypedPath.Proofs.CommandLine.Terminal
import TypedPath.Proofs.Pattern.SpecializedMatching
import TypedPath.Proofs.Route.Basic
import TypedPath.Proofs.Route.Session
import TypedPath.Proofs.Schema.Plain
import TypedPath.Proofs.Validator.Stringify

namespace TypedPath

namespace CommandLine

variable {arguments : List Text}

theorem sorted?_of_plain {α : Type} (option? : Text → Option α)
    (plain : ∀ argument ∈ arguments, isOption argument = false) :
    sorted? option? arguments = some ([], arguments) := by
  induction arguments with
  | nil => rfl
  | cons argument arguments ih =>
    rw [List.forall_mem_cons] at plain
    have dashes : argument ≠ ['-', '-'] := by
      intro same
      rw [same] at plain
      exact absurd plain.1 (by decide)
    rw [sorted?, if_neg dashes, plain.1, ih plain.2]
    rfl

theorem invocation?_format {pattern : Text} (plain : ∀ argument ∈ pattern :: arguments, isOption argument = false) :
    invocation? false ("format" :: pattern :: arguments) = some ⟨false, .format pattern arguments false⟩ := by
  have command : formatCommand? (pattern :: arguments) = some (.format pattern arguments false) := by
    unfold formatCommand?
    rw [sorted?_of_plain partlyOption? plain]
    rfl
  have start : invocation? false ("format" :: pattern :: arguments) =
      (formatCommand? (pattern :: arguments)).map (⟨false, ·⟩) := rfl
  rw [start, command]
  rfl

theorem invocation?_match {pattern path : Text} (plain : ∀ argument ∈ [pattern, path], isOption argument = false) :
    invocation? false ["match", pattern, path] = some ⟨false, .matchPath pattern path true⟩ := by
  have command : matchCommand? [pattern, path] = some (.matchPath pattern path true) := by
    unfold matchCommand?
    rw [sorted?_of_plain exactOption? plain]
    rfl
  have start : invocation? false ["match", pattern, path] = (matchCommand? [pattern, path]).map (⟨false, ·⟩) := rfl
  rw [start, command]
  rfl

def outcome (command : Command) : Except Failure Answer := ((answer command).run .start).1

theorem report_of_outcome {command : Command} {output : Text} (answered : outcome command = .ok (.ok output)) :
    report ⟨false, command⟩ = ⟨0, output, []⟩ := by
  unfold outcome at answered
  unfold report
  revert answered
  rcases (answer command).run .start with ⟨result, state⟩
  rintro rfl
  rfl

theorem report_of_no_outcome {command : Command} (refused : ∀ output, outcome command ≠ .ok (.ok output)) :
    ∃ errors, report ⟨false, command⟩ = ⟨1, [], errors⟩ := by
  unfold outcome at refused
  unfold report
  revert refused
  rcases (answer command).run .start with ⟨failure | text | output, state⟩
  · exact fun _ => ⟨_, rfl⟩
  · exact fun _ => ⟨_, rfl⟩
  · exact fun refused => absurd rfl (refused output)

def rawRoute (pattern : Pattern) (exact : Bool) (distinct : pattern.names.Nodup) : Route :=
  ⟨pattern, .adapter (.mapping .text .text), .adapter (.mapping .text .text), .adapter (.mapping .text .text), exact,
    distinct⟩

theorem build_raw {pattern : Pattern} (distinct : pattern.names.Nodup) (exact : Bool) :
    Route.build pattern rawSchemas exact = .ok (rawRoute pattern exact distinct) := by
  unfold Route.build
  rw [dif_pos distinct]
  rfl

theorem build_raw_of_repeated {pattern : Pattern} (repeated : ¬ pattern.names.Nodup) (exact : Bool) :
    Route.build pattern rawSchemas exact = .error (.repeatedNames pattern.repeatedNames pattern.text) :=
  dif_neg repeated

theorem route_run (pattern : Text) (exact : Bool) :
    ∃ later, (route pattern exact).run .start = (Route.build (.compile pattern) rawSchemas exact, later) := by
  obtain ⟨later, compiled, _⟩ := @Session.compile_result pattern .start PatternCache.isFaithful_empty
  refine ⟨later, ?_⟩
  unfold route
  rw [Session.run_bind, compiled]
  exact Session.run_lift _ later

theorem validate_raw {given : Bindings} (nodup : (given.map Prod.fst).Nodup) :
    (Validator.adapter (.mapping .text .text)).validate given.toValue = .ok (.map given.entries) := by
  have texts : ∀ pair ∈ given.map fun pair => (pair.1, Value.text pair.2),
      Shape.text.validateIn .ignore .free pair.2 = .ok pair.2 := by
    rw [List.forall_mem_map]
    exact fun _ _ => rfl
  have distinct : ((given.map fun pair => (pair.1, Value.text pair.2)).map Prod.fst).Nodup := by
    rwa [List.map_map]
  have same := Shape.validate_mapping_keyed distinct texts
  rw [given.toValue_eq_entries]
  show Refusal.ofSchema ((Shape.mapping .text .text).validate (.map (Value.keyed _))) = _
  rw [same]
  rfl

theorem format_raw_eq_ok_iff {pattern : Pattern} {exact : Bool} {distinct : pattern.names.Nodup} {given : Bindings}
    {value? : Text → Option Text} (represents : given.Represents value?) {path : Text} :
    (rawRoute pattern exact distinct).format given.toValue = .ok path ↔
      pattern.fill (.ofKnown value?) = .ok path := by
  have values : Assignment.ofEntries given.entries = .ofKnown value? := by
    funext name
    exact (given.findText?_entries name).trans (congrArg _ (represents.lookup_eq name))
  rw [Route.format_eq_ok_iff, ← values]
  constructor
  · intro h
    obtain ⟨entries, accepted, filled, _⟩ := h
    cases (validate_raw represents.nodup).symm.trans accepted
    exact filled
  · have texts : ∀ pair ∈ given.map fun pair => (pair.1, Value.text pair.2), pair.2.isWritable = true := by
      rw [List.forall_mem_map]
      exact fun _ _ => rfl
    exact fun filled => ⟨given.entries, validate_raw represents.nodup, filled,
      Pattern.canSpecialize_of_writable texts pattern⟩

/-- Filling a pattern succeeds where the names are distinct, each argument assigns something, and the
    pattern can be filled from what is assigned last. -/
theorem outcome_format_iff {pattern : Text} {arguments : List Text} {output : Text} :
    outcome (.format pattern arguments false) = .ok (.ok output) ↔
      (Pattern.compile pattern).names.Nodup ∧ (∀ argument ∈ arguments, IsAssignment argument) ∧
        ∃ path, (Pattern.compile pattern).fill (.ofKnown (lastValue? arguments)) = .ok path ∧
          output = printed path := by
  obtain ⟨later, built⟩ := route_run pattern true
  unfold outcome answer formatting
  rw [Session.run_bind, built]
  by_cases distinct : (Pattern.compile pattern).names.Nodup
  · rw [build_raw distinct]
    dsimp only
    by_cases all : ∀ argument ∈ arguments, IsAssignment argument
    · obtain ⟨given, read, represents⟩ := assignments_of_all all Bindings.represents_nil
      simp only [Option.or_none] at represents
      have formats := @format_raw_eq_ok_iff _ true distinct _ _ represents
      rw [read]
      dsimp only
      rw [if_neg nofun, Session.run_bind, Session.run_lift]
      cases formatted : (rawRoute (.compile pattern) true distinct).format given.toValue with
      | error failure =>
        refine iff_of_false nofun fun h => ?_
        obtain ⟨_, _, path, filled, _⟩ := h
        cases formatted.symm.trans (formats.mpr filled)
      | ok path =>
        constructor
        · intro same
          cases same
          exact ⟨distinct, all, path, formats.mp formatted, rfl⟩
        · intro h
          obtain ⟨_, _, other, filled, rfl⟩ := h
          cases formatted.symm.trans (formats.mpr filled)
          rfl
    · obtain ⟨argument, failed⟩ := assignments_of_not_all all []
      rw [failed]
      exact iff_of_false nofun fun h => all h.2.1
  · rw [build_raw_of_repeated distinct]
    exact iff_of_false nofun fun h => distinct h.1

theorem outcome_match {pattern path : Text} (distinct : (Pattern.compile pattern).names.Nodup) {bound : Bindings}
    (matched : (Pattern.compile pattern).matchPath true path = .ok bound) :
    outcome (.matchPath pattern path true) = .ok (.ok (printed (Json.object bound))) := by
  obtain ⟨later, built⟩ := route_run pattern true
  unfold outcome answer matching
  rw [Session.run_bind, built, build_raw distinct]
  show ((Session.matchPath (.compile pattern) true path >>= _ : Session Answer).run later).1 = _
  unfold Session.matchPath
  rw [matched]
  rfl

theorem printed_of_isVisible {text : Text} (visible : ∀ c ∈ text, Json.IsVisible c) : printed text = line text := by
  refine printed_eq_line_iff.mpr fun sequence is found => ?_
  obtain ⟨parameters, letter, rfl, _⟩ := is
  exact absurd (visible Terminal.escape (found.subset List.mem_cons_self)) (by decide)

/-- One line of printable ASCII, and what a reader of JSON has from it under each name. -/
def TellsJson (output : Text) (value? : Text → Option Text) : Prop :=
  ∃ json bound, output = line json ∧ (∀ c ∈ json, Json.IsVisible c) ∧ Json.read? json = some bound ∧
    bound.Represents value?

theorem tellsJson_of_represents {bound : Bindings} {value? : Text → Option Text}
    (represents : bound.Represents value?) : TellsJson (printed (Json.object bound)) value? := by
  have visible := Json.isVisible_of_mem_object bound
  obtain ⟨read, reads, perm⟩ := Json.read?_object bound
  have nodup : (read.map Prod.fst).Nodup := (perm.map Prod.fst).nodup_iff.mpr represents.nodup
  refine ⟨_, read, printed_of_isVisible visible, visible, reads, nodup, fun name => ?_⟩
  rw [lookup_perm perm nodup]
  exact represents.lookup_eq name

structure Fillable (pattern : Pattern) (arguments : List Text) : Prop where
  distinct : pattern.names.Nodup
  assignments : ∀ argument ∈ arguments, IsAssignment argument
  required : ∀ segment ∈ pattern.segments, segment.kind = .param → (lastValue? arguments segment.name).isSome

theorem fill_lastValue?_iff {pattern : Pattern} {arguments : List Text} :
    (∃ path, pattern.fill (.ofKnown (lastValue? arguments)) = .ok path) ↔
      ∀ segment ∈ pattern.segments, segment.kind = .param → (lastValue? arguments segment.name).isSome := by
  simp only [Pattern.fill_eq_ok_iff, Segment.isProvided_ofKnown_iff, exists_and_left, exists_eq, and_true]

theorem exists_matchPath_of_fill {pattern : Pattern} (built : pattern.Built) {known : Text → Option Text}
    {path : Text} (filled : pattern.fill (.ofKnown known) = .ok path)
    (last : pattern.segments.Pairwise fun earlier later =>
      earlier.isOmitted (.ofKnown known) = true → later.isOmitted (.ofKnown known) = true)
    (some : ∃ segment ∈ pattern.segments, segment.isOmitted (.ofKnown known) = false) (exact : Bool) :
    ∃ bound, pattern.matchPath exact path = .ok bound ∧
      bound.Represents fun name => if name ∈ pattern.names then known name else none := by
  have texts : pattern.texts? (.ofKnown known) = fun name => if name ∈ pattern.names then known name else none := by
    funext name
    rw [Pattern.texts?, Assignment.text?_ofKnown]
  obtain ⟨front, back, split, kept, stopped⟩ := Pattern.exists_split (.ofKnown known) pattern.segments
  rw [split] at last some
  obtain ⟨written, omitted⟩ := (Pattern.omitted_last_iff kept stopped).mp ⟨last, some⟩
  have provided := ((Pattern.fill_eq_ok_iff ..).mp filled).1
  exact ⟨_, Pattern.matchPath_fill built filled split written kept omitted exact,
    texts ▸ Pattern.recordAll_represents_texts? provided split kept omitted⟩

def runFormat (pattern : Text) (arguments : List Text) : Report := run ("format" :: pattern :: arguments)

def runMatch (pattern path : Text) : Report := run ["match", pattern, path]

section Runs

variable {pattern : Text}

theorem runFormat_eq (plain : ∀ argument ∈ pattern :: arguments, isOption argument = false) :
    runFormat pattern arguments = report ⟨false, .format pattern arguments false⟩ := by
  unfold runFormat run
  rw [invocation?_format plain]

theorem runFormat_of_fillable (plain : ∀ argument ∈ pattern :: arguments, isOption argument = false)
    (fillable : Fillable (.compile pattern) arguments) :
    ∃ path, (Pattern.compile pattern).fill (.ofKnown (lastValue? arguments)) = .ok path ∧
      runFormat pattern arguments = ⟨0, printed path, []⟩ := by
  obtain ⟨path, filled⟩ := fill_lastValue?_iff.mpr fillable.required
  refine ⟨path, filled, ?_⟩
  rw [runFormat_eq plain]
  exact report_of_outcome (outcome_format_iff.mpr ⟨fillable.distinct, fillable.assignments, path, filled, rfl⟩)

theorem runFormat_of_not_fillable (plain : ∀ argument ∈ pattern :: arguments, isOption argument = false)
    (unfit : ¬ Fillable (.compile pattern) arguments) :
    (runFormat pattern arguments).exitCode = 1 ∧ (runFormat pattern arguments).output = [] := by
  have refused (output : Text) : outcome (.format pattern arguments false) ≠ .ok (.ok output) := by
    intro answered
    obtain ⟨distinct, all, path, filled, _⟩ := outcome_format_iff.mp answered
    exact unfit ⟨distinct, all, fill_lastValue?_iff.mp ⟨path, filled⟩⟩
  obtain ⟨errors, reported⟩ := report_of_no_outcome refused
  rw [runFormat_eq plain, reported]
  exact ⟨rfl, rfl⟩

theorem runMatch_of_matchPath {path : Text} (plain : isOption pattern = false) (plainPath : isOption path = false)
    (distinct : (Pattern.compile pattern).names.Nodup) {bound : Bindings}
    (matched : (Pattern.compile pattern).matchPath true path = .ok bound) :
    runMatch pattern path = ⟨0, printed (Json.object bound), []⟩ := by
  have both : ∀ argument ∈ [pattern, path], isOption argument = false := by
    rw [List.forall_mem_cons, List.forall_mem_singleton]
    exact ⟨plain, plainPath⟩
  unfold runMatch run
  rw [invocation?_match both]
  exact report_of_outcome (outcome_match distinct matched)

/-- A pattern is filled or nothing is printed. The path is printed as it is unless there is a control
    sequence in it, and from the path itself the other command tells the values that were assigned
    last. -/
theorem format_match (plain : ∀ argument ∈ pattern :: arguments, isOption argument = false) :
    ((runFormat pattern arguments).exitCode = 0 ↔ Fillable (.compile pattern) arguments) ∧
      (¬ Fillable (.compile pattern) arguments →
        (runFormat pattern arguments).exitCode = 1 ∧ (runFormat pattern arguments).output = []) ∧
      (Fillable (.compile pattern) arguments →
        ∃ path, (Pattern.compile pattern).fill (.ofKnown (lastValue? arguments)) = .ok path ∧
          (runFormat pattern arguments).output = printed path ∧
          (printed path = line path ↔ Terminal.IsFree path) ∧
          (((Pattern.compile pattern).segments.Pairwise fun earlier later =>
              earlier.isOmitted (.ofKnown (lastValue? arguments)) = true →
                later.isOmitted (.ofKnown (lastValue? arguments)) = true) →
            (∃ segment ∈ (Pattern.compile pattern).segments,
              segment.isOmitted (.ofKnown (lastValue? arguments)) = false) →
            isOption path = false →
            (runMatch pattern path).exitCode = 0 ∧ TellsJson (runMatch pattern path).output fun name =>
              if name ∈ (Pattern.compile pattern).names then lastValue? arguments name else none)) := by
  refine ⟨⟨fun success => ?_, fun fillable => ?_⟩, runFormat_of_not_fillable plain, fun fillable => ?_⟩
  · by_contra unfit
    rw [(runFormat_of_not_fillable plain unfit).1] at success
    cases success
  · obtain ⟨path, _, ran⟩ := runFormat_of_fillable plain fillable
    rw [ran]
  · obtain ⟨path, filled, ran⟩ := runFormat_of_fillable plain fillable
    refine ⟨path, filled, by rw [ran], printed_eq_line_iff, fun last some plainPath => ?_⟩
    obtain ⟨bound, matched, represents⟩ := exists_matchPath_of_fill (.compiled pattern) filled last some true
    rw [runMatch_of_matchPath (plain pattern List.mem_cons_self) plainPath fillable.distinct matched]
    exact ⟨rfl, tellsJson_of_represents represents⟩

theorem format_match_tag :
    (runFormat "/t/:tag/:page?" ["tag=a", "tag=b c"]).exitCode = 0 ∧
      (runFormat "/t/:tag/:page?" ["tag=a", "tag=b c"]).output = line "/t/b%20c" ∧
      (runMatch "/t/:tag/:page?" "/t/b%20c").exitCode = 0 ∧
      TellsJson (runMatch "/t/:tag/:page?" "/t/b%20c").output fun name =>
        if name ∈ (Pattern.compile "/t/:tag/:page?").names then
          lastValue? ["tag=a".toList, "tag=b c".toList] name else none := by
  have plain : ∀ argument ∈ ["/t/:tag/:page?".toList, "tag=a".toList, "tag=b c".toList],
      isOption argument = false := by decide
  have fillable : Fillable (.compile "/t/:tag/:page?") ["tag=a".toList, "tag=b c".toList] :=
    ⟨by decide, by decide, by decide⟩
  have written : (Pattern.compile "/t/:tag/:page?").fill (.ofKnown (lastValue? ["tag=a".toList, "tag=b c".toList])) =
      .ok "/t/b%20c" := (Pattern.fill_eq_ok_iff ..).mpr (by decide +kernel)
  obtain ⟨success, _, told⟩ := format_match plain
  obtain ⟨path, filled, output, _, back⟩ := told fillable
  cases written.symm.trans filled
  have visible : ∀ c ∈ "/t/b%20c".toList, Json.IsVisible c := Json.isVisible_of_all (by decide)
  have told := back (by decide +kernel) (by decide +kernel) (by decide)
  exact ⟨success.mpr fillable, output.trans (printed_of_isVisible visible), told.1, told.2⟩

/-- A control sequence in a literal is not printed, and what is printed does not match. -/
theorem control_sequence_lost :
    (∀ argument ∈ ["/\x1b[0m/:a".toList, "a=1".toList], isOption argument = false) ∧
      runFormat "/\x1b[0m/:a" ["a=1"] = ⟨0, line "//1", []⟩ ∧
      (∀ segment ∈ (Pattern.compile "/\x1b[0m/:a").segments,
        segment.isOmitted (.ofKnown (lastValue? ["a=1".toList])) = false) ∧
      isOption "//1" = false ∧ (runMatch "/\x1b[0m/:a" "//1").exitCode = 1 := by
  decide +kernel

end Runs

end CommandLine

end TypedPath
