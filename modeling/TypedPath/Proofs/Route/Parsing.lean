import TypedPath.Proofs.Pattern.Concatenation
import TypedPath.Proofs.Route.Extension
import TypedPath.Proofs.Validator.Separate

namespace TypedPath

namespace ParseResult

def issues : ParseResult → List Issue
  | .ok _ => []
  | .fail failure => failure.issues?.getD []

/-- What comes of two results together: their data united, or else the issues of both. A breakdown gives no
    result, and the first one hides all else. -/
structure IsUnion (first second whole : Except Failure ParseResult) : Prop where
  accepted : (∃ data, whole = .ok (.ok data)) ↔ (∃ data, first = .ok (.ok data)) ∧ ∃ data, second = .ok (.ok data)
  united : ∀ data, whole = .ok (.ok data) → ∃ left right : List (Text × Value),
    first = .ok (.ok (.map (Value.keyed left))) ∧ second = .ok (.ok (.map (Value.keyed right))) ∧
      data = .map (Value.keyed (left ++ right)) ∧ ((left ++ right).map Prod.fst).Nodup
  refused : ∀ failure, whole = .ok (.fail failure) → ∃ result other, first = .ok result ∧ second = .ok other ∧
    (ParseResult.fail failure).issues.map Issue.withoutInput = (result.issues ++ other.issues).map Issue.withoutInput
  broken : ∀ failure, whole = .error failure ↔
    first = .error failure ∨ (∃ result, first = .ok result) ∧ second = .error failure

theorem isUnion_of_fail {result other : ParseResult} {rejection : Rejection}
    (fails : ¬ ((∃ data, result = .ok data) ∧ ∃ data, other = .ok data))
    (issues : rejection.issues.map Issue.withoutInput = (result.issues ++ other.issues).map Issue.withoutInput) :
    IsUnion (.ok result) (.ok other) (.ok (.fail (.rejected rejection))) where
  accepted := iff_of_false nofun fun ⟨⟨data, first⟩, ⟨more, second⟩⟩ =>
    fails ⟨⟨data, Except.ok.inj first⟩, ⟨more, Except.ok.inj second⟩⟩
  united := nofun
  refused := fun failure same => by
    cases same
    exact ⟨result, other, rfl, rfl, issues⟩
  broken := fun failure => iff_of_false nofun fun h => h.elim nofun fun later => nomatch later.2

theorem isUnion_of_joins {first second whole : Verdict} (joins : Verdict.Joins first second whole) :
    IsUnion (ofVerdict first) (ofVerdict second) (ofVerdict whole) := by
  cases joins with
  | @united left right nodup =>
    refine ⟨iff_of_true ⟨_, rfl⟩ ⟨⟨_, rfl⟩, ⟨_, rfl⟩⟩, fun data same => ?_, nofun, fun failure => ?_⟩
    · cases same
      exact ⟨left, right, rfl, rfl, rfl, nodup⟩
    · exact iff_of_false nofun fun h => h.elim nofun fun later => nomatch later.2
  | left value issues =>
    refine isUnion_of_fail (fun h => nomatch h.1) ?_
    rwa [ParseResult.issues, ParseResult.issues, List.append_nil]
  | right value issues => exact isUnion_of_fail (fun h => nomatch h.2) issues
  | both issues => exact isUnion_of_fail (fun h => nomatch h.1) issues
  | broken breakdown second =>
    refine ⟨iff_of_false nofun fun h => (nomatch h.1), nofun, nofun, fun failure => ?_⟩
    exact ⟨Or.inl, fun h => h.elim id fun later => nomatch later.1⟩
  | brokenLater told breakdown =>
    refine ⟨iff_of_false nofun fun h => (nomatch h.2), nofun, nofun, fun failure => ⟨fun same => .inr ⟨?_, same⟩, ?_⟩⟩
    · rcases first with (rejection | other) | value
      · exact ⟨_, rfl⟩
      · exact absurd rfl (told other)
      · exact ⟨_, rfl⟩
    · rintro (same | ⟨_, same⟩)
      · rcases first with (rejection | other) | value
        · cases same
        · exact absurd rfl (told other)
        · cases same
      · exact same

end ParseResult

namespace Bindings

variable {first second : Bindings} {name : Text}

theorem findText?_entries_append_left (absent : name ∉ second.map Prod.fst) :
    Value.findText? name (first ++ second).entries = Value.findText? name first.entries := by
  rw [findText?_entries, findText?_entries, List.lookup_append, lookup_eq_none_of_not_mem absent, Option.or_none]

theorem findText?_entries_append_right (absent : name ∉ first.map Prod.fst) :
    Value.findText? name (first ++ second).entries = Value.findText? name second.entries := by
  rw [findText?_entries, findText?_entries, List.lookup_append, lookup_eq_none_of_not_mem absent, Option.none_or]

end Bindings

namespace Route

variable {route part joint : Route} {path : Text}

theorem safeParse_of_match {bound : Bindings} (matched : route.matchPath path = .ok bound) :
    route.safeParse path = ParseResult.ofVerdict (route.schema.validate bound.toValue) := by
  unfold safeParse
  rw [matched]
  rfl

theorem safeParse_eq_mismatch_iff :
    route.safeParse path = .ok (.fail .mismatch) ↔ ¬ ∃ bound, route.matchPath path = .ok bound := by
  unfold safeParse
  cases matched : route.matchPath path with
  | error mismatch => exact iff_of_true rfl nofun
  | ok bound =>
    refine iff_of_false ?_ fun none => none ⟨bound, rfl⟩
    show ParseResult.ofVerdict _ ≠ _
    rcases route.schema.validate bound.toValue with (rejection | breakdown) | data <;> exact nofun

structure IsJoint (route part joint : Route) : Prop where
  pattern : joint.pattern = route.pattern ++ part.pattern
  schema : joint.schema = .both route.schema part.schema
  exact : joint.exact = part.exact

section Joint

variable {a b : Text} {first second : Bindings}

theorem IsJoint.disjoint (isJoint : IsJoint route part joint) : route.pattern.names.Disjoint part.pattern.names := by
  have nodup := joint.names_nodup
  rw [isJoint.pattern, Pattern.append_names] at nodup
  exact List.disjoint_of_nodup_append nodup

theorem IsJoint.matchPath_iff (isJoint : IsJoint route part joint)
    (ends : Segment.EndsRequired route.pattern.segments) (matched : route.pattern.matchPath true a = .ok first)
    {bound : Bindings} : joint.matchPath (a ++ Pattern.separator :: b) = .ok bound ↔
      ∃ second, part.matchPath b = .ok second ∧ bound = first ++ second := by
  unfold matchPath
  rw [isJoint.pattern, isJoint.exact, Pattern.matchPath_append_iff_of_front ends matched]
  refine exists_congr fun second => and_congr_right fun partMatched => ?_
  rw [Bindings.update_of_disjoint]
  · exact Pattern.nodup_of_matchPath partMatched
  · intro name inFirst inSecond
    exact isJoint.disjoint (Pattern.mem_names_of_mem_keys matched inFirst)
      (Pattern.mem_names_of_mem_keys partMatched inSecond)

theorem IsJoint.isUnion {m n : Model Shape} (isJoint : IsJoint route part joint)
    (ends : Segment.EndsRequired route.pattern.segments) (exact : route.exact = true)
    (schema : route.schema = .model m false) (partSchema : part.schema = .model n false)
    (only : m.ReadsOnly route.pattern.names) (partOnly : n.ReadsOnly part.pattern.names)
    (matched : route.matchPath a = .ok first) (partMatched : part.matchPath b = .ok second) :
    ParseResult.IsUnion (route.safeParse a) (part.safeParse b) (joint.safeParse (a ++ Pattern.separator :: b)) := by
  have front : route.pattern.matchPath true a = .ok first := exact ▸ matched
  have whole := (isJoint.matchPath_iff ends front).mpr ⟨second, partMatched, rfl⟩
  rw [safeParse_of_match matched, safeParse_of_match partMatched, safeParse_of_match whole]
  apply ParseResult.isUnion_of_joins
  rw [isJoint.schema, schema, partSchema, Bindings.toValue_eq_entries, Bindings.toValue_eq_entries,
    Bindings.toValue_eq_entries]
  refine only.joins partOnly isJoint.disjoint (fun name own => ?_) fun name own => ?_
  · exact Bindings.findText?_entries_append_left fun later =>
      isJoint.disjoint own (Pattern.mem_names_of_mem_keys partMatched later)
  · exact Bindings.findText?_entries_append_right fun earlier =>
      isJoint.disjoint (Pattern.mem_names_of_mem_keys front earlier) own

end Joint

/-- An extended route parses a path as its two parts parse the two parts of the path. -/
theorem safeParse_extend {pattern : Pattern} {tail : Text} {schema partSchema : Schema} {m n : Model Shape}
    {formatSchema relaxedSchema partFormat partRelaxed : Option Schema} {exact : Bool}
    (reads : schema.toValidator = .ok (.model m false)) (partReads : partSchema.toValidator = .ok (.model n false))
    (built : build pattern ⟨schema, formatSchema, relaxedSchema⟩ true = .ok route)
    (partBuilt : build (.compile tail) ⟨partSchema, partFormat, partRelaxed⟩ exact = .ok part)
    (ends : Segment.EndsRequired pattern.segments)
    (disjoint : pattern.names.Disjoint (Pattern.compile tail).names)
    (only : m.ReadsOnly pattern.names) (partOnly : n.ReadsOnly (Pattern.compile tail).names) :
    ∃ joint, route.extend tail ⟨partSchema, partFormat, partRelaxed⟩ (some exact) = .ok joint ∧
      ∀ a b, (∃ first, pattern.matchPath true a = .ok first) →
        (joint.safeParse (a ++ Pattern.separator :: b) = .ok (.fail .mismatch) ↔
          ¬ ∃ second, (Pattern.compile tail).matchPath exact b = .ok second) ∧
        ((∃ second, (Pattern.compile tail).matchPath exact b = .ok second) →
          ParseResult.IsUnion (route.safeParse a) (part.safeParse b)
            (joint.safeParse (a ++ Pattern.separator :: b))) := by
  obtain ⟨validates, _, _, rfl, routeExact⟩ := build_eq_ok built
  obtain ⟨partValidates, _, _, pattern, rfl⟩ := build_eq_ok partBuilt
  rw [← pattern] at disjoint partOnly ⊢
  obtain ⟨joint, extended⟩ := exists_extend partBuilt disjoint (some part.exact)
  obtain ⟨_, _, joinedSchema, _, _, again, joined⟩ := extend_eq_ok_iff.mp extended
  cases Except.ok.inj (again.symm.trans partValidates)
  obtain ⟨jointPattern, jointSchema, _, _, jointExact⟩ := joined_eq_ok_iff.mp joined
  rw [← pattern] at jointPattern
  have isJoint : IsJoint route part joint := ⟨jointPattern, jointSchema, jointExact⟩
  refine ⟨joint, extended, fun a b ⟨first, matched⟩ => ⟨?_, fun ⟨second, partMatched⟩ => ?_⟩⟩
  · rw [safeParse_eq_mismatch_iff]
    simp only [isJoint.matchPath_iff ends matched]
    apply not_congr
    exact ⟨fun ⟨_, second, partMatched, _⟩ => ⟨second, partMatched⟩,
      fun ⟨second, partMatched⟩ => ⟨_, second, partMatched, rfl⟩⟩
  · exact isJoint.isUnion ends routeExact (Except.ok.inj (validates.symm.trans reads))
      (Except.ok.inj (partValidates.symm.trans partReads)) only partOnly
      (by unfold matchPath; rwa [routeExact]) partMatched

theorem fieldModel_readsOnly (name : Text) (shape : Shape) : (fieldModel name shape).ReadsOnly [name] where
  nodup := List.nodup_singleton _
  inputKey := fun field member => by
    cases List.mem_singleton.mp member
    rfl
  ignores := rfl
  own := fun field member => by
    cases List.mem_singleton.mp member
    exact List.mem_singleton_self _

theorem idRoute_made (shape : Shape) :
    build (.compile "/a/:id")
        ⟨.model (fieldModel "id" shape), some (.model (fieldModel "id" shape)), some (.validator .stringify)⟩ true =
      .ok (idRoute shape) := by
  unfold build
  rw [dif_pos (by decide)]
  rfl

theorem safeParse_extend_tag :
    ∃ joint, (idRoute .int).extend ":tag" ⟨.model (fieldModel "tag" .text), none, none⟩ (some true) = .ok joint ∧
      joint.safeParse "/a/5/y/z" = .ok (.fail .mismatch) ∧
      ParseResult.IsUnion ((idRoute .int).safeParse "/a/5") (tagRoute.safeParse "y") (joint.safeParse "/a/5/y") ∧
      ParseResult.IsUnion ((idRoute .int).safeParse "/a/x") (tagRoute.safeParse "y") (joint.safeParse "/a/x/y") := by
  obtain ⟨joint, extended, parses⟩ := safeParse_extend rfl rfl (idRoute_made .int) tagRoute_made
    ⟨⟨.param, [], "id"⟩, rfl, rfl⟩ (idRoute_disjoint_tagRoute .int) (fieldModel_readsOnly "id" .int) (fieldModel_readsOnly "tag" .text)
  refine ⟨joint, extended, (parses "/a/5" "y/z" ⟨_, rfl⟩).1.mpr ?_, (parses "/a/5" "y" ⟨_, rfl⟩).2 ⟨_, rfl⟩,
    (parses "/a/x" "y" ⟨_, rfl⟩).2 ⟨_, rfl⟩⟩
  rintro ⟨_, matched⟩
  cases matched

end Route

end TypedPath
