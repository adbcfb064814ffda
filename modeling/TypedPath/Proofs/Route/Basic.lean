import TypedPath.Proofs.Pattern.RoundTrip
import TypedPath.Proofs.Value.Keyed
import TypedPath.Route.Basic

namespace TypedPath

theorem Validator.safeParse_eq_ok_iff {validator : Validator} {input data : Value} :
    validator.safeParse input = .ok (.ok data) ↔ validator.validate input = .ok data := by
  unfold safeParse ParseResult.ofVerdict
  rcases validator.validate input with (rejection | breakdown) | found
  · exact iff_of_false nofun nofun
  · exact iff_of_false nofun nofun
  · constructor <;> (intro h; cases h; rfl)

theorem Segment.isWritable_of_writable {pairs : List (Text × Value)}
    (writable : ∀ pair ∈ pairs, pair.2.isWritable = true) (segment : Segment) :
    segment.isWritable (.ofEntries (Value.keyed pairs)) = true := by
  unfold Segment.isWritable
  cases given : segment.given? (.ofEntries (Value.keyed pairs)) with
  | none => exact Bool.or_true _
  | some value =>
    have held := Segment.eq_some_of_given? given
    obtain ⟨pair, member, same⟩ := List.mem_map.mp (Value.mem_of_findText? held)
    have short := writable pair member
    rw [(Prod.ext_iff.mp same).2] at short
    rw [Option.all_some, short, Bool.or_true]

namespace Pattern

variable {pattern : Pattern} {values : Assignment} {text : Text}

theorem canSpecialize_congr {others : Assignment} (agree : ∀ name ∈ pattern.names, values name = others name) :
    pattern.canSpecialize values = pattern.canSpecialize others := by
  unfold canSpecialize
  rw [Bool.eq_iff_iff, List.all_eq_true, List.all_eq_true]
  refine forall₂_congr fun segment member => ?_
  unfold Segment.isWritable Segment.given?
  cases param : segment.isParam with
  | false => exact Iff.rfl
  | true =>
    have isName : segment.name ∈ pattern.names := List.mem_map_of_mem (List.mem_filter.mpr ⟨member, param⟩)
    rw [agree _ isName]

theorem canFill_eq_canSpecialize (filled : pattern.fill values = .ok text) :
    pattern.canFill values = pattern.canSpecialize values :=
  Segment.areWritable_of_provided ((fill_eq_ok_iff ..).mp filled).1

theorem write_eq_ok_iff : pattern.write values = .ok text ↔
    pattern.fill values = .ok text ∧ pattern.canSpecialize values = true := by
  unfold write
  cases filled : pattern.fill values with
  | error missing =>
    refine iff_of_false ?_ (fun both => nomatch both.1)
    split <;> exact nofun
  | ok other =>
    rw [canFill_eq_canSpecialize filled]
    split
    · rename_i short
      exact ⟨fun written => ⟨congrArg _ (Except.ok.inj written), short⟩, fun both => congrArg _ (Except.ok.inj both.1)⟩
    · rename_i long
      exact iff_of_false nofun fun both => long both.2

theorem writePart_eq_ok_iff : pattern.writePart values = .ok text ↔
    text = pattern.specialize values ∧ pattern.canSpecialize values = true := by
  unfold writePart
  split
  · rename_i short
    exact ⟨fun written => ⟨(Except.ok.inj written).symm, short⟩, fun both => congrArg _ both.1.symm⟩
  · rename_i long
    exact iff_of_false nofun fun both => long both.2

variable {pairs : List (Text × Value)} (writable : ∀ pair ∈ pairs, pair.2.isWritable = true)

include writable

theorem canSpecialize_of_writable (pattern : Pattern) : pattern.canSpecialize (.ofEntries (Value.keyed pairs)) = true :=
  List.all_eq_true.mpr fun segment _ => Segment.isWritable_of_writable writable segment

theorem write_of_writable (pattern : Pattern) : pattern.write (.ofEntries (Value.keyed pairs)) =
    (pattern.fill (.ofEntries (Value.keyed pairs))).mapError fun missing =>
      .format (.missing missing.name pattern.text) :=
  if_pos (Segment.areWritable_of_all fun segment _ => Segment.isWritable_of_writable writable segment)

theorem writePart_of_writable (pattern : Pattern) : pattern.writePart (.ofEntries (Value.keyed pairs)) =
    .ok (pattern.specialize (.ofEntries (Value.keyed pairs))) :=
  if_pos (canSpecialize_of_writable writable pattern)

end Pattern

namespace Route

variable {route : Route}

theorem parse_eq_ok_iff {path : Text} {v : Value} :
    route.parse path = .ok v ↔
      ∃ bound, route.matchPath path = .ok bound ∧ route.schema.validate bound.toValue = .ok v := by
  unfold parse safeParse
  cases matched : route.matchPath path with
  | error mismatch =>
    apply iff_of_false nofun
    intro h
    obtain ⟨_, other, _⟩ := h
    cases other
  | ok bound =>
    constructor
    · intro parsed
      dsimp only at parsed
      split at parsed
      · rename_i data accepted
        cases parsed
        exact ⟨bound, rfl, Validator.safeParse_eq_ok_iff.mp accepted⟩
      · cases parsed
      · cases parsed
    · intro h
      obtain ⟨_, same, accepted⟩ := h
      cases same
      dsimp only
      rw [Validator.safeParse_eq_ok_iff.mpr accepted]

theorem inverse_eq_ok_iff {validator : Validator} {pattern : Pattern} {params : Value} {values : Assignment} :
    inverse validator pattern params = .ok values ↔
      ∃ entries, validator.validate params = .ok (.map entries) ∧ values = .ofEntries entries := by
  unfold inverse
  constructor
  · intro made
    split at made
    · rename_i entries accepted
      cases made
      exact ⟨entries, accepted, rfl⟩
    · cases made
    · cases made
    · cases made
  · intro h
    obtain ⟨entries, accepted, rfl⟩ := h
    rw [accepted]

theorem inverse_bind_eq_ok_iff {validator : Validator} {pattern : Pattern} {params : Value}
    {write : Assignment → Except Failure Text} {text : Text} :
    (inverse validator pattern params >>= write) = .ok text ↔
      ∃ entries, validator.validate params = .ok (.map entries) ∧ write (.ofEntries entries) = .ok text := by
  cases made : inverse validator pattern params with
  | error failure =>
    apply iff_of_false nofun
    intro h
    obtain ⟨entries, accepted, _⟩ := h
    rw [inverse_eq_ok_iff.mpr ⟨entries, accepted, rfl⟩] at made
    cases made
  | ok values =>
    obtain ⟨entries, accepted, rfl⟩ := inverse_eq_ok_iff.mp made
    constructor
    · exact fun written => ⟨entries, accepted, written⟩
    · intro h
      obtain ⟨others, same, written⟩ := h
      cases accepted.symm.trans same
      exact written

theorem format_eq_ok_iff {params : Value} {path : Text} :
    route.format params = .ok path ↔ ∃ entries, route.formatSchema.validate params = .ok (.map entries) ∧
      route.pattern.fill (.ofEntries entries) = .ok path ∧
      route.pattern.canSpecialize (.ofEntries entries) = true := by
  unfold format
  rw [inverse_bind_eq_ok_iff]
  exact exists_congr fun entries => and_congr_right fun _ => Pattern.write_eq_ok_iff

theorem specialize_eq_ok_iff {params : Value} {text : Text} :
    route.specialize params = .ok text ↔ ∃ entries, route.relaxedSchema.validate params = .ok (.map entries) ∧
      text = route.pattern.specialize (.ofEntries entries) ∧
      route.pattern.canSpecialize (.ofEntries entries) = true := by
  unfold specialize
  rw [inverse_bind_eq_ok_iff]
  exact exists_congr fun entries => and_congr_right fun _ => Pattern.writePart_eq_ok_iff

theorem format_of_rejected {params : Value} {rejection : Rejection}
    (rejected : route.formatSchema.validate params = .error (.rejected rejection)) :
    route.format params = .error (.format (.rejected route.pattern.text rejection)) := by
  have failed : inverse route.formatSchema route.pattern params =
      .error (.format (.rejected route.pattern.text rejection)) := by
    unfold inverse
    rw [rejected]
  unfold format
  rw [failed]
  rfl

theorem format_of_broken {params : Value} {breakdown : Breakdown}
    (broken : route.formatSchema.validate params = .error (.broken breakdown)) :
    route.format params = .error (.broken breakdown) := by
  have failed : inverse route.formatSchema route.pattern params = .error (.broken breakdown) := by
    unfold inverse
    rw [broken]
  unfold format
  rw [failed]
  rfl

theorem build_eq_ok {pattern : Pattern} {schemas : RouteSchemas} {exact : Bool}
    (made : build pattern schemas exact = .ok route) :
    schemas.schema.toValidator = .ok route.schema ∧ schemas.format = .ok route.formatSchema ∧
      schemas.relaxed route.formatSchema = .ok route.relaxedSchema ∧ route.pattern = pattern ∧
      route.exact = exact := by
  unfold build at made
  split at made
  · simp only [bind, Except.bind, pure, Except.pure] at made
    split at made
    · cases made
    · rename_i schema validates
      split at made
      · cases made
      · rename_i format formats
        split at made
        · cases made
        · rename_i relaxed relaxes
          cases made
          exact ⟨validates, formats, relaxes, rfl, rfl⟩
  · cases made

variable {joint : Route} {exact : Option Bool}

theorem joined_eq_ok_iff {pattern : Pattern} {schema format relaxed : Validator} :
    route.joined pattern schema format relaxed exact = .ok joint ↔
      joint.pattern = route.pattern ++ pattern ∧ joint.schema = .both route.schema schema ∧
        joint.formatSchema = .both route.formatSchema format ∧
        joint.relaxedSchema = .both route.relaxedSchema relaxed ∧ joint.exact = exact.getD route.exact := by
  unfold joined
  dsimp only
  split
  · constructor
    · intro made
      cases made
      exact ⟨rfl, rfl, rfl, rfl, rfl⟩
    · intro h
      obtain ⟨⟩ := joint
      obtain ⟨rfl, rfl, rfl, rfl, rfl⟩ := h
      rfl
  · rename_i repeated
    exact iff_of_false nofun fun h => repeated (h.1 ▸ joint.names_nodup)

theorem extend_eq_ok_iff {tail : Text} {schemas : RouteSchemas} :
    route.extend tail schemas exact = .ok joint ↔ ∃ format relaxed schema, schemas.format = .ok format ∧
      schemas.relaxed format = .ok relaxed ∧ schemas.schema.toValidator = .ok schema ∧
      route.joined (.compile tail) schema format relaxed exact = .ok joint := by
  simp only [extend, bind, Except.bind]
  constructor
  · intro extended
    split at extended
    · cases extended
    · rename_i format formats
      split at extended
      · cases extended
      · rename_i relaxed relaxes
        split at extended
        · cases extended
        · rename_i schema validates
          exact ⟨format, relaxed, schema, formats, relaxes, validates, extended⟩
  · intro h
    obtain ⟨format, relaxed, schema, formats, relaxes, validates, joins⟩ := h
    simp only [formats, relaxes, validates]
    exact joins

end Route

end TypedPath
