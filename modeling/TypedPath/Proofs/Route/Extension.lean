import TypedPath.Proofs.Pattern.Filling
import TypedPath.Proofs.Route.Basic
import TypedPath.Proofs.Validator.Joined

namespace TypedPath

namespace Segment

variable {values others : Assignment}

theorem components_congr {segments : List Segment}
    (agree : ∀ name ∈ (segments.filter isParam).map Segment.name, values name = others name) :
    components values segments = components others segments := by
  induction segments with
  | nil => rfl
  | cons segment segments ih =>
    unfold components
    cases param : segment.isParam with
    | false =>
      rw [List.filter_cons_of_neg (by simp [param])] at agree
      simp only [Bool.false_eq_true, ite_false, ih agree]
    | true =>
      rw [List.filter_cons_of_pos param, List.map_cons, List.forall_mem_cons] at agree
      have given : segment.given? values = segment.given? others := by
        unfold given?
        rw [agree.1]
      rw [given, ih agree.2]

theorem components_append {front back : List Segment} {frontParts backParts : List Text}
    (written : components values front = .ok frontParts) (later : components values back = .ok backParts) :
    components values (front ++ back) = .ok (frontParts ++ backParts) := by
  rw [components_eq_ok_iff] at written later ⊢
  refine ⟨List.forall_mem_append.mpr ⟨written.1, later.1⟩, ?_⟩
  rw [List.filter_append, List.map_append, ← written.2, ← later.2]

end Segment

theorem Text.join_append {separator : Char} {front back : List Text} (some : front ≠ []) (more : back ≠ []) :
    join [separator] (front ++ back) = join [separator] front ++ separator :: join [separator] back := by
  unfold join
  induction front with
  | nil => exact absurd rfl some
  | cons piece rest ih =>
    by_cases last : rest = []
    · subst last
      rw [List.singleton_append, List.intercalate_cons_of_ne_nil more, List.intercalate_singleton]
      rw [List.append_assoc, List.singleton_append]
    · rw [List.cons_append, List.intercalate_cons_of_ne_nil (List.append_ne_nil_of_left_ne_nil last back), ih last,
        List.intercalate_cons_of_ne_nil last]
      simp only [List.append_assoc]

namespace Pattern

theorem fill_eq_ok_iff_join {pattern : Pattern} {values : Assignment} {path : Text} :
    pattern.fill values = .ok path ↔
      ∃ parts, Segment.components values pattern.segments = .ok parts ∧ path = Text.join [separator] parts := by
  unfold fill
  cases Segment.components values pattern.segments with
  | error missing => exact iff_of_false nofun (by simp)
  | ok parts => simp [Except.map, eq_comm]

end Pattern

namespace Route

variable {route part joint : Route} {tail a b : Text} {schemas : RouteSchemas} {exact : Option Bool}

theorem extend_eq_ok (extended : route.extend tail schemas exact = .ok joint) :
    ∃ format, schemas.format = .ok format ∧ joint.pattern = route.pattern ++ .compile tail ∧
      joint.formatSchema = .both route.formatSchema format := by
  obtain ⟨format, relaxed, schema, formats, _, _, joins⟩ := extend_eq_ok_iff.mp extended
  obtain ⟨pattern, _, formatSchema, _, _⟩ := joined_eq_ok_iff.mp joins
  exact ⟨format, formats, pattern, formatSchema⟩

theorem exists_extend {partExact : Bool} (built : build (.compile tail) schemas partExact = .ok part)
    (disjoint : route.pattern.names.Disjoint part.pattern.names) (exact : Option Bool) :
    ∃ joint, route.extend tail schemas exact = .ok joint := by
  obtain ⟨validates, formats, relaxes, pattern, _⟩ := build_eq_ok built
  have nodup : (route.pattern ++ Pattern.compile tail).names.Nodup := by
    rw [← pattern, Pattern.append_names]
    exact route.names_nodup.append part.names_nodup disjoint
  unfold extend joined
  simp only [formats, relaxes, validates, bind, Except.bind, dif_pos nodup]
  exact ⟨_, rfl⟩

/-- The route writes a path with at least one component of these values for its own parameters. -/
structure Renders (route : Route) (given : List (Text × Value)) (path : Text) : Prop where
  distinct : (given.map Prod.fst).Nodup
  own : ∀ pair ∈ given, pair.1 ∈ route.pattern.names
  written : route.format (.map (Value.keyed given)) = .ok path
  emits : ∃ values parts, inverse route.formatSchema route.pattern (.map (Value.keyed given)) = .ok values ∧
    Segment.components values route.pattern.segments = .ok parts ∧ parts ≠ []

/-- The format schema makes of every value the text that the default makes of it. -/
def FormatsAsDefault (route : Route) (given : List (Text × Value)) : Prop :=
  ∃ values, inverse route.formatSchema route.pattern (.map (Value.keyed given)) = .ok values ∧
    ∀ pair ∈ given, pair.2.HasText ∧
      (pair.2.isNone = false → values pair.1 = some (.text (Stringify.scalarText pair.2)))

/-- A part with the default format schema sees the values of the other part too, and has to make the
    same of them. -/
def FitsWith (route part : Route) (given more : List (Text × Value)) : Prop :=
  (part.formatSchema = .stringify → route.FormatsAsDefault given) ∧
    (route.formatSchema = .stringify → part.FormatsAsDefault more)

variable {given more all out moreOut merged : List (Text × Value)}

theorem formatsAsDefault_iff (accepted : route.formatSchema.validate (.map (Value.keyed given)) =
      .ok (.map (Value.keyed out))) :
    route.FormatsAsDefault given ↔ Validator.IsAsDefault given out := by
  have made : inverse route.formatSchema route.pattern (.map (Value.keyed given)) =
      .ok (.ofEntries (Value.keyed out)) := inverse_eq_ok_iff.mpr ⟨_, accepted, rfl⟩
  unfold FormatsAsDefault Validator.IsAsDefault
  simp only [made, Except.ok.injEq, exists_eq_left', Assignment.ofEntries, Value.findText?_keyed]

theorem Renders.exists_parts (renders : route.Renders given a)
    (only : route.formatSchema.WritesOnly route.pattern.names) :
    ∃ out parts, route.formatSchema.Writes route.pattern.names given out ∧
      Segment.components (.ofEntries (Value.keyed out)) route.pattern.segments = .ok parts ∧ parts ≠ [] ∧
      a = Text.join [Pattern.separator] parts ∧ route.pattern.canSpecialize (.ofEntries (Value.keyed out)) = true := by
  obtain ⟨entries, accepted, filled, short⟩ := format_eq_ok_iff.mp renders.written
  obtain ⟨values, parts, made, components, some⟩ := renders.emits
  cases made.symm.trans (inverse_eq_ok_iff.mpr ⟨entries, accepted, rfl⟩)
  obtain ⟨out, keyed, writes⟩ := only.exists_writes route.names_nodup renders.distinct renders.own accepted
  cases keyed
  obtain ⟨others, found, path⟩ := Pattern.fill_eq_ok_iff_join.mp filled
  rw [components] at found
  cases found
  exact ⟨out, parts, writes, components, some, path, short⟩

theorem components_of_lookup {names : List Text} {segments : List Segment}
    (same : (segments.filter Segment.isParam).map Segment.name = names)
    (agree : ∀ name ∈ names, merged.lookup name = out.lookup name) :
    Segment.components (.ofEntries (Value.keyed merged)) segments =
      Segment.components (.ofEntries (Value.keyed out)) segments := by
  apply Segment.components_congr
  intro name member
  unfold Assignment.ofEntries
  rw [Value.findText?_keyed, Value.findText?_keyed, agree name (same ▸ member)]

theorem components_joint {joint : Pattern} {left right : Pattern} {leftOut rightOut : List (Text × Value)}
    {parts moreParts : List Text} (pattern : joint = left ++ right)
    (kept : Validator.IsJoint left.names right.names leftOut rightOut merged)
    (components : Segment.components (.ofEntries (Value.keyed leftOut)) left.segments = .ok parts)
    (moreComponents : Segment.components (.ofEntries (Value.keyed rightOut)) right.segments = .ok moreParts) :
    Segment.components (.ofEntries (Value.keyed merged)) joint.segments = .ok (parts ++ moreParts) := by
  rw [pattern, Pattern.append_segments]
  apply Segment.components_append
  · rw [components_of_lookup rfl kept.1, components]
  · rw [components_of_lookup rfl kept.2, moreComponents]

theorem canSpecialize_of_lookup {pattern : Pattern}
    (agree : ∀ name ∈ pattern.names, merged.lookup name = out.lookup name) :
    pattern.canSpecialize (.ofEntries (Value.keyed merged)) = pattern.canSpecialize (.ofEntries (Value.keyed out)) := by
  refine Pattern.canSpecialize_congr fun name isName => ?_
  unfold Assignment.ofEntries
  rw [Value.findText?_keyed, Value.findText?_keyed, agree name isName]

theorem canSpecialize_joint {joint : Pattern} {left right : Pattern} {leftOut rightOut : List (Text × Value)}
    (pattern : joint = left ++ right) (kept : Validator.IsJoint left.names right.names leftOut rightOut merged)
    (short : left.canSpecialize (.ofEntries (Value.keyed leftOut)) = true)
    (moreShort : right.canSpecialize (.ofEntries (Value.keyed rightOut)) = true) :
    joint.canSpecialize (.ofEntries (Value.keyed merged)) = true := by
  have both : (left ++ right).canSpecialize (.ofEntries (Value.keyed merged)) =
      (left.canSpecialize (.ofEntries (Value.keyed merged)) &&
        right.canSpecialize (.ofEntries (Value.keyed merged))) := List.all_append
  rw [pattern, both, canSpecialize_of_lookup kept.1, canSpecialize_of_lookup kept.2, short, moreShort]
  rfl

/-- An extended route writes the path of the route followed by that of the part, where both or none
    have the default format schema or the two fit. Where they do not, it rejects the values, or one that is
    too long stops it. -/
theorem format_extend {schema : Schema} {formatSchema relaxedSchema : Option Schema} {partExact : Bool}
    (built : build (.compile tail) ⟨schema, formatSchema, relaxedSchema⟩ partExact = .ok part)
    (routeOnly : route.formatSchema.WritesOnly route.pattern.names)
    (partOnly : part.formatSchema.WritesOnly part.pattern.names)
    (disjoint : route.pattern.names.Disjoint part.pattern.names) (first : route.Renders given a)
    (second : part.Renders more b) (perm : all.Perm (given ++ more)) :
    (∀ exact, ∃ joint, route.extend tail ⟨schema, formatSchema, relaxedSchema⟩ exact = .ok joint) ∧
      ∀ relaxed exact joint, route.extend tail ⟨schema, formatSchema, relaxed⟩ exact = .ok joint →
        ((route.formatSchema = .stringify ↔ part.formatSchema = .stringify) ∨ route.FitsWith part given more →
          joint.format (.map (Value.keyed all)) = .ok (a ++ Pattern.separator :: b)) ∧
        (¬ route.FitsWith part given more →
          (∃ rejection, joint.format (.map (Value.keyed all)) =
            .error (.format (.rejected joint.pattern.text rejection))) ∨
          (∃ pair ∈ all, pair.2.isWritable = false) ∧
            joint.format (.map (Value.keyed all)) = .error (.broken .oversized)) := by
  refine ⟨exists_extend built disjoint, fun relaxed exact joint extended => ?_⟩
  obtain ⟨out, parts, writes, components, some, rfl, short⟩ := first.exists_parts routeOnly
  obtain ⟨moreOut, moreParts, moreWrites, moreComponents, moreSome, rfl, moreShort⟩ := second.exists_parts partOnly
  have united := Validator.united_of_perm disjoint writes moreWrites perm
  have fits : route.FitsWith part given more ↔
      route.formatSchema.Fits part.formatSchema given out more moreOut := by
    unfold FitsWith Validator.Fits
    rw [formatsAsDefault_iff writes.accepted, formatsAsDefault_iff moreWrites.accepted]
  obtain ⟨_, formats, _, partPattern, _⟩ := build_eq_ok built
  obtain ⟨format, again, pattern, jointFormat⟩ := extend_eq_ok extended
  -- the format schema does not depend on the one for a part of the fields
  cases Except.ok.inj (again.symm.trans formats)
  rw [← partPattern] at pattern
  rw [fits]
  constructor
  · intro h
    have fitting := h.elim (Validator.fits_of_iff writes moreWrites) id
    obtain ⟨merged, accepted, kept⟩ := Validator.both_of_fits disjoint united route.names_nodup part.names_nodup
      routeOnly partOnly writes moreWrites fitting
    refine format_eq_ok_iff.mpr ⟨Value.keyed merged, by rw [jointFormat, accepted], ?_,
      canSpecialize_joint pattern kept short moreShort⟩
    refine Pattern.fill_eq_ok_iff_join.mpr ⟨parts ++ moreParts, ?_, (Text.join_append some moreSome).symm⟩
    exact components_joint pattern kept components moreComponents
  · intro clash
    rcases Validator.refuses_of_not_fits united route.names_nodup part.names_nodup routeOnly partOnly writes moreWrites
      clash with ⟨rejection, rejected⟩ | ⟨long, stopped⟩
    · exact .inl ⟨rejection, format_of_rejected (jointFormat ▸ rejected)⟩
    · exact .inr ⟨long, format_of_broken (jointFormat ▸ stopped)⟩

def fieldModel (name : Text) (shape : Shape) : Model Shape :=
  { name := "Field", mark := none, above := [], extra := .ignore
    fields := [⟨name, shape, none, none, .free, none, none⟩] }

theorem fieldModel_writesOnly (name : Text) (shape : Shape) :
    (Validator.model (fieldModel name shape) false).WritesOnly [name] := by
  refine .model (fun field member => ?_) rfl (.refl _)
  cases List.mem_singleton.mp member
  rfl

def idRoute (shape : Shape) : Route :=
  ⟨.compile "/a/:id", .model (fieldModel "id" shape) false, .model (fieldModel "id" shape) false, .stringify, true,
    by decide⟩

def tagRoute : Route :=
  ⟨.compile ":tag", .model (fieldModel "tag" .text) false, .stringify, .stringify, true, by decide⟩

theorem idRoute_writesOnly (shape : Shape) : (idRoute shape).formatSchema.WritesOnly (idRoute shape).pattern.names :=
  fieldModel_writesOnly "id" shape

theorem idRoute_disjoint_tagRoute (shape : Shape) : (idRoute shape).pattern.names.Disjoint tagRoute.pattern.names := by
  show List.Disjoint ["id".toList] ["tag".toList]
  rw [List.disjoint_singleton]
  decide

theorem tagRoute_made :
    build (.compile ":tag") ⟨.model (fieldModel "tag" .text), none, none⟩ true = .ok tagRoute := by
  unfold build
  rw [dif_pos (by decide)]
  rfl

theorem tagRoute_renders : tagRoute.Renders [("tag", .text "y")] "y" where
  distinct := by decide
  own := by decide
  written := rfl
  emits := ⟨_, ["y"], rfl, rfl, by decide⟩

theorem idRoute_renders_text : (idRoute .text).Renders [("id", .text "5")] "/a/5" where
  distinct := by decide
  own := by decide
  written := rfl
  emits := ⟨_, ["", "a", "5"], rfl, rfl, by decide⟩

theorem idRoute_renders_int : (idRoute .int).Renders [("id", .int 5)] "/a/5" where
  distinct := by decide
  own := by decide
  written := rfl
  emits := ⟨_, ["", "a", "5"], rfl, rfl, by decide⟩

theorem idRoute_fitsWith_tagRoute :
    (idRoute .text).FitsWith tagRoute [("id", .text "5")] [("tag", .text "y")] := by
  refine ⟨fun _ => ⟨_, rfl, fun pair member => ?_⟩, nofun⟩
  cases List.mem_singleton.mp member
  exact ⟨⟨rfl, rfl⟩, fun _ => rfl⟩

theorem format_extend_text :
    ∃ joint, (idRoute .text).extend ":tag" ⟨.model (fieldModel "tag" .text), none, none⟩ none = .ok joint ∧
      joint.format (.map [(.text "tag", .text "y"), (.text "id", .text "5")]) = .ok "/a/5/y" := by
  have whole := format_extend tagRoute_made (idRoute_writesOnly .text) .stringify (idRoute_disjoint_tagRoute .text)
    idRoute_renders_text tagRoute_renders (.swap _ _ _)
  obtain ⟨joint, extended⟩ := whole.1 none
  exact ⟨joint, extended, (whole.2 none none joint extended).1 (.inr idRoute_fitsWith_tagRoute)⟩

/-- An `int` that a model leaves as it is and the default writes as a text stands in the way. -/
theorem extension_conflict :
    (idRoute .int).formatSchema.WritesOnly (idRoute .int).pattern.names ∧
      tagRoute.formatSchema.WritesOnly tagRoute.pattern.names ∧
      (idRoute .int).pattern.names.Disjoint tagRoute.pattern.names ∧
      build (.compile ":tag") ⟨.model (fieldModel "tag" .text), none, none⟩ true = .ok tagRoute ∧
      (idRoute .int).Renders [("id", .int 5)] "/a/5" ∧ tagRoute.Renders [("tag", .text "y")] "y" ∧
      ∃ joint, (idRoute .int).extend ":tag" ⟨.model (fieldModel "tag" .text), none, none⟩ none = .ok joint ∧
        joint.format (.map [(.text "id", .int 5), (.text "tag", .text "y")]) =
          .error (.format (.rejected "/a/:id/:tag"
            ⟨[Merge.conflictAt (.text "id") (.int 5) (.text "5")], .check⟩)) :=
  ⟨idRoute_writesOnly .int, .stringify, idRoute_disjoint_tagRoute .int, tagRoute_made, idRoute_renders_int,
    tagRoute_renders, _, rfl, rfl⟩

end Route

end TypedPath
