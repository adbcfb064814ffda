import TypedPath.Proofs.Pattern.Omission
import TypedPath.Proofs.Route.Basic
import TypedPath.Proofs.Schema.Plain
import TypedPath.Proofs.Validator.Stringify

namespace TypedPath

/-- The fields of a plain model are the parameters of a pattern, and an optional parameter that is
    left out has no value. -/
structure Model.Describes (m : Model Shape) (pattern : Pattern) : Prop where
  plain : ∀ field ∈ m.fields, field.IsPlain
  names : (m.fields.map Field.name).Perm pattern.names
  default : ∀ field ∈ m.fields, ∀ segment ∈ pattern.segments, segment.kind = .optionalParam →
    segment.name = field.name → field.default = none ∨ field.default = some .none

namespace Model.Describes

variable {m : Model Shape} {pattern : Pattern}

theorem nodup (describes : m.Describes pattern) (distinct : pattern.names.Nodup) : (m.fields.map Field.name).Nodup :=
  describes.names.nodup_iff.mpr distinct

theorem default_of_unbound (describes : m.Describes pattern) (built : pattern.Built) (distinct : pattern.names.Nodup)
    (ordered : pattern.IsOrdered) {exact : Bool} {path : Text} {bound : Bindings}
    (matched : pattern.matchPath exact path = .ok bound) :
    ∀ field ∈ m.fields, bound.lookup field.name = none → field.default = none ∨ field.default = some .none := by
  intro field member absent
  obtain ⟨front, back, split, _, held, unbound⟩ := (ordered.omitsAtEnd bound).exists_unbound_end built distinct matched
  obtain ⟨segment, isParam, same⟩ := List.mem_map.mp (describes.names.mem_iff.mp (List.mem_map_of_mem member))
  obtain ⟨inSegments, param⟩ := List.mem_filter.mp isParam
  have inParts := inSegments
  rw [split] at inParts
  rcases List.mem_append.mp inParts with inFront | inBack
  · have isSome := held segment inFront param
    rw [same, absent] at isSome
    cases isSome
  · exact describes.default field member segment inSegments (unbound segment inBack).1 same

theorem mem_names_of_matchPath (describes : m.Describes pattern) {exact : Bool} {path : Text} {bound : Bindings}
    (matched : pattern.matchPath exact path = .ok bound) :
    ∀ pair ∈ bound, pair.1 ∈ m.fields.map Field.name :=
  fun _ member => describes.names.mem_iff.mpr (Pattern.mem_names_of_matchPath matched member)

end Model.Describes

namespace Route

variable {m : Model Shape} {pattern : Pattern} {extra : ExtraPolicy}

theorem isScalar_of_yields {field : Field Shape} (plain : field.IsPlain) {text? : Option Text} {v : Value}
    (yields : field.Yields extra text? (some v)) : v.isScalar = true := by
  cases text? with
  | none => exact absurd yields id
  | some t => exact Shape.isScalar_of_validateIn plain.single yields

theorem hasText_of_yields {field : Field Shape} (plain : field.IsPlain) {text? : Option Text} {v : Value}
    (yields : field.Yields extra text? (some v)) : v.HasText := by
  refine ⟨Value.isContainer_of_isScalar (isScalar_of_yields plain yields), ?_⟩
  cases text? with
  | none => exact absurd yields id
  | some t => exact Shape.isWritable_of_validateIn plain.single yields

/-- The text of a value yields the value again, and no text yields none. -/
theorem yields_scalarText {field : Field Shape} (plain : field.IsPlain) {text? : Option Text} {value? : Option Value}
    (yields : field.Yields extra text? value?) :
    field.Yields extra (value?.map Stringify.scalarText) value? := by
  cases text? with
  | none =>
    cases value? with
    | none => exact yields
    | some v => exact absurd yields id
  | some t =>
    cases value? with
    | none => exact absurd yields id
    | some v => exact Shape.validateIn_scalarText plain.single yields

theorem isSome_of_yields {field : Field Shape} {text? : Option Text} {value? : Option Value}
    (yields : field.Yields extra text? value?) : value?.isSome = text?.isSome := by
  cases text? <;> cases value? <;> first | rfl | exact absurd yields id

def writtenTexts (m : Model Shape) (value? : Text → Option Value) : Assignment :=
  .ofEntries (Value.keyed (Stringify.texts (named (m.fields.map Field.name) value?)))

theorem stringify_written (nodup : (m.fields.map Field.name).Nodup) {value? : Text → Option Value}
    (texted : ∀ name ∈ m.fields.map Field.name, ∀ v, value? name = some v → v.HasText) :
    Stringify.run (m.written value?) =
      .ok (.map (Value.keyed (Stringify.texts (named (m.fields.map Field.name) value?)))) := by
  refine (Stringify.run_keyed_eq_ok_iff (nodup_named nodup value?)).mpr ⟨?_, rfl⟩
  intro pair member
  obtain ⟨name, isName, found⟩ := List.mem_filterMap.mp member
  obtain ⟨v, held, rfl⟩ := Option.map_eq_some_iff.mp found
  exact texted name isName v held

theorem writtenTexts_eq (nodup : (m.fields.map Field.name).Nodup) {value? : Text → Option Value} {name : Text}
    (isName : name ∈ m.fields.map Field.name) (scalar : ∀ v, value? name = some v → v.isScalar = true) :
    writtenTexts m value? name = (value? name).map fun v => .text (Stringify.scalarText v) := by
  unfold writtenTexts Assignment.ofEntries
  rw [Value.findText?_keyed, Stringify.lookup_texts (nodup_named nodup value?), lookup_named, if_pos isName]
  cases held : value? name with
  | none => rfl
  | some v => simp [Stringify.text?, Value.isNone_of_isScalar (scalar v held)]

theorem text?_writtenTexts (nodup : (m.fields.map Field.name).Nodup) {value? : Text → Option Value} {name : Text}
    (isName : name ∈ m.fields.map Field.name) (scalar : ∀ v, value? name = some v → v.isScalar = true) :
    (writtenTexts m value?).text? name = (value? name).map Stringify.scalarText := by
  unfold Assignment.text?
  rw [writtenTexts_eq nodup isName scalar]
  cases value? name <;> rfl

theorem exists_field_of_yields {texts : Bindings} {value? : Text → Option Value}
    (yields : ∀ field ∈ m.fields, field.Yields m.extra (texts.lookup field.name) (value? field.name)) {name : Text}
    (isName : name ∈ m.fields.map Field.name) {v : Value} (found : value? name = some v) :
    ∃ field ∈ m.fields, field.Yields m.extra (texts.lookup field.name) (some v) := by
  obtain ⟨field, member, rfl⟩ := List.mem_map.mp isName
  exact ⟨field, member, found ▸ yields field member⟩

/-- The values that were made of the bindings of a path fill the pattern, and the new path binds the
    texts of those values. -/
theorem exists_written (built : pattern.Built) (distinct : pattern.names.Nodup) (ordered : pattern.IsOrdered)
    (describes : m.Describes pattern) {exact : Bool} {path : Text} {bound : Bindings}
    (matched : pattern.matchPath exact path = .ok bound) {value? : Text → Option Value}
    (yields : ∀ field ∈ m.fields, field.Yields m.extra (bound.lookup field.name) (value? field.name)) :
    ∃ written again, pattern.fill (writtenTexts m value?) = .ok written ∧
      pattern.matchPath exact written = .ok again ∧
      ∀ name ∈ m.fields.map Field.name, again.lookup name = (value? name).map Stringify.scalarText := by
  obtain ⟨front, back, split, leading, held, unbound⟩ := (ordered.omitsAtEnd bound).exists_unbound_end built distinct matched
  have nodup := describes.nodup distinct
  have scalar : ∀ name ∈ m.fields.map Field.name, ∀ v, value? name = some v → v.isScalar = true := by
    intro name isName v found
    obtain ⟨field, member, yieldsValue⟩ := exists_field_of_yields yields isName found
    exact isScalar_of_yields (describes.plain field member) yieldsValue
  have texts : ∀ name ∈ m.fields.map Field.name,
      (writtenTexts m value?).text? name = (value? name).map Stringify.scalarText :=
    fun name isName => text?_writtenTexts nodup isName (scalar name isName)
  have textSome : ∀ name ∈ m.fields.map Field.name,
      ((writtenTexts m value?).text? name).isSome = (bound.lookup name).isSome := by
    intro name isName
    rw [texts name isName, Option.isSome_map]
    obtain ⟨field, member, rfl⟩ := List.mem_map.mp isName
    exact isSome_of_yields (yields field member)
  have paramName {segment : Segment} (member : segment ∈ front ++ back) (param : segment.isParam = true) :
      segment.name ∈ m.fields.map Field.name := by
    refine describes.names.mem_iff.mpr (List.mem_map_of_mem (List.mem_filter.mpr ⟨?_, param⟩))
    rw [split]
    exact member
  have given : ∀ segment ∈ front, segment.isParam = true →
      ((writtenTexts m value?).text? segment.name).isSome := by
    intro segment member param
    rw [textSome _ (paramName (List.mem_append_left _ member) param)]
    exact held segment member param
  have absent : ∀ segment ∈ back, segment.kind = .optionalParam ∧
      (writtenTexts m value?).text? segment.name = none := by
    intro segment member
    obtain ⟨kind, unset⟩ := unbound segment member
    have isName := paramName (List.mem_append_right _ member) (by simp [Segment.isParam, kind])
    refine ⟨kind, Option.not_isSome_iff_eq_none.mp ?_⟩
    rw [textSome _ isName, unset]
    exact Bool.false_ne_true
  obtain ⟨written, again, filled, rematched, represents⟩ :=
    Pattern.exists_fill_matchPath built split leading given absent exact
  refine ⟨written, again, filled, rematched, fun name isName => ?_⟩
  rw [represents.lookup_eq, Pattern.texts?, if_pos (describes.names.mem_iff.mp isName), texts name isName]

/-- What was parsed is written as a path of which the same is parsed, whether or not components at
    the end are passed over. -/
theorem parse_format_parse {pattern : Pattern} (built : pattern.Built) (ordered : pattern.IsOrdered)
    {m : Model Shape} (describes : m.Describes pattern) {relaxedSchema : Option Schema} {exact : Bool} {route : Route}
    (made : build pattern ⟨.model m, none, relaxedSchema⟩ exact = .ok route) {path : Text} {v : Value}
    (parsed : route.parse path = .ok v) :
    ∃ written, route.format v = .ok written ∧ route.parse written = .ok v := by
  obtain ⟨schema, format, _, rfl, rfl⟩ := build_eq_ok made
  have schema : route.schema = .model m false := (Except.ok.inj schema).symm
  have format : route.formatSchema = .stringify := (Except.ok.inj format).symm
  have distinct := route.names_nodup
  have plain : m.IsPlain := ⟨describes.plain, describes.nodup distinct⟩
  obtain ⟨bound, matched, accepted⟩ := parse_eq_ok_iff.mp parsed
  rw [schema] at accepted
  have defaults := describes.default_of_unbound built distinct ordered matched
  obtain ⟨value?, yields, rfl⟩ :=
    (Model.run_texts_iff plain (describes.mem_names_of_matchPath matched) defaults).mp accepted
  obtain ⟨written, again, filled, rematched, lookup⟩ :=
    exists_written built distinct ordered describes matched yields
  have texted : ∀ name ∈ m.fields.map Field.name, ∀ v, value? name = some v → v.HasText := by
    intro name isName v found
    obtain ⟨field, member, yieldsValue⟩ := exists_field_of_yields yields isName found
    exact hasText_of_yields (plain.plain field member) yieldsValue
  have short : route.pattern.canSpecialize (writtenTexts m value?) = true :=
    Pattern.canSpecialize_of_writable Stringify.isWritable_of_mem_texts _
  refine ⟨written, format_eq_ok_iff.mpr ⟨_, ?_, filled, short⟩, parse_eq_ok_iff.mpr ⟨again, rematched, ?_⟩⟩
  · rw [format]
    exact stringify_written plain.nodup texted
  · have defaultsAgain := describes.default_of_unbound built distinct ordered rematched
    rw [schema]
    refine (Model.run_texts_iff plain (describes.mem_names_of_matchPath rematched) defaultsAgain).mpr
      ⟨value?, fun field member => ?_, rfl⟩
    rw [lookup _ (List.mem_map_of_mem member)]
    exact yields_scalarText (plain.plain field member) (yields field member)

def priceModel : Model Shape :=
  { name := "Price", mark := none, above := [], extra := .forbid
    fields := [⟨"amount", .decimal, none, none, .free, none, none⟩,
      ⟨"page", .optional .int, some .none, none, .free, none, none⟩] }

theorem priceModel_describes : priceModel.Describes (.compile "/:amount/:page?") where
  plain := by
    intro field member
    simp only [priceModel, List.mem_cons, List.not_mem_nil, or_false] at member
    rcases member with rfl | rfl <;> exact ⟨rfl, rfl, rfl, rfl⟩
  names := by decide
  default := by
    intro field member segment _ _ _
    simp only [priceModel, List.mem_cons, List.not_mem_nil, or_false] at member
    rcases member with rfl | rfl
    · exact .inl rfl
    · exact .inr rfl

def priceRoute : Route :=
  ⟨.compile "/:amount/:page?", .model priceModel false, .stringify, .stringify, true, by decide⟩

theorem priceRoute_made :
    build (.compile "/:amount/:page?") ⟨.model priceModel, none, none⟩ true = .ok priceRoute := by
  unfold build
  rw [dif_pos (by decide)]
  rfl

theorem priceRoute_parsed :
    priceRoute.parse "/1.50" = .ok (.map [(.text "amount", .decimal (.finite ⟨false, 150, -2⟩))]) :=
  parse_eq_ok_iff.mpr ⟨[("amount", "1.50")], by decide +kernel, rfl⟩

theorem parse_format_parse_price :
    ∃ written, priceRoute.format (.map [(.text "amount", .decimal (.finite ⟨false, 150, -2⟩))]) = .ok written ∧
      priceRoute.parse written = .ok (.map [(.text "amount", .decimal (.finite ⟨false, 150, -2⟩))]) :=
  parse_format_parse (.compiled _) (by unfold Pattern.IsOrdered; decide) priceModel_describes priceRoute_made
    priceRoute_parsed

end Route

end TypedPath
