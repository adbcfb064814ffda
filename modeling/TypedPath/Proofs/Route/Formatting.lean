import TypedPath.Proofs.Route.RoundTrip

namespace TypedPath

/-- Every parameter of a pattern is a plain field. There may be other fields of any shape. -/
structure Model.Covers (m : Model Shape) (pattern : Pattern) : Prop where
  nodup : (m.fields.map Field.name).Nodup
  unaliased : ∀ field ∈ m.fields, field.inputKey = none
  plain : ∀ field ∈ m.fields, field.name ∈ pattern.names → field.IsPlain
  names : pattern.names ⊆ m.fields.map Field.name

def Filled.pair? (entry : Filled) : Option (Text × Value) :=
  if entry.2 || !entry.1.value.isNone then some (entry.1.name, entry.1.written) else none

namespace Filled

theorem pair?_eq_some {entry : Filled} {pair : Text × Value} (written : entry.pair? = some pair) :
    pair = (entry.1.name, entry.1.written) := by
  unfold pair? at written
  split at written
  · exact (Option.some.inj written).symm
  · cases written

theorem map_fst_pair? (filled : List Filled) :
    ((filled.filterMap pair?).map Prod.fst).Sublist (filled.map (·.1.name)) := by
  induction filled with
  | nil => exact List.Sublist.refl _
  | cons entry filled ih =>
    rw [List.filterMap_cons]
    cases written : entry.pair? with
    | none => exact ih.cons _
    | some pair =>
      rw [List.map_cons, List.map_cons, pair?_eq_some written]
      exact ih.cons_cons _

end Filled

namespace Model

variable {m : Model Shape} {pattern : Pattern} {texts : Bindings}

theorem run_entries_eq_ok_iff (nodup : (m.fields.map Field.name).Nodup)
    (read : ∀ pair ∈ texts, m.reads pair.1 = true) {v : Value} :
    m.run false texts.toValue = .ok v ↔ ∃ filled : List Filled,
      m.fields.map (Field.validateIn m.extra texts.entries) = filled.map .ok ∧
        v = .map (Value.keyed (filled.filterMap Filled.pair?)) := by
  have fields {filled : List Filled}
      (all : m.fields.map (Field.validateIn m.extra texts.entries) = filled.map .ok) :
      (m.build filled []).fields false = .map (Value.keyed (filled.filterMap Filled.pair?)) :=
    fields_build (names_of_validateIn all ▸ nodup)
  rw [texts.toValue_eq_entries, run_eq_ok_iff]
  constructor
  · intro h
    obtain ⟨r, accepted, rfl⟩ := h
    obtain ⟨filled, loose, all, none, rfl⟩ := validate_map_eq_ok_iff.mp accepted
    cases (extras_entries read).symm.trans none
    exact ⟨filled, all, fields all⟩
  · intro h
    obtain ⟨filled, all, rfl⟩ := h
    exact ⟨_, validate_map_eq_ok_iff.mpr ⟨filled, [], all, extras_entries read, rfl⟩, (fields all).symm⟩

namespace Covers

variable {filled : List Filled}

theorem reads (covers : m.Covers pattern) {name : Text} (isName : name ∈ pattern.names) : m.reads name = true := by
  obtain ⟨field, member, named⟩ := List.mem_map.mp (covers.names isName)
  exact reads_name member (covers.unaliased field member) named

/-- What stands under the name of a parameter that was given a text. -/
theorem exists_scalar_of_given (covers : m.Covers pattern)
    (all : m.fields.map (Field.validateIn m.extra texts.entries) = filled.map .ok) {name : Text}
    (isName : name ∈ pattern.names) (given : (texts.lookup name).isSome) :
    ∃ v : Value, v.isScalar = true ∧ v.HasText ∧ (name, v) ∈ filled.filterMap Filled.pair? := by
  obtain ⟨field, member, rfl⟩ := List.mem_map.mp (covers.names isName)
  obtain ⟨t, given⟩ := Option.isSome_iff_exists.mp given
  have plain := covers.plain field member isName
  obtain ⟨entry, inFilled, read⟩ := Outcome.exists_result_of_mem all member
  have found : Value.findText? field.name texts.entries = some (.text t) := by
    rw [texts.findText?_entries, given]
    rfl
  obtain ⟨v, accepted, rfl⟩ := (Field.validateIn_given plain found).mp read
  have scalar := Shape.isScalar_of_validateIn plain.single accepted
  have texted : v.HasText :=
    ⟨Value.isContainer_of_isScalar scalar, Shape.isWritable_of_validateIn plain.single accepted⟩
  exact ⟨v, scalar, texted, List.mem_filterMap.mpr ⟨_, inFilled, rfl⟩⟩

/-- A value that cannot be written does not come from the path. -/
theorem lookup_eq_none_of_not_hasText (covers : m.Covers pattern) (known : texts.map Prod.fst ⊆ pattern.names)
    (all : m.fields.map (Field.validateIn m.extra texts.entries) = filled.map .ok)
    (nodup : ((filled.filterMap Filled.pair?).map Prod.fst).Nodup) {pair : Text × Value}
    (member : pair ∈ filled.filterMap Filled.pair?) (other : ¬ pair.2.HasText) : texts.lookup pair.1 = none := by
  by_contra given
  rw [← ne_eq, Option.ne_none_iff_isSome] at given
  obtain ⟨bound, inTexts, same⟩ := List.lookup_isSome_iff.mp given
  have isName : pair.1 ∈ pattern.names := by
    rw [beq_iff_eq.mp same]
    exact known (List.mem_map_of_mem inTexts)
  obtain ⟨v, _, texted, inPairs⟩ := covers.exists_scalar_of_given all isName given
  have same : v = pair.2 := Option.some.inj
    (((lookup_eq_some_iff_mem nodup).mpr inPairs).symm.trans ((lookup_eq_some_iff_mem nodup).mpr member))
  exact other (same ▸ texted)

end Covers

end Model

namespace Route

variable {route : Route} {pairs : List (Text × Value)}

theorem format_of_hasText (stringifies : route.formatSchema = .stringify)
    (nodup : (pairs.map Prod.fst).Nodup) (texted : ∀ pair ∈ pairs, pair.2.HasText)
    (held : ∀ segment ∈ route.pattern.segments, segment.kind = .param →
      ∃ v : Value, v.isScalar = true ∧ (segment.name, v) ∈ pairs) :
    ∃ written, route.format (.map (Value.keyed pairs)) = .ok written := by
  have provided : ∀ segment ∈ route.pattern.segments,
      segment.IsProvided (.ofEntries (Value.keyed (Stringify.texts pairs))) := by
    intro segment member param required
    have kind : segment.kind = .param := by
      cases kind : segment.kind with
      | param => rfl
      | static | optionalStatic => simp [Segment.isParam, kind] at param
      | optionalParam => simp [Segment.isOptional, kind] at required
    obtain ⟨v, scalar, inPairs⟩ := held segment member kind
    have text : Assignment.ofEntries (Value.keyed (Stringify.texts pairs)) segment.name =
        some (.text (Stringify.scalarText v)) := by
      unfold Assignment.ofEntries
      rw [Value.findText?_keyed, Stringify.lookup_texts nodup, (lookup_eq_some_iff_mem nodup).mpr inPairs]
      simp [Stringify.text?, Value.isNone_of_isScalar scalar]
    unfold Segment.given?
    rw [text]
    rfl
  refine ⟨_, format_eq_ok_iff.mpr ⟨_, ?_, (Pattern.fill_eq_ok_iff route.pattern _).mpr ⟨provided, rfl⟩,
    Pattern.canSpecialize_of_writable Stringify.isWritable_of_mem_texts _⟩⟩
  rw [stringifies]
  exact (Stringify.run_keyed_eq_ok_iff nodup).mpr ⟨texted, rfl⟩

theorem format_of_container (stringifies : route.formatSchema = .stringify) (nodup : (pairs.map Prod.fst).Nodup)
    {pair : Text × Value} (member : pair ∈ pairs) (container : pair.2.isContainer = true) :
    route.format (.map (Value.keyed pairs)) = .error (.format (.rejected route.pattern.text
      ⟨(Value.keyed pairs).filterMap Stringify.containerIssue?, .check⟩)) := by
  apply format_of_rejected
  rw [stringifies]
  refine Stringify.run_keyed_of_container nodup fun single => ?_
  rw [single pair member] at container
  cases container

/-- What was parsed, if no number in it is too long to be written, can be formatted exactly when no value of it is
    made of others. Such a value, and also one that is too long, was filled in and not read from the path; the
    failure lists all values that are made of others. -/
theorem format_of_parse {pattern : Pattern} {m : Model Shape} (covers : m.Covers pattern)
    {relaxedSchema : Option Schema} {exact : Bool} {route : Route}
    (made : build pattern ⟨.model m, none, relaxedSchema⟩ exact = .ok route) {path : Text} {v : Value}
    (parsed : route.parse path = .ok v) :
    ∃ pairs, v = .map (Value.keyed pairs) ∧ (pairs.map Prod.fst).Nodup ∧
      ((∀ pair ∈ pairs, pair.2.isWritable = true) →
        ((∃ written, route.format v = .ok written) ↔ ∀ pair ∈ pairs, pair.2.isContainer = false)) ∧
      (∀ pair ∈ pairs, ¬ pair.2.HasText → ∀ bound, route.matchPath path = .ok bound → bound.lookup pair.1 = none) ∧
      ∀ pair ∈ pairs, pair.2.isContainer = true →
        route.format v = .error (.format (.rejected pattern.text
          ⟨(Value.keyed pairs).filterMap Stringify.containerIssue?, .check⟩)) := by
  obtain ⟨schema, format, _, rfl, rfl⟩ := build_eq_ok made
  have schema : route.schema = .model m false := (Except.ok.inj schema).symm
  have format : route.formatSchema = .stringify := (Except.ok.inj format).symm
  obtain ⟨bound, matched, accepted⟩ := parse_eq_ok_iff.mp parsed
  rw [schema] at accepted
  have known : bound.map Prod.fst ⊆ route.pattern.names := by
    intro name isBound
    obtain ⟨pair, member, rfl⟩ := List.mem_map.mp isBound
    exact Pattern.mem_names_of_matchPath matched member
  obtain ⟨filled, all, rfl⟩ := (Model.run_entries_eq_ok_iff covers.nodup fun pair member =>
    covers.reads (known (List.mem_map_of_mem member))).mp accepted
  have nodup : ((filled.filterMap Filled.pair?).map Prod.fst).Nodup :=
    (Model.names_of_validateIn all ▸ covers.nodup).sublist (Filled.map_fst_pair? filled)
  have held : ∀ segment ∈ route.pattern.segments, segment.kind = .param →
      ∃ v : Value, v.isScalar = true ∧ (segment.name, v) ∈ filled.filterMap Filled.pair? := by
    intro segment member kind
    have isName : segment.name ∈ route.pattern.names :=
      List.mem_map_of_mem (List.mem_filter.mpr ⟨member, by simp [Segment.isParam, kind]⟩)
    obtain ⟨v, scalar, _, inPairs⟩ :=
      covers.exists_scalar_of_given all isName (Pattern.lookup_isSome_of_matchPath matched member kind)
    exact ⟨v, scalar, inPairs⟩
  refine ⟨filled.filterMap Filled.pair?, rfl, nodup, fun short => ⟨fun formats => ?_, fun single => ?_⟩,
    fun pair member other again matchedAgain => ?_, fun pair member => format_of_container format nodup member⟩
  · obtain ⟨written, formatted⟩ := formats
    by_contra some
    simp only [not_forall, Bool.not_eq_false] at some
    obtain ⟨pair, member, container⟩ := some
    rw [format_of_container format nodup member container] at formatted
    cases formatted
  · exact format_of_hasText format nodup (fun pair member => ⟨single pair member, short pair member⟩) held
  · cases matched.symm.trans matchedAgain
    exact covers.lookup_eq_none_of_not_hasText known all nodup member other

def labelModel (label : Value) : Model Shape :=
  { name := "Labelled", mark := none, above := [], extra := .ignore
    fields := [⟨"id", .int, none, none, .free, none, none⟩,
      ⟨"label", .any, some label, none, .free, none, none⟩] }

theorem labelModel_covers (label : Value) : (labelModel label).Covers (.compile "/box/:id") where
  nodup := by
    show ["id".toList, "label".toList].Nodup
    decide
  unaliased := by
    unfold labelModel
    simp only [List.forall_mem_cons, List.not_mem_nil, false_imp_iff, implies_true, and_self]
  plain := by
    unfold labelModel
    rw [List.forall_mem_cons, List.forall_mem_singleton]
    have absent : "label".toList ∉ (Pattern.compile "/box/:id").names := by decide
    exact ⟨fun _ => ⟨rfl, rfl, rfl, rfl⟩, fun isName => absurd isName absent⟩
  names := by
    show (Pattern.compile "/box/:id").names ⊆ ["id".toList, "label".toList]
    decide

def labelRoute (label : Value) : Route :=
  ⟨.compile "/box/:id", .model (labelModel label) false, .stringify, .stringify, true, by decide⟩

theorem labelRoute_made (label : Value) :
    build (.compile "/box/:id") ⟨.model (labelModel label), none, none⟩ true = .ok (labelRoute label) := by
  unfold build
  rw [dif_pos (by decide)]
  rfl

theorem labelRoute_matchPath (label : Value) : (labelRoute label).matchPath "/box/5" = .ok [("id", "5")] := by
  show (Pattern.compile "/box/:id").matchPath true "/box/5" = _
  decide +kernel

theorem format_of_parse_label :
    ∃ pairs, Value.map [(.text "id", .int 5), (.text "label", .text "x")] = .map (Value.keyed pairs) ∧
      (pairs.map Prod.fst).Nodup ∧
      ((∀ pair ∈ pairs, pair.2.isWritable = true) →
        ((∃ written, (labelRoute (.text "x")).format (.map [(.text "id", .int 5), (.text "label", .text "x")]) =
          .ok written) ↔ ∀ pair ∈ pairs, pair.2.isContainer = false)) ∧
      (∀ pair ∈ pairs, ¬ pair.2.HasText →
        ∀ bound, (labelRoute (.text "x")).matchPath "/box/5" = .ok bound → bound.lookup pair.1 = none) ∧
      ∀ pair ∈ pairs, pair.2.isContainer = true →
        (labelRoute (.text "x")).format (.map [(.text "id", .int 5), (.text "label", .text "x")]) =
          .error (.format (.rejected "/box/:id"
            ⟨(Value.keyed pairs).filterMap Stringify.containerIssue?, .check⟩)) :=
  format_of_parse (labelModel_covers _) (labelRoute_made _)
    (parse_eq_ok_iff.mpr ⟨_, labelRoute_matchPath (.text "x"), rfl⟩)

/-- A list that no path has a component for is filled in, and then it stands in the way. -/
theorem parsed_not_formatted :
    (labelModel (.list [])).Covers (.compile "/box/:id") ∧
      (∀ field ∈ (labelModel (.list [])).fields,
        field.name ∉ (Pattern.compile "/box/:id").names → field.default.isSome) ∧
      build (.compile "/box/:id") ⟨.model (labelModel (.list [])), none, none⟩ true = .ok (labelRoute (.list [])) ∧
      (labelRoute (.list [])).parse "/box/5" = .ok (.map [(.text "id", .int 5), (.text "label", .list [])]) ∧
      ¬ ∃ written, (labelRoute (.list [])).format (.map [(.text "id", .int 5), (.text "label", .list [])]) =
        .ok written := by
  refine ⟨labelModel_covers _, ?_, labelRoute_made _,
    parse_eq_ok_iff.mpr ⟨_, labelRoute_matchPath (.list []), rfl⟩, ?_⟩
  · unfold labelModel
    rw [List.forall_mem_cons, List.forall_mem_singleton]
    exact ⟨fun absent => absurd (by decide) absent, fun _ => rfl⟩
  · rintro ⟨written, formatted⟩
    cases formatted

end Route

end TypedPath
