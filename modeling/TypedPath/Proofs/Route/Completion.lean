import TypedPath.Proofs.Pattern.RoundTrip
import TypedPath.Proofs.Pattern.Specialization
import TypedPath.Proofs.Route.Extension
import TypedPath.Proofs.Schema.Relaxed

namespace TypedPath

namespace Pattern

variable {pattern : Pattern} {values : Assignment} {path : Text}

theorem ne_none_of_fill (filled : pattern.fill values = .ok path) {segment : Segment}
    (member : segment ∈ pattern.segments) (param : segment.isParam = true) (required : segment.isOptional = false) :
    values segment.name ≠ some .none := by
  intro absent
  have given := ((fill_eq_ok_iff pattern path).mp filled).1 segment member param required
  rw [Segment.given?_eq_none_iff.mpr (.inr absent)] at given
  cases given

theorem isServed_of_fill (filled : pattern.fill values = .ok path) {segment : Segment}
    (member : segment ∈ pattern.segments) : segment.IsServed values := by
  intro kind
  have param : segment.isParam = true := by simp [Segment.isParam, kind]
  have required : segment.isOptional = false := by simp [Segment.isOptional, kind]
  exact ne_none_of_fill filled member param required

/-- Filled in part with values that fill all of it, a pattern is left to be filled with nothing. -/
theorem fill_specialize_self (built : pattern.Built) (filled : pattern.fill values = .ok path) :
    (compile (pattern.specialize values)).fill (fun _ => none) = .ok path := by
  have alone : values.over (fun _ => none) = values := funext fun name => Option.or_none
  rw [fill_specialize built (fun _ member => isServed_of_fill filled member), alone, filled]

theorem eq_none_of_mem_names_specialize (built : pattern.Built) (filled : pattern.fill values = .ok path) {name : Text}
    (left : name ∈ (compile (pattern.specialize values)).names) : values name = none := by
  obtain ⟨segment, isSegment, param, rfl, kept⟩ := (mem_names_specialize_iff built).mp left
  refine ((Segment.specialize?_eq_self_iff values param).mp kept).resolve_right fun h => ?_
  exact ne_none_of_fill filled isSegment param h.2 h.1

end Pattern

def Instance.IsWhole (names : List Text) (r : Instance Value) : Prop :=
  ∀ slot ∈ r.slots, slot.name ∈ names → slot.writtenSupplied = slot.written

theorem Model.run_relaxed {m n : Model Shape} {entries : List (Value × Value)} {r : Instance Value}
    (relaxed : m.relaxed = .ok n) (own : ∀ field ∈ m.fields, field.key = field.name)
    (given : ∀ field ∈ m.fields, (Value.findText? field.key entries).isSome)
    (validated : m.validate (.map entries) = .ok r) :
    m.run false (.map entries) = .ok (.map (r.writtenBy (Slot.dump false))) ∧
      n.run true (.map entries) = .ok (.map (r.writtenBy (Slot.dump true))) := by
  obtain ⟨again, supplied, _⟩ := validate_relaxed relaxed own given validated
  constructor
  · exact run_eq_ok_iff.mpr ⟨r, validated, (Instance.fields_of_supplied supplied false).symm⟩
  · refine run_eq_ok_iff.mpr ⟨_, again, Eq.symm ?_⟩
    exact Instance.fields_of_supplied supplied true

namespace Route

variable {route : Route} {pattern : Pattern} {schema formatSchema : Schema} {m : Model Shape} {exact : Bool}
  {entries : List (Value × Value)} {path : Text}

/-- A route that writes a path of values for all fields, each under its own name, fills the pattern in part to
    that path: no field is left open, and what is left open may stay without a value. -/
theorem specialize_of_format (built : pattern.Built) (validates : formatSchema.toValidator = .ok (.model m false))
    (made : build pattern ⟨schema, some formatSchema, none⟩ exact = .ok route)
    (own : ∀ field ∈ m.fields, field.key = field.name)
    (given : ∀ field ∈ m.fields, (Value.findText? field.key entries).isSome)
    (whole : ∀ r, m.validate (.map entries) = .ok r → r.IsWhole pattern.names)
    (formatted : route.format (.map entries) = .ok path) :
    ∃ text, route.specialize (.map entries) = .ok text ∧
      (∀ field ∈ m.fields, field.name ∉ (Pattern.compile text).names) ∧
      (Pattern.compile text).fill (fun _ => none) = .ok path := by
  obtain ⟨_, formats, relaxes, rfl, _⟩ := build_eq_ok made
  have formatIs : route.formatSchema = .model m false := Except.ok.inj (formats.symm.trans validates)
  have relaxes : route.formatSchema.relaxed = .ok route.relaxedSchema := relaxes
  rw [formatIs] at relaxes
  obtain ⟨n, relaxed, relaxedIs⟩ := Validator.relaxed_model_eq_ok relaxes
  obtain ⟨out, accepted, filled, short⟩ := format_eq_ok_iff.mp formatted
  rw [formatIs] at accepted
  obtain ⟨r, validated, _⟩ := Model.run_eq_ok_iff.mp accepted
  obtain ⟨writes, writesAgain⟩ := Model.run_relaxed relaxed own given validated
  cases accepted.symm.trans writes
  have agree : ∀ name ∈ route.pattern.names, Assignment.ofEntries (r.writtenBy (Slot.dump true)) name =
      Assignment.ofEntries (r.writtenBy (Slot.dump false)) name := fun name isName =>
    Instance.findText?_writtenBy_congr fun slot member named => whole r validated slot member (named ▸ isName)
  have refilled : route.pattern.fill (.ofEntries (r.writtenBy (Slot.dump true))) = .ok path := by
    unfold Pattern.fill at filled ⊢
    rw [Segment.components_congr agree, filled]
  refine ⟨_, ?_, fun field member left => ?_, Pattern.fill_specialize_self built refilled⟩
  · rw [specialize_eq_ok_iff, relaxedIs]
    exact ⟨_, writesAgain, rfl, (Pattern.canSpecialize_congr agree).trans short⟩
  · have absent : Value.findText? field.name (r.writtenBy (Slot.dump true)) = none :=
      Pattern.eq_none_of_mem_names_specialize built refilled left
    have held : (Value.findText? field.name (r.writtenBy (Slot.dump true))).isSome :=
      Instance.isSome_findText?_writtenBy ((Model.validate_relaxed relaxed own given validated).2.2 field member)
    rw [absent] at held
    cases held

-- A record inside a field is not written whole where one of its own fields was filled in.
example :
    let size := { fieldModel "w" .int with fields := [⟨"w", .int, some (.int 1), none, .free, none, none⟩] }
    let params : Value := .map [(.text "size", .map [])]
    (fieldModel "size" (.model size)).run false params = .ok (.map [(.text "size", .map [(.text "w", .int 1)])]) ∧
      ∃ n, (fieldModel "size" (.model size)).relaxed = .ok n ∧
        n.run true params = .ok (.map [(.text "size", .map [])]) :=
  ⟨rfl, _, rfl, rfl⟩

def keyedModel (inputKey : Option Text) : Model Shape :=
  { fieldModel "id" .int with fields := [⟨"id", .int, none, inputKey, .free, none, none⟩] }

def keyedRoute (inputKey : Option Text) : Route where
  pattern := .compile "/a/:id/:tab?"
  schema := .model (keyedModel inputKey) false
  formatSchema := .model (keyedModel inputKey) false
  relaxedSchema := .model { fieldModel "id" .int with
    name := "PartialField"
    fields := [⟨"id", .optional .int, some .none, none, .free, none, none⟩] } true
  exact := true
  names_nodup := by decide

theorem keyedRoute_made (inputKey : Option Text) :
    build (.compile "/a/:id/:tab?") ⟨.model (keyedModel inputKey), some (.model (keyedModel inputKey)), none⟩ true =
      .ok (keyedRoute inputKey) := by
  unfold build
  rw [dif_pos (by decide)]
  rfl

theorem specialize_of_format_tab :
    ∃ text, (keyedRoute none).specialize (.map [(.text "id", .text "5")]) = .ok text ∧
      (∀ field ∈ (keyedModel none).fields, field.name ∉ (Pattern.compile text).names) ∧
      (Pattern.compile text).fill (fun _ => none) = .ok "/a/5" := by
  refine specialize_of_format (.compiled _) rfl (keyedRoute_made none) (fun field member => ?_)
    (fun field member => ?_) (fun r validated slot member _ => ?_) rfl
  · cases List.mem_singleton.mp member
    rfl
  · cases List.mem_singleton.mp member
    rfl
  · cases validated
    cases List.mem_singleton.mp member
    rfl

/-- What a field is supplied with under another key is passed over, and its parameter left open. -/
theorem specialize_without_key :
    (∀ field ∈ (keyedModel (some "ID")).fields, (Value.findText? field.key [(.text "ID", .int 5)]).isSome) ∧
      build (.compile "/a/:id/:tab?")
          ⟨.model (keyedModel (some "ID")), some (.model (keyedModel (some "ID"))), none⟩ true =
        .ok (keyedRoute (some "ID")) ∧
      (keyedRoute (some "ID")).format (.map [(.text "ID", .int 5)]) = .ok "/a/5" ∧
      (keyedRoute (some "ID")).specialize (.map [(.text "ID", .int 5)]) = .ok "/a/:id/:tab?" ∧
      ¬ ∃ text, (keyedRoute (some "ID")).specialize (.map [(.text "ID", .int 5)]) = .ok text ∧
        (∀ field ∈ (keyedModel (some "ID")).fields, field.name ∉ (Pattern.compile text).names) ∧
        (Pattern.compile text).fill (fun _ => none) = .ok "/a/5" := by
  refine ⟨fun field member => ?_, keyedRoute_made _, rfl, rfl, ?_⟩
  · cases List.mem_singleton.mp member
    rfl
  · rintro ⟨text, specialized, closed, _⟩
    cases specialized
    exact closed _ (List.mem_singleton_self _) (by decide)

end Route

end TypedPath
