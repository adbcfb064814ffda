import TypedPath.Proofs.Schema.Record
import TypedPath.Route.Basic

namespace TypedPath

namespace Bindings

def entries (bound : Bindings) : List (Value × Value) :=
  Value.keyed (bound.map fun pair => (pair.1, .text pair.2))

theorem toValue_eq_entries (bound : Bindings) : bound.toValue = .map bound.entries := by
  unfold toValue entries Value.keyed
  rw [List.map_map]
  rfl

theorem findText?_entries (bound : Bindings) (name : Text) :
    Value.findText? name bound.entries = (bound.lookup name).map .text := by
  rw [entries, Value.findText?_keyed, lookup_map_snd]

end Bindings

/-- A field for one component, without an alias, a check of its own or a style. -/
structure Field.IsPlain (field : Field Shape) : Prop where
  unaliased : field.inputKey = none
  unrefined : field.refinement = none
  unstyled : field.style = none
  single : field.shape.isSingle = true

namespace Field

def filled (field : Field Shape) (value? : Option Value) : Filled :=
  let value := value?.getD .none
  ({ name := field.name, value, written := value, writtenSupplied := value, declared := true }, value?.isSome)

def Yields (extra : ExtraPolicy) (field : Field Shape) (text? : Option Text) (value? : Option Value) : Prop :=
  match text?, value? with
  | some t, some v => field.shape.validateIn extra field.limits (.text t) = .ok v
  | none, none => field.default = some .none
  | _, _ => False

variable {field : Field Shape} {extra : ExtraPolicy} {entries : List (Value × Value)} {filled : Filled}

theorem slot_eq_filled (plain : field.IsPlain) (extra : ExtraPolicy) {v : Value}
    (same : ∀ suppliedOnly, v.dump suppliedOnly = v) :
    field.slot (fun suppliedOnly => field.shape.dump suppliedOnly extra) v = (field.filled (some v)).1 := by
  simp only [slot, plain.unstyled, Style.write, Shape.dump_of_isSingle plain.single, same, Field.filled,
    Option.getD_some]

theorem validateIn_given (plain : field.IsPlain) {t : Text}
    (found : Value.findText? field.name entries = some (.text t)) :
    field.validateIn extra entries = .ok filled ↔
      ∃ v, field.shape.validateIn extra field.limits (.text t) = .ok v ∧ filled = field.filled (some v) := by
  unfold validateIn readWith finish key
  rw [plain.unaliased, plain.unrefined, Option.getD_none, found]
  dsimp only
  cases accepted : field.shape.validateIn extra field.limits (.text t) with
  | error setback =>
    apply iff_of_false
    · intro read
      cases setback <;> cases read
    · intro h
      obtain ⟨_, other, _⟩ := h
      cases other
  | ok v =>
    have written := slot_eq_filled plain extra
      (Value.dump_of_isScalar (Shape.isScalar_of_validateIn plain.single accepted))
    show Except.ok (field.slot _ v, true) = Except.ok filled ↔ _
    rw [written, Except.ok.injEq]
    constructor
    · intro same
      subst same
      exact ⟨v, rfl, rfl⟩
    · intro h
      obtain ⟨_, same, rfl⟩ := h
      cases same
      rfl

theorem validateIn_absent (plain : field.IsPlain) (found : Value.findText? field.name entries = none)
    (default : field.default = none ∨ field.default = some .none) :
    field.validateIn extra entries = .ok filled ↔ field.default = some .none ∧ filled = field.filled none := by
  unfold validateIn readWith key
  rw [plain.unaliased, Option.getD_none, found]
  rcases default with required | free
  · rw [required]
    exact iff_of_false nofun (fun h => nomatch h.1)
  · have written := slot_eq_filled plain extra (v := .none) fun _ => rfl
    rw [free]
    show Except.ok (field.slot _ .none, false) = Except.ok filled ↔ _
    rw [written, Except.ok.injEq]
    constructor
    · intro same
      subst same
      exact ⟨rfl, rfl⟩
    · intro h
      obtain ⟨_, rfl⟩ := h
      rfl

theorem validateIn_iff_yields (plain : field.IsPlain) {text? : Option Text}
    (found : Value.findText? field.name entries = text?.map .text)
    (default : text? = none → field.default = none ∨ field.default = some .none) :
    field.validateIn extra entries = .ok filled ↔
      ∃ value?, field.Yields extra text? value? ∧ filled = field.filled value? := by
  cases text? with
  | some t =>
    rw [validateIn_given plain found]
    constructor
    · intro h
      obtain ⟨v, accepted, same⟩ := h
      exact ⟨some v, accepted, same⟩
    · intro h
      obtain ⟨value?, yields, same⟩ := h
      cases value? with
      | none => exact absurd yields id
      | some v => exact ⟨v, yields, same⟩
  | none =>
    rw [validateIn_absent plain found (default rfl)]
    constructor
    · intro h
      obtain ⟨free, same⟩ := h
      exact ⟨none, free, same⟩
    · intro h
      obtain ⟨value?, yields, same⟩ := h
      cases value? with
      | none => exact ⟨yields, same⟩
      | some v => exact absurd yields id

end Field

namespace Model

structure IsPlain (m : Model Shape) : Prop where
  plain : ∀ field ∈ m.fields, field.IsPlain
  nodup : (m.fields.map Field.name).Nodup

variable {m : Model Shape}

theorem fields_build {filled : List Filled} (nodup : (filled.map (·.1.name)).Nodup) :
    (m.build filled []).fields false = .map (Value.keyed (filled.filterMap fun entry =>
      if entry.2 || !entry.1.value.isNone then some (entry.1.name, entry.1.written) else none)) := by
  rw [fields_build_append (by rwa [List.map_nil, List.append_nil]), List.map_nil, List.append_nil]
  refine congrArg (fun pairs => Value.map (Value.keyed pairs)) (List.filterMap_congr fun entry _ => ?_)
  rw [Filled.writtenAs?]
  cases entry.2 <;> cases entry.1.value.isNone <;> rfl

def written (m : Model Shape) (value? : Text → Option Value) : Value :=
  .map (Value.keyed (named (m.fields.map Field.name) value?))

theorem fields_build_filled (plain : m.IsPlain) (value? : Text → Option Value) :
    (m.build (m.fields.map fun field => field.filled (value? field.name)) []).fields false = m.written value? := by
  have names : (m.fields.map fun field => field.filled (value? field.name)).map (·.1.name) =
      m.fields.map Field.name := by
    rw [List.map_map]
    rfl
  rw [fields_build (names ▸ plain.nodup), List.filterMap_map]
  unfold written named
  rw [List.filterMap_map]
  apply congrArg (fun pairs => Value.map (Value.keyed pairs))
  apply congrArg (fun step => List.filterMap step m.fields)
  funext field
  simp only [Function.comp_apply, Field.filled]
  cases value? field.name <;> rfl

theorem exists_values {fields : List (Field Shape)} (nodup : (fields.map Field.name).Nodup)
    {yields : Field Shape → Option Value → Prop} {read : Field Shape → Outcome Filled}
    (each : ∀ field ∈ fields, ∀ entry, read field = .ok entry → ∃ value?, yields field value? ∧
      entry = field.filled value?)
    {filled : List Filled} (all : fields.map read = filled.map .ok) :
    ∃ value? : Text → Option Value, (∀ field ∈ fields, yields field (value? field.name)) ∧
      filled = fields.map fun field => field.filled (value? field.name) := by
  induction fields generalizing filled with
  | nil =>
    cases filled with
    | nil => exact ⟨fun _ => none, by simp, rfl⟩
    | cons _ _ => cases all
  | cons field fields ih =>
    cases filled with
    | nil => cases all
    | cons first filled =>
      obtain ⟨head, tail⟩ := List.cons.inj all
      rw [List.map_cons, List.nodup_cons] at nodup
      rw [List.forall_mem_cons] at each
      obtain ⟨found, yields_found, rfl⟩ := each.1 first head
      obtain ⟨value?, others, rfl⟩ := ih nodup.2 each.2 tail
      have apart : ∀ other ∈ fields, other.name ≠ field.name := by
        intro other member same
        exact nodup.1 (same ▸ List.mem_map_of_mem member)
      refine ⟨fun name => if name = field.name then found else value? name, ?_, ?_⟩
      · refine List.forall_mem_cons.mpr ⟨?_, fun other member => ?_⟩
        · dsimp only
          rwa [if_pos rfl]
        · dsimp only
          rw [if_neg (apart other member)]
          exact others other member
      · rw [List.map_cons]
        dsimp only
        rw [if_pos rfl]
        refine congrArg _ (List.map_congr_left fun other member => ?_)
        rw [if_neg (apart other member)]

theorem run_eq_ok_iff {suppliedOnly : Bool} {entries : List (Value × Value)} {v : Value} :
    m.run suppliedOnly (.map entries) = .ok v ↔
      ∃ r, m.validate (.map entries) = .ok r ∧ v = r.fields suppliedOnly := by
  show (Refusal.ofSchema (m.validate (.map entries))).map (Instance.fields suppliedOnly) = .ok v ↔ _
  cases m.validate (.map entries) with
  | error setback =>
    apply iff_of_false nofun
    intro h
    obtain ⟨_, other, _⟩ := h
    cases other
  | ok r =>
    constructor
    · intro run
      cases run
      exact ⟨r, rfl, rfl⟩
    · intro h
      obtain ⟨_, same, rfl⟩ := h
      cases same
      rfl

theorem reads_name {field : Field Shape} (member : field ∈ m.fields) (unaliased : field.inputKey = none) {name : Text}
    (named : field.name = name) : m.reads name = true := by
  refine List.any_eq_true.mpr ⟨field, member, decide_eq_true ?_⟩
  rw [Field.key, unaliased]
  exact named

theorem extras_entries {texts : Bindings} (read : ∀ pair ∈ texts, m.reads pair.1 = true) :
    m.extras texts.entries = .ok [] := by
  apply extras_keyed
  intro pair member
  obtain ⟨original, inside, rfl⟩ := List.mem_map.mp member
  exact read original inside

/-- Over texts a plain model gives back what each field has from the text under its name. -/
theorem run_texts_iff (plain : m.IsPlain) {texts : Bindings}
    (known : ∀ pair ∈ texts, pair.1 ∈ m.fields.map Field.name)
    (defaults : ∀ field ∈ m.fields, texts.lookup field.name = none →
      field.default = none ∨ field.default = some .none) {v : Value} :
    m.run false texts.toValue = .ok v ↔
      ∃ value? : Text → Option Value,
        (∀ field ∈ m.fields, field.Yields m.extra (texts.lookup field.name) (value? field.name)) ∧
          v = m.written value? := by
  have extras : m.extras texts.entries = .ok [] := by
    refine extras_entries fun pair member => ?_
    obtain ⟨field, isField, named⟩ := List.mem_map.mp (known pair member)
    exact reads_name isField (plain.plain field isField).unaliased named
  have each (field : Field Shape) (member : field ∈ m.fields) (entry : Filled) :
      field.validateIn m.extra texts.entries = .ok entry ↔
        ∃ value?, field.Yields m.extra (texts.lookup field.name) value? ∧ entry = field.filled value? :=
    Field.validateIn_iff_yields (plain.plain field member) (texts.findText?_entries field.name)
      (defaults field member)
  rw [texts.toValue_eq_entries, run_eq_ok_iff]
  constructor
  · intro h
    obtain ⟨r, accepted, rfl⟩ := h
    obtain ⟨filled, loose, all, none, rfl⟩ := validate_map_eq_ok_iff.mp accepted
    cases extras.symm.trans none
    obtain ⟨value?, yields, rfl⟩ := exists_values plain.nodup
      (fun field member entry => (each field member entry).mp) all
    exact ⟨value?, yields, fields_build_filled plain value?⟩
  · intro h
    obtain ⟨value?, yields, rfl⟩ := h
    refine ⟨_, validate_map_eq_ok_iff.mpr ⟨_, [], ?_, extras, rfl⟩, (fields_build_filled plain value?).symm⟩
    rw [List.map_map]
    exact List.map_congr_left fun field member => (each field member _).mpr ⟨_, yields field member, rfl⟩

end Model

end TypedPath
