import TypedPath.Proofs.Schema.Rereading

namespace TypedPath

namespace Entry

inductive Rereads (extra : ExtraPolicy) (entry : Entry Shape) : Option Value → Option Value → Prop
  | given {v w : Value} (rereads : entry.shape.Rereads extra .free v w) : Rereads extra entry (some v) (some w)
  | absent (optional : entry.required = false) : Rereads extra entry none none

variable {extra : ExtraPolicy} {entry : Entry Shape} {given : List (Value × Value)} {value? again? : Option Value}

theorem exists_rereads (settles : entry.shape.Settles extra) (data : ∀ part ∈ given, part.2.isData = true)
    (yields : entry.Yields extra given value?) : ∃ again?, entry.Rereads extra value? again? := by
  unfold Yields at yields
  split at yields
  · rename_i input v found
    obtain ⟨⟨w, rereads⟩, _⟩ := settles .free input v rfl (data _ (Value.mem_of_findText? found)) yields
    exact ⟨some w, .given rereads⟩
  · exact ⟨none, .absent yields⟩
  · exact yields.elim

theorem Rereads.yields (rereads : entry.Rereads extra value? again?)
    (stands : Value.findText? entry.name given = value?.map (entry.shape.dump false extra)) :
    entry.Yields extra given again? := by
  unfold Yields
  rw [stands]
  cases rereads with
  | given rereads => exact rereads.accepted
  | absent optional => exact optional

theorem Rereads.written (rereads : entry.Rereads extra value? again?) :
    again?.map (entry.shape.dump false extra) = value?.map (entry.shape.dump false extra) := by
  cases rereads with
  | given rereads => exact congrArg some rereads.written
  | absent => rfl

theorem Rereads.outline (rereads : entry.Rereads extra value? again?) :
    again?.map Value.outline = value?.map Value.outline := by
  cases rereads with
  | given rereads => exact congrArg some rereads.outline
  | absent => rfl

theorem Rereads.stays (rereads : entry.Rereads extra value? again?) :
    (value?.map (entry.shape.dump false extra)).map (entry.shape.dump false extra) =
      value?.map (entry.shape.dump false extra) := by
  cases rereads with
  | given rereads => exact congrArg some rereads.stays
  | absent => rfl

theorem Rereads.free (rereads : entry.Rereads extra value? again?) {d : Value}
    (dumped : value?.map (entry.shape.dump false extra) = some d) : d.isRecordFree = true := by
  cases rereads with
  | given rereads =>
    cases dumped
    exact rereads.free
  | absent => cases dumped

end Entry

theorem bind_dumpEntry {fields : List (Entry Shape)} (nodup : (fields.map Entry.name).Nodup) (suppliedOnly : Bool)
    (extra : ExtraPolicy) {entry : Entry Shape} (member : entry ∈ fields) (value? : Option Value) :
    value?.bind (dumpEntry suppliedOnly fields extra entry.name) =
      value?.map (entry.shape.dump suppliedOnly extra) := by
  cases value? with
  | none => rfl
  | some v => exact dumpEntry_of_mem nodup suppliedOnly extra member v

namespace Shape

variable {extra : ExtraPolicy}

theorem settles_fixedKeys {name : Text} {fields : List (Entry Shape)} (nodup : (fields.map Entry.name).Nodup)
    (settles : ∀ entry ∈ fields, entry.shape.Settles extra) : (Shape.fixedKeys name fields).Settles extra := by
  intro limits value u free data accepted
  cases value with
  | map given =>
    obtain ⟨distinct, parts⟩ := Value.isData_map_iff.mp data
    obtain ⟨gathered, kept⟩ := Outcome.keeping_eq_ok_iff.mp accepted
    obtain ⟨value?, loose, yields, extras, rfl⟩ := (gathered_eq_ok_iff nodup).mp gathered
    have own (key : Text) : (fields.any fun entry => entry.name = key) = true ↔ key ∈ fields.map Entry.name := by
      simp [List.any_eq_true, List.mem_map]
    have stays : extra.Loose (fields.map Entry.name) loose :=
      ExtraPolicy.loose_of_kept nodup (fun key => (own key).mpr) distinct
        (fun part member => Value.isRecordFree_of_isData part.2 (parts part member).2) extras
    obtain ⟨again?, rereads⟩ := exists_by_name nodup fun entry member =>
      Entry.exists_rereads (settles entry member) (fun part member => (parts part member).2) (yields entry member)
    -- what is written: each entry as its shape has it, and what stayed beside them
    have dumps (held? : Text → Option Value) := dump_fixedKeys nodup stays name held?
    have dumped {entry : Entry Shape} (member : entry ∈ fields) (held? : Text → Option Value) :=
      bind_dumpEntry nodup false extra member (held? entry.name)
    have outline : (Value.map (Value.keyed (named (fields.map Entry.name) again? ++ loose))).outline =
        (Value.map (Value.keyed (named (fields.map Entry.name) value? ++ loose))).outline := by
      rw [Value.outline_keyed, Value.outline_keyed, List.map_append, List.map_append, map_snd_named, map_snd_named]
      exact Value.map_named_congr (fun entry member => (rereads entry member).outline) _
    have kept' := Limit.checkAll_of_outline (List.all_eq_true.mp free) outline kept
    refine ⟨⟨.map (Value.keyed (named (fields.map Entry.name) again? ++ loose)), ?_, ?_, outline, ?_, ?_⟩,
      fun hashable => absurd hashable Bool.false_ne_true⟩
    · rw [dumps]
      refine Outcome.keeping_eq_ok_iff.mpr
        ⟨(gathered_eq_ok_iff nodup).mpr ⟨again?, loose, fun entry member => ?_, stays.kept own _, rfl⟩, kept'⟩
      refine (rereads entry member).yields ?_
      rw [stays.lookup (List.mem_map_of_mem member), dumped member]
    · rw [dumps, dumps]
      refine Value.map_named_congr (fun entry member => ?_) loose
      rw [dumped member, dumped member]
      exact (rereads entry member).written
    · rw [dumps]
      refine stays.isRecordFree fun key isKey d held => ?_
      obtain ⟨entry, member, rfl⟩ := List.mem_map.mp isKey
      rw [dumped member] at held
      exact (rereads entry member).free held
    · rw [dumps, dumps]
      refine Value.map_named_congr (fun entry member => ?_) loose
      rw [dumped member, bind_dumpEntry nodup false extra member]
      exact (rereads entry member).stays
  | _ => cases accepted

end Shape

/-- A field that is read under its own name, takes no last step of its own and is written as its shape has it. A default
    of it stays as it is when it is validated and written. -/
structure Field.IsBare (extra : ExtraPolicy) (field : Field Shape) : Prop where
  unaliased : field.inputKey = none
  unrefined : field.refinement = none
  unstyled : field.style = none
  default : ∀ value, field.default = some value → value.isData = true ∧
    ∃ u, field.shape.validateIn extra field.limits value = .ok u ∧ field.shape.dump false extra u = value

structure Field.Settles (extra : ExtraPolicy) (field : Field Shape) : Prop where
  bare : field.IsBare extra
  free : field.limits.isRecordFree = true
  settles : field.shape.Settles extra

namespace Field

variable {field : Field Shape} {extra : ExtraPolicy} {entries : List (Value × Value)} {filled : Filled}

theorem IsBare.key_eq (bare : field.IsBare extra) : field.key = field.name := by
  rw [key, bare.unaliased, Option.getD_none]

theorem IsBare.written_slot (bare : field.IsBare extra) (v : Value) :
    (field.slot (fun suppliedOnly => field.shape.dump suppliedOnly extra) v).written =
      field.shape.dump false extra v := by
  rw [slot, bare.unstyled]
  rfl

theorem IsBare.validateIn_found (bare : field.IsBare extra) {input : Value}
    (found : Value.findText? field.name entries = some input) :
    field.validateIn extra entries = .ok filled ↔ ∃ v, field.shape.validateIn extra field.limits input = .ok v ∧
      filled = (field.slot (fun suppliedOnly => field.shape.dump suppliedOnly extra) v, true) := by
  have finishes : field.finish input = Except.ok := by
    funext v
    rw [finish, bare.unrefined]
  unfold validateIn readWith
  rw [bare.key_eq, found]
  dsimp only
  rw [finishes, map_eq_ok_iff]
  cases field.shape.validateIn extra field.limits input with
  | error setback => exact iff_of_false (fun h => nomatch Outcome.within_eq_ok_iff.mp h.choose_spec.1) nofun
  | ok v =>
    constructor
    · rintro ⟨_, read, rfl⟩
      cases Outcome.within_eq_ok_iff.mp read
      exact ⟨v, rfl, rfl⟩
    · rintro ⟨_, read, rfl⟩
      cases read
      exact ⟨v, rfl, rfl⟩

theorem IsBare.validateIn_absent (bare : field.IsBare extra) (absent : Value.findText? field.name entries = none) :
    field.validateIn extra entries = .ok filled ↔ ∃ value, field.default = some value ∧
      filled = (field.slot (fun suppliedOnly => field.shape.dump suppliedOnly extra) value, false) := by
  unfold validateIn readWith
  rw [bare.key_eq, absent]
  cases field.default with
  | none => exact iff_of_false nofun nofun
  | some value => simp [eq_comm]

theorem Settles.dump_default (settled : field.Settles extra) {value : Value} (default : field.default = some value) :
    field.shape.dump false extra value = value := by
  obtain ⟨data, u, accepted, written⟩ := settled.bare.default value default
  obtain ⟨⟨w, rereads⟩, _⟩ := settled.settles field.limits value u settled.free data accepted
  rw [← written]
  exact rereads.stays

/-- What may stand under the name of a field: something it takes and writes in the same way, or nothing if it is none
    then. -/
def Holds (extra : ExtraPolicy) (field : Field Shape) (held? : Option Value) : Prop :=
  match held? with
  | some d => ∃ w, field.shape.validateIn extra field.limits d = .ok w ∧ field.shape.dump false extra w = d
  | none => field.default = some .none

/-- Whatever a field read, what is written for it may stand under its name, and so may what is given back of it. -/
theorem Settles.holds (settled : field.Settles extra) (data : ∀ part ∈ entries, part.2.isData = true)
    (read : field.validateIn extra entries = .ok filled) :
    field.Holds extra (some filled.1.written) ∧ field.Holds extra filled.given? ∧
      filled.1.written.isRecordFree = true := by
  have written := settled.bare.written_slot
  cases found : Value.findText? field.name entries with
  | some input =>
    obtain ⟨v, accepted, rfl⟩ := (settled.bare.validateIn_found found).mp read
    obtain ⟨⟨w, rereads⟩, _⟩ :=
      settled.settles field.limits input v settled.free (data _ (Value.mem_of_findText? found)) accepted
    have holds : field.Holds extra (some (field.shape.dump false extra v)) := ⟨w, rereads.accepted, rereads.written⟩
    have given : Filled.given? (field.slot (fun suppliedOnly => field.shape.dump suppliedOnly extra) v, true) =
        some (field.shape.dump false extra v) := congrArg some (written v)
    rw [given, written]
    exact ⟨holds, holds, rereads.free⟩
  | none =>
    obtain ⟨value, default, rfl⟩ := (settled.bare.validateIn_absent found).mp read
    obtain ⟨isData, u, accepted, dumped⟩ := settled.bare.default value default
    have holds : field.Holds extra (some value) := ⟨u, accepted, dumped⟩
    have unchanged : field.shape.dump false extra value = value := settled.dump_default default
    rw [written, unchanged]
    refine ⟨holds, ?_, Value.isRecordFree_of_isData value isData⟩
    cases isNone : value.isNone with
    | true =>
      cases value with
      | none => exact default
      | _ => cases isNone
    | false =>
      have given : Filled.given? (field.slot (fun suppliedOnly => field.shape.dump suppliedOnly extra) value, false) =
          some value := by
        unfold Filled.given?
        rw [written, unchanged, if_pos]
        exact Bool.not_eq_true' _ ▸ isNone
      rw [given]
      exact holds

theorem IsBare.exists_validateIn (bare : field.IsBare extra) {held? : Option Value}
    (stands : Value.findText? field.name entries = held?) (holds : field.Holds extra held?) :
    ∃ filled, field.validateIn extra entries = .ok filled ∧ filled.given? = held? ∧
      ∀ d, held? = some d → filled.1.written = d := by
  cases held? with
  | some d =>
    obtain ⟨w, accepted, dumped⟩ := holds
    have written := (bare.written_slot w).trans dumped
    refine ⟨_, (bare.validateIn_found stands).mpr ⟨w, accepted, rfl⟩, congrArg some written, fun d' same => ?_⟩
    cases same
    exact written
  | none => exact ⟨_, (bare.validateIn_absent stands).mpr ⟨.none, holds, rfl⟩, rfl, nofun⟩

end Field

namespace Model

variable {m : Model Shape} {entries : List (Value × Value)} {filled : Text → Filled} {loose : List (Text × Value)}

structure Settles (m : Model Shape) : Prop where
  fields : ∀ field ∈ m.fields, field.Settles m.extra
  nodup : (m.fields.map Field.name).Nodup

theorem Settles.reads_iff (settled : m.Settles) (key : Text) :
    m.reads key = true ↔ key ∈ m.fields.map Field.name := by
  rw [reads, List.any_eq_true, List.mem_map]
  refine exists_congr fun field => and_congr_right fun member => ?_
  rw [decide_eq_true_eq, (settled.fields field member).bare.key_eq]

theorem Settles.stays (settled : m.Settles) (data : (Value.map entries).isData = true)
    (reads : m.Reads entries filled loose) : m.extra.Loose (m.fields.map Field.name) loose := by
  obtain ⟨distinct, parts⟩ := Value.isData_map_iff.mp data
  exact ExtraPolicy.loose_of_kept settled.nodup (fun key => (settled.reads_iff key).mpr) distinct
    (fun part member => Value.isRecordFree_of_isData part.2 (parts part member).2) reads.extras

theorem Settles.holds (settled : m.Settles) (data : (Value.map entries).isData = true)
    (reads : m.Reads entries filled loose) {field : Field Shape} (member : field ∈ m.fields) :
    field.Holds m.extra (some (filled field.name).1.written) ∧ field.Holds m.extra (filled field.name).given? ∧
      (filled field.name).1.written.isRecordFree = true :=
  (settled.fields field member).holds (fun part inside => ((Value.isData_map_iff.mp data).2 part inside).2)
    (reads.fields field member)

/-- A mapping that the fields hold by their names is read again, and every field is written as what it holds. -/
theorem Settles.exists_reads (settled : m.Settles) (stays : m.extra.Loose (m.fields.map Field.name) loose)
    (held? : Text → Option Value) (holds : ∀ field ∈ m.fields, field.Holds m.extra (held? field.name)) :
    ∃ filled, m.Reads (Value.keyed (named (m.fields.map Field.name) held? ++ loose)) filled loose ∧
      ∀ field ∈ m.fields, (filled field.name).given? = held? field.name ∧
        ∀ d, held? field.name = some d → (filled field.name).1.written = d := by
  obtain ⟨filled, each⟩ := exists_by_name settled.nodup fun field member =>
    (settled.fields field member).bare.exists_validateIn (stays.lookup (List.mem_map_of_mem member)) (holds field member)
  exact ⟨filled, ⟨fun field member => (each field member).1, stays.kept settled.reads_iff held?⟩,
    fun field member => (each field member).2⟩

end Model

theorem Shape.settles_model {m : Model Shape} (settled : m.Settles) (extra : ExtraPolicy) :
    (Shape.model m).Settles extra := by
  intro limits value u free data accepted
  obtain ⟨made, kept⟩ := Outcome.keeping_eq_ok_iff.mp accepted
  obtain ⟨r, validated, rfl⟩ := map_eq_ok_iff.mp made
  cases value with
  | map entries =>
    obtain ⟨filled, loose, reads, rfl⟩ := (Model.validate_map_iff_reads settled.nodup).mp validated
    have stays := settled.stays data reads
    obtain ⟨filled', reads', written⟩ := settled.exists_reads stays (fun name => some (filled name).1.written)
      fun field member => (settled.holds data reads member).1
    have dumps := reads.dump_assembled stays
    have dumps' : m.dump false (m.assembled filled' loose) = m.dump false (m.assembled filled loose) := by
      rw [dumps, reads'.dump_assembled stays]
      exact Value.map_named_congr (fun field member => congrArg some ((written field member).2 _ rfl)) loose
    have dumpedFree : (m.dump false (m.assembled filled loose)).isRecordFree = true := by
      rw [dumps]
      refine stays.isRecordFree fun name isName v held => ?_
      obtain ⟨field, member, rfl⟩ := List.mem_map.mp isName
      cases held
      exact (settled.holds data reads member).2.2
    have outline : (Value.record (m.assembled filled' loose)).outline =
        (Value.record (m.assembled filled loose)).outline := rfl
    refine ⟨⟨.record (m.assembled filled' loose), ?_, dumps', outline, dumpedFree, ?_⟩,
      fun hashable => absurd hashable Bool.false_ne_true⟩
    · have again := (Model.validate_map_iff_reads settled.nodup).mpr ⟨filled', loose, reads', rfl⟩
      refine Outcome.keeping_eq_ok_iff.mpr ⟨map_eq_ok_iff.mpr ⟨_, ?_, rfl⟩, ?_⟩
      · show m.validate (m.dump false (m.assembled filled loose)) = _
        rw [dumps]
        exact again
      · exact Limit.checkAll_of_outline (List.all_eq_true.mp free) outline kept
    · show (Shape.model m).dump false extra (m.dump false (m.assembled filled loose)) =
        m.dump false (m.assembled filled loose)
      rw [dumps] at dumpedFree ⊢
      exact Value.dump_of_isRecordFree false _ dumpedFree
  | record => cases data
  | _ => cases m; cases validated

mutual

def Shape.IsBare : Shape → ExtraPolicy → Prop
  | .list item, extra => item.IsBare extra
  | .optional inner, extra => inner.IsBare extra
  | .mapping key value, extra => key.IsBare extra ∧ value.IsBare extra
  | .fixedKeys _ entries, extra => (entries.map Entry.name).Nodup ∧ entriesBare entries extra
  | .model m, _ => m.IsBare
  | _, _ => True
termination_by structural shape => shape

def Model.IsBare : Model Shape → Prop
  | ⟨_, _, _, extra, fields⟩ => (fields.map Field.name).Nodup ∧ fieldsBare fields extra
termination_by structural m => m

def fieldsBare : List (Field Shape) → ExtraPolicy → Prop
  | [], _ => True
  | ⟨name, shape, default, inputKey, limits, refinement, style⟩ :: rest, extra =>
    Field.IsBare extra ⟨name, shape, default, inputKey, limits, refinement, style⟩ ∧ shape.IsBare extra ∧
      fieldsBare rest extra
termination_by structural fields => fields

def entriesBare : List (Entry Shape) → ExtraPolicy → Prop
  | [], _ => True
  | ⟨_, shape, _⟩ :: rest, extra => shape.IsBare extra ∧ entriesBare rest extra
termination_by structural entries => entries

end

mutual

/-- Nowhere are integers on both sides of 64 bits to choose from, and no bound holds a record. -/
def Shape.isTame : Shape → Bool
  | .list item => item.isTame
  | .optional inner => inner.isTame
  | .mapping key value => key.isTame && value.isTame
  | .literal choices => !choices.any (Reading.isBeyond choices)
  | .fixedKeys _ entries => entriesTame entries
  | .model m => m.isTame
  | _ => true
termination_by structural shape => shape

def Model.isTame : Model Shape → Bool
  | ⟨_, _, _, _, fields⟩ => fieldsTame fields
termination_by structural m => m

def fieldsTame : List (Field Shape) → Bool
  | [] => true
  | ⟨_, shape, _, _, limits, _, _⟩ :: rest => limits.isRecordFree && shape.isTame && fieldsTame rest
termination_by structural fields => fields

def entriesTame : List (Entry Shape) → Bool
  | [] => true
  | ⟨_, shape, _⟩ :: rest => shape.isTame && entriesTame rest
termination_by structural entries => entries

end

mutual

theorem Shape.settles : (shape : Shape) → (extra : ExtraPolicy) → shape.IsBare extra → shape.isTame = true →
    shape.Settles extra
  | .text, _, _, _ | .int, _, _, _ | .bool, _, _, _ | .uuid, _, _, _ | .decimal, _, _, _ | .moment, _, _, _ =>
    Shape.settles_of_isScalar rfl
  | .float, _, _, _ => Shape.settles_float
  | .any, _, _, _ => Shape.settles_any
  | .literal _, _, _, tame => Shape.settles_literal (Bool.not_eq_true' _ ▸ tame)
  | .optional inner, extra, bare, tame => Shape.settles_optional (inner.settles extra bare tame)
  | .list item, extra, bare, tame => Shape.settles_list (item.settles extra bare tame)
  | .mapping key item, extra, bare, tame => by
    rw [Shape.isTame, Bool.and_eq_true] at tame
    exact Shape.settles_mapping (key.settles extra bare.1 tame.1) (item.settles extra bare.2 tame.2)
  | .fixedKeys _ entries, extra, bare, tame =>
    Shape.settles_fixedKeys bare.1 (entriesSettle entries extra bare.2 tame)
  | .model m, extra, bare, tame => Shape.settles_model (m.settles bare tame) extra
termination_by structural shape => shape

theorem Model.settles : (m : Model Shape) → m.IsBare → m.isTame = true → m.Settles
  | ⟨_, _, _, extra, fields⟩, bare, tame => ⟨fieldsSettle fields extra bare.2 tame, bare.1⟩
termination_by structural m => m

theorem fieldsSettle : (fields : List (Field Shape)) → (extra : ExtraPolicy) → fieldsBare fields extra →
    fieldsTame fields = true → ∀ field ∈ fields, field.Settles extra
  | [], _, _, _ => List.forall_mem_nil _
  | ⟨_, shape, _, _, _, _, _⟩ :: rest, extra, bare, tame => by
    rw [fieldsTame, Bool.and_eq_true, Bool.and_eq_true] at tame
    obtain ⟨bareField, bareShape, bareRest⟩ := bare
    exact List.forall_mem_cons.mpr
      ⟨⟨bareField, tame.1.1, shape.settles extra bareShape tame.1.2⟩, fieldsSettle rest extra bareRest tame.2⟩
termination_by structural fields => fields

theorem entriesSettle : (entries : List (Entry Shape)) → (extra : ExtraPolicy) → entriesBare entries extra →
    entriesTame entries = true → ∀ entry ∈ entries, entry.shape.Settles extra
  | [], _, _, _ => List.forall_mem_nil _
  | ⟨_, shape, _⟩ :: rest, extra, bare, tame => by
    rw [entriesTame, Bool.and_eq_true] at tame
    exact List.forall_mem_cons.mpr ⟨shape.settles extra bare.1 tame.1, entriesSettle rest extra bare.2 tame.2⟩
termination_by structural entries => entries

end

end TypedPath
