import TypedPath.Proofs.Schema.RecordFree
import TypedPath.Proofs.Value.Sameness

namespace TypedPath

theorem exists_by_name {α β : Type} [Nonempty β] {parts : List α} {name : α → Text} {chooses : α → β → Prop}
    (nodup : (parts.map name).Nodup) (each : ∀ part ∈ parts, ∃ b, chooses part b) :
    ∃ choice : Text → β, ∀ part ∈ parts, chooses part (choice (name part)) := by
  induction parts with
  | nil => exact ⟨fun _ => Classical.arbitrary β, List.forall_mem_nil _⟩
  | cons part parts ih =>
    rw [List.map_cons, List.nodup_cons] at nodup
    obtain ⟨⟨b, first⟩, later⟩ := List.forall_mem_cons.mp each
    obtain ⟨choice, others⟩ := ih nodup.2 later
    refine ⟨Function.update choice (name part) b, List.forall_mem_cons.mpr ⟨?_, fun other member => ?_⟩⟩
    · rwa [Function.update_self]
    · have apart : name other ≠ name part := fun same => nodup.1 (same ▸ List.mem_map_of_mem member)
      rw [Function.update_of_ne apart]
      exact others other member

theorem map_snd_named {α β : Type} {names : List Text} {value? : Text → Option α} (write : α → β) :
    (named names value?).map (fun pair => (pair.1, write pair.2)) =
      named names fun name => (value? name).map write := by
  unfold named
  rw [List.map_filterMap]
  refine List.filterMap_congr fun name _ => ?_
  rw [Option.map_map, Option.map_map]
  rfl

namespace Value

theorem map_named_congr {α : Type} {parts : List α} {name : α → Text} {value? other? : Text → Option Value}
    (same : ∀ part ∈ parts, value? (name part) = other? (name part)) (loose : List (Text × Value)) :
    map (keyed (named (parts.map name) value? ++ loose)) = map (keyed (named (parts.map name) other? ++ loose)) := by
  refine congrArg (fun pairs => map (keyed (pairs ++ loose))) (List.filterMap_congr fun key isKey => ?_)
  obtain ⟨part, member, rfl⟩ := List.mem_map.mp isKey
  rw [same part member]

theorem keyed_append (left right : List (Text × Value)) : keyed (left ++ right) = keyed left ++ keyed right :=
  List.map_append

theorem nodup_of_distinct_keyed {pairs : List (Text × Value)} (distinct : Distinct ((keyed pairs).map Prod.fst)) :
    (pairs.map Prod.fst).Nodup := by
  unfold Distinct keyed at distinct
  rw [List.map_map, List.pairwise_map] at distinct
  refine List.pairwise_map.mpr (distinct.imp fun {pair other} apart same => ?_)
  change (text pair.1).same (text other.1) = false at apart
  rw [same_text, same, decide_eq_true rfl] at apart
  cases apart

end Value

namespace ExtraPolicy

variable {policy : ExtraPolicy} {reads : Text → Bool} {names : List Text} {loose : List (Text × Value)}
  {entries : List (Value × Value)}

structure Loose (policy : ExtraPolicy) (names : List Text) (loose : List (Text × Value)) : Prop where
  nodup : (names ++ loose.map Prod.fst).Nodup
  allowed : loose ≠ [] → policy = .allow
  free : ∀ pair ∈ loose, pair.2.isRecordFree = true

theorem allow_of_keep {entry : Value × Value} {pair : Text × Value}
    (keeps : policy.keep reads entry = .ok (some pair)) : policy = .allow := by
  obtain ⟨key, value⟩ := entry
  obtain ⟨isText, _⟩ := of_keep_eq_ok keeps
  cases isText
  cases policy with
  | allow => rfl
  | ignore => cases keeps
  | forbid =>
    unfold keep at keeps
    dsimp only at keeps
    split at keeps <;> cases keeps

theorem keyed_sublist_of_kept (kept : policy.kept reads entries = .ok loose) : (Value.keyed loose).Sublist entries := by
  obtain ⟨results, gathered, rfl⟩ := map_eq_ok_iff.mp kept
  have each := Outcome.gather_eq_ok_iff.mp gathered
  clear kept gathered
  induction entries generalizing results with
  | nil =>
    cases results with
    | nil => exact List.Sublist.refl _
    | cons => cases each
  | cons entry entries ih =>
    cases results with
    | nil => cases each
    | cons result results =>
      obtain ⟨first, later⟩ := List.cons.inj each
      cases result with
      | none => exact (ih results later).cons _
      | some pair =>
        obtain ⟨rfl, _⟩ := of_keep_eq_ok first
        exact (ih results later).cons_cons _

theorem loose_of_kept (nodup : names.Nodup) (own : ∀ name ∈ names, reads name = true)
    (distinct : Value.Distinct (entries.map Prod.fst)) (free : ∀ entry ∈ entries, entry.2.isRecordFree = true)
    (kept : policy.kept reads entries = .ok loose) : policy.Loose names loose := by
  have sublist := keyed_sublist_of_kept kept
  refine ⟨List.nodup_append.mpr ⟨nodup, ?_, ?_⟩, fun some => ?_, fun pair member => ?_⟩
  · exact Value.nodup_of_distinct_keyed (List.Pairwise.sublist (sublist.map _) distinct)
  · rintro name isName other isLoose rfl
    obtain ⟨pair, member, rfl⟩ := List.mem_map.mp isLoose
    have unread := (of_mem_kept kept member).2
    rw [own pair.1 isName] at unread
    cases unread
  · obtain ⟨pair, member⟩ := List.exists_mem_of_ne_nil loose some
    obtain ⟨results, gathered, rfl⟩ := map_eq_ok_iff.mp kept
    obtain ⟨_, inResults, rfl⟩ := List.mem_filterMap.mp member
    obtain ⟨entry, _, keeps⟩ := Outcome.exists_item_of_mem (Outcome.gather_eq_ok_iff.mp gathered) inResults
    exact allow_of_keep keeps
  · exact free _ (of_mem_kept kept member).1

namespace Loose

theorem absent (stays : policy.Loose names loose) {name : Text} (member : name ∈ names) : loose.lookup name = none :=
  lookup_eq_none_of_not_mem fun inside =>
    (List.nodup_append.mp stays.nodup).2.2 name member name inside rfl

theorem lookup (stays : policy.Loose names loose) {value? : Text → Option Value} {name : Text} (member : name ∈ names) :
    Value.findText? name (Value.keyed (named names value? ++ loose)) = value? name := by
  rw [Value.findText?_keyed, List.lookup_append, lookup_named, if_pos member, stays.absent member, Option.or_none]

theorem isRecordFree (stays : policy.Loose names loose) {value? : Text → Option Value}
    (each : ∀ name ∈ names, ∀ v, value? name = some v → v.isRecordFree = true) :
    (Value.map (Value.keyed (named names value? ++ loose))).isRecordFree = true := by
  refine Value.entriesRecordFree_iff.mpr fun entry member => ?_
  obtain ⟨pair, inside, rfl⟩ := List.mem_map.mp member
  rcases List.mem_append.mp inside with read | unread
  · obtain ⟨isName, held⟩ := mem_named_iff.mp read
    exact each pair.1 isName pair.2 held
  · exact stays.free pair unread

theorem kept (stays : policy.Loose names loose) (own : ∀ name, reads name = true ↔ name ∈ names)
    (value? : Text → Option Value) : policy.kept reads (Value.keyed (named names value? ++ loose)) = .ok loose := by
  have passed : (Value.keyed (named names value?)).map (policy.keep reads) =
      ((named names value?).map fun _ => none).map .ok := by
    unfold Value.keyed
    rw [List.map_map, List.map_map]
    exact List.map_congr_left fun pair member =>
      policy.keep_of_reads ((own pair.1).mpr (mem_named_iff.mp member).1) pair.2
  have stay : (Value.keyed loose).map (policy.keep reads) = (loose.map some).map .ok := by
    unfold Value.keyed
    rw [List.map_map, List.map_map]
    refine List.map_congr_left fun pair member => ?_
    have unread : reads pair.1 = false := by
      rw [← Bool.not_eq_true, own]
      exact fun isName => (List.nodup_append.mp stays.nodup).2.2 pair.1 isName pair.1 (List.mem_map_of_mem member) rfl
    rw [stays.allowed (List.ne_nil_of_mem member)]
    simp only [Function.comp_apply, keep, unread, Bool.false_eq_true, ite_false]
  have gathered := Outcome.gather_eq_ok_iff.mpr ((congrArg₂ (· ++ ·) passed stay).trans List.map_append.symm)
  unfold ExtraPolicy.kept
  rw [Value.keyed_append, List.map_append, gathered]
  refine congrArg Except.ok ?_
  dsimp only
  rw [List.filterMap_append, List.filterMap_map, List.filterMap_map]
  simp

end Loose

end ExtraPolicy

theorem Field.slot_of_validateIn {field : Field Shape} {extra : ExtraPolicy} {entries : List (Value × Value)}
    {filled : Filled} (read : field.validateIn extra entries = .ok filled) :
    filled.1 = field.slot (fun suppliedOnly => field.shape.dump suppliedOnly extra) filled.1.value := by
  unfold validateIn readWith at read
  split at read
  · obtain ⟨value, _, rfl⟩ := map_eq_ok_iff.mp read
    rfl
  · split at read
    · cases read
      rfl
    · cases read

theorem dumpField_of_mem {fields : List (Field Shape)} (nodup : (fields.map Field.name).Nodup) (suppliedOnly : Bool)
    (extra : ExtraPolicy) {field : Field Shape} (member : field ∈ fields) (value : Value) :
    dumpField suppliedOnly fields extra field.name value =
      some (Style.write field.style (field.shape.dump suppliedOnly extra) value) := by
  induction fields with
  | nil => cases member
  | cons first rest ih =>
    rw [List.map_cons, List.nodup_cons] at nodup
    rw [dumpField]
    rcases List.mem_cons.mp member with rfl | later
    · rw [if_pos rfl]
    · rw [if_neg fun same => nodup.1 (List.mem_map.mpr ⟨field, later, same.symm⟩)]
      exact ih nodup.2 later

def Filled.given? (entry : Filled) : Option Value :=
  if entry.2 || !entry.1.value.isNone then some entry.1.written else none

theorem Filled.writtenAs?_false (entry : Filled) :
    entry.writtenAs? false = entry.given?.map fun value => (entry.1.name, value) := by
  unfold writtenAs? given?
  cases entry.2 <;> cases entry.1.value.isNone <;> rfl

instance : Inhabited Filled := ⟨⟨[], .none, .none, .none, false⟩, false⟩

namespace Model

/-- What the fields of a model read under their names, and what stays beside them. -/
structure Reads (m : Model Shape) (entries : List (Value × Value)) (filled : Text → Filled)
    (loose : List (Text × Value)) : Prop where
  fields : ∀ field ∈ m.fields, field.validateIn m.extra entries = .ok (filled field.name)
  extras : m.extra.kept m.reads entries = .ok loose

def assembled (m : Model Shape) (filled : Text → Filled) (loose : List (Text × Value)) : Instance Value :=
  m.build (m.fields.map fun field => filled field.name) (loose.map fun pair => looseSlot pair.1 pair.2)

variable {m : Model Shape} {entries : List (Value × Value)} {filled : Text → Filled} {loose : List (Text × Value)}
  {r : Instance Value}

theorem validate_map_iff_reads (nodup : (m.fields.map Field.name).Nodup) :
    m.validate (.map entries) = .ok r ↔
      ∃ filled loose, m.Reads entries filled loose ∧ r = m.assembled filled loose := by
  rw [validate_map_eq_ok_iff]
  constructor
  · rintro ⟨all, slots, read, extras, rfl⟩
    obtain ⟨loose, kept, rfl⟩ := map_eq_ok_iff.mp extras
    obtain ⟨filled, each⟩ := exists_by_name nodup fun field member =>
      (Outcome.exists_result_of_mem read member).imp fun _ => And.right
    refine ⟨filled, loose, ⟨each, kept⟩, ?_⟩
    have listed : (m.fields.map fun field => filled field.name).map Except.ok = all.map (Except.ok (ε := Setback)) := by
      rw [← read, List.map_map]
      exact (List.map_congr_left each).symm
    rw [assembled, List.map_injective_iff.mpr (fun _ _ => Except.ok.inj) listed]
  · rintro ⟨filled, loose, reads, rfl⟩
    refine ⟨_, _, ?_, ?_, rfl⟩
    · rw [List.map_map]
      exact List.map_congr_left reads.fields
    · unfold extras
      rw [reads.extras]
      rfl

namespace Reads

variable (reads : m.Reads entries filled loose) (stays : m.extra.Loose (m.fields.map Field.name) loose)

include reads stays

theorem names_nodup : ((m.fields.map fun field => filled field.name).map (·.1.name) ++
    (loose.map fun pair => looseSlot pair.1 pair.2).map Slot.name).Nodup := by
  rw [List.map_map, List.map_map]
  refine (congrArg List.Nodup (congrArg₂ (· ++ ·) (List.map_congr_left fun field member => ?_) rfl)).mpr stays.nodup
  exact (Field.filled_of_validateIn (reads.fields field member)).1

theorem fields_assembled : (m.assembled filled loose).fields false =
    .map (Value.keyed (named (m.fields.map Field.name) (fun name => (filled name).given?) ++ loose)) := by
  rw [assembled, fields_build_append (reads.names_nodup stays), List.filterMap_map]
  refine congrArg (fun pairs => Value.map (Value.keyed pairs)) (congrArg₂ (· ++ ·) ?_ ?_)
  · unfold named
    rw [List.filterMap_map]
    refine List.filterMap_congr fun field member => ?_
    rw [Function.comp_apply, Filled.writtenAs?_false, (Field.filled_of_validateIn (reads.fields field member)).1]
    rfl
  · rw [List.map_map]
    refine (List.map_congr_left fun pair member => ?_).trans (List.map_id _)
    exact congrArg (pair.1, ·) (Value.dump_of_isRecordFree false pair.2 (stays.free pair member))

theorem dump_assembled : m.dump false (m.assembled filled loose) =
    .map (Value.keyed (named (m.fields.map Field.name) (fun name => some (filled name).1.written) ++ loose)) := by
  have nodup := reads.names_nodup stays
  have slots : (m.assembled filled loose).slots =
      (m.fields.map fun field => filled field.name).map (·.1) ++ loose.map fun pair => looseSlot pair.1 pair.2 := rfl
  have distinct : ((m.assembled filled loose).slots.map Slot.name).Nodup := by
    rw [slots, List.map_append, List.map_map]
    exact nodup
  have dumps : m.dump false (m.assembled filled loose) = (m.assembled filled loose).dumpWith false fun slot =>
      if slot.declared then dumpField false m.fields m.extra slot.name slot.value
      else if m.extra = .allow then some (slot.dump false) else none := by
    cases m
    rfl
  rw [dumps, Instance.dumpWith_eq distinct, slots, List.filterMap_append, List.map_map, List.filterMap_map,
    List.filterMap_map]
  refine congrArg (fun pairs => Value.map (Value.keyed pairs)) (congrArg₂ (· ++ ·) ?_ ?_)
  · unfold named
    rw [List.filterMap_map]
    refine List.filterMap_congr fun field member => ?_
    obtain ⟨value, slot⟩ : ∃ value, (filled field.name).1 =
        field.slot (fun suppliedOnly => field.shape.dump suppliedOnly m.extra) value :=
      ⟨_, Field.slot_of_validateIn (reads.fields field member)⟩
    simp only [Function.comp_apply, slot, Option.map_some, Instance.writtenAs, Bool.false_and, Bool.false_eq_true,
      ite_false, Field.slot, ite_true, dumpField_of_mem (List.nodup_append.mp stays.nodup).1 false m.extra member]
  · refine (List.filterMap_congr fun pair member => ?_).trans List.filterMap_some
    rw [Function.comp_apply, Instance.writtenAs, Bool.false_and, if_neg Bool.false_ne_true, looseSlot]
    dsimp only
    rw [if_neg Bool.false_ne_true, if_pos (stays.allowed (List.ne_nil_of_mem member))]
    exact congrArg some (congrArg (pair.1, ·) (Value.dump_of_isRecordFree false pair.2 (stays.free pair member)))

end Reads

end Model

section FixedKeys

variable {fields : List (Entry Shape)} {extra : ExtraPolicy} {given : List (Value × Value)}

theorem dumpEntry_of_mem (nodup : (fields.map Entry.name).Nodup) (suppliedOnly : Bool) (extra : ExtraPolicy)
    {entry : Entry Shape} (member : entry ∈ fields) (value : Value) :
    dumpEntry suppliedOnly fields extra entry.name value = some (entry.shape.dump suppliedOnly extra value) := by
  induction fields with
  | nil => cases member
  | cons first rest ih =>
    rw [List.map_cons, List.nodup_cons] at nodup
    rw [dumpEntry]
    rcases List.mem_cons.mp member with rfl | later
    · rw [if_pos rfl]
    · rw [if_neg fun same => nodup.1 (List.mem_map.mpr ⟨entry, later, same.symm⟩)]
      exact ih nodup.2 later

theorem dumpEntry_of_not_mem (suppliedOnly : Bool) (extra : ExtraPolicy) {key : Text}
    (absent : key ∉ fields.map Entry.name) (value : Value) : dumpEntry suppliedOnly fields extra key value = none := by
  induction fields with
  | nil => rfl
  | cons first rest ih =>
    rw [List.map_cons, List.mem_cons, not_or] at absent
    rw [dumpEntry, if_neg fun same => absent.1 same.symm]
    exact ih absent.2

def Entry.Yields (extra : ExtraPolicy) (given : List (Value × Value)) (entry : Entry Shape) (value? : Option Value) :
    Prop :=
  match Value.findText? entry.name given, value? with
  | some input, some v => entry.shape.validateIn extra .free input = .ok v
  | none, none => entry.required = false
  | _, _ => False

theorem Entry.readWith_eq_ok_iff {entry : Entry Shape} {result : Option (Value × Value)} :
    entry.readWith (entry.shape.validateIn extra .free) given = .ok result ↔
      ∃ value?, entry.Yields extra given value? ∧ result = value?.map fun v => (.text entry.name, v) := by
  unfold readWith Yields
  cases Value.findText? entry.name given with
  | some input =>
    dsimp only
    rw [map_eq_ok_iff]
    constructor
    · rintro ⟨v, read, rfl⟩
      exact ⟨some v, Outcome.within_eq_ok_iff.mp read, rfl⟩
    · rintro ⟨value?, yields, rfl⟩
      cases value? with
      | none => exact yields.elim
      | some v => exact ⟨v, Outcome.within_eq_ok_iff.mpr yields, rfl⟩
  | none =>
    dsimp only
    constructor
    · intro read
      split at read
      · cases read
      · rename_i optional
        cases read
        exact ⟨none, Bool.not_eq_true _ ▸ optional, rfl⟩
    · rintro ⟨value?, yields, rfl⟩
      cases value? with
      | none => rw [if_neg (Bool.not_eq_true _ ▸ yields)]; rfl
      | some v => exact yields.elim

/-- A mapping with fixed keys has what each of them yields, and then what stays beside them. -/
theorem gathered_eq_ok_iff (nodup : (fields.map Entry.name).Nodup) {reads : Text → Bool} {v : Value} :
    Entry.gathered (validateEntries fields extra given) (extra.kept reads given) = .ok v ↔
      ∃ value? loose, (∀ entry ∈ fields, entry.Yields extra given (value? entry.name)) ∧
        extra.kept reads given = .ok loose ∧
        v = .map (Value.keyed (named (fields.map Entry.name) value? ++ loose)) := by
  rw [validateEntries_eq_map, Entry.gathered, map_eq_ok_iff]
  have written (value? : Text → Option Value) (loose : List (Text × Value)) :
      (fields.map fun entry => (value? entry.name).map fun v => (Value.text entry.name, v)).filterMap id ++
        loose.map (fun pair => (Value.text pair.1, pair.2)) =
      Value.keyed (named (fields.map Entry.name) value? ++ loose) := by
    rw [Value.keyed_append]
    unfold Value.keyed named
    rw [List.filterMap_map, List.filterMap_map, List.map_filterMap]
    refine congrArg (· ++ _) (List.filterMap_congr fun entry _ => ?_)
    simp only [Function.comp_apply, id, Option.map_map]
    rfl
  constructor
  · rintro ⟨⟨results, loose⟩, both, rfl⟩
    obtain ⟨gathered, kept⟩ := Outcome.both_eq_ok_iff.mp both
    have read := Outcome.gather_eq_ok_iff.mp gathered
    obtain ⟨value?, each⟩ := exists_by_name nodup fun entry member =>
      have ⟨_, _, ok⟩ := Outcome.exists_result_of_mem read member
      (Entry.readWith_eq_ok_iff.mp ok).imp fun value? yields => And.intro yields.1 (ok.trans (congrArg _ yields.2))
    refine ⟨value?, loose, fun entry member => (each entry member).1, kept, ?_⟩
    have listed : (fields.map fun entry => (value? entry.name).map fun v => (Value.text entry.name, v)).map Except.ok =
        results.map (Except.ok (ε := Setback)) := by
      rw [← read, List.map_map]
      exact (List.map_congr_left fun entry member => (each entry member).2).symm
    rw [← written, List.map_injective_iff.mpr (fun _ _ => Except.ok.inj) listed]
  · rintro ⟨value?, loose, yields, kept, rfl⟩
    refine ⟨_, Outcome.both_eq_ok_iff.mpr ⟨Outcome.gather_eq_ok_iff.mpr ?_, kept⟩,
      congrArg Value.map (written value? loose)⟩
    rw [List.map_map]
    exact List.map_congr_left fun entry member => Entry.readWith_eq_ok_iff.mpr ⟨_, yields entry member, rfl⟩

theorem dump_fixedKeys (nodup : (fields.map Entry.name).Nodup) {loose : List (Text × Value)}
    (stays : extra.Loose (fields.map Entry.name) loose) (name : Text) (value? : Text → Option Value) :
    (Shape.fixedKeys name fields).dump false extra
        (.map (Value.keyed (named (fields.map Entry.name) value? ++ loose))) =
      .map (Value.keyed (named (fields.map Entry.name)
        (fun key => (value? key).bind (dumpEntry false fields extra key)) ++ loose)) := by
  rw [Shape.dump, Value.keyed_append, Value.keyed_append, List.filterMap_append]
  refine congrArg Value.map (congrArg₂ (· ++ ·) ?_ ?_)
  · unfold Value.keyed named
    rw [List.filterMap_map, List.filterMap_filterMap, List.map_filterMap]
    refine List.filterMap_congr fun key isKey => ?_
    obtain ⟨entry, member, rfl⟩ := List.mem_map.mp isKey
    dsimp only
    cases value? entry.name with
    | none => rfl
    | some v =>
      simp only [Option.map_some, Option.bind_some, Function.comp_apply, dumpKnown,
        dumpEntry_of_mem nodup false extra member]
  · unfold Value.keyed
    rw [List.filterMap_map, ← List.filterMap_eq_map]
    refine List.filterMap_congr fun pair member => ?_
    have apart : pair.1 ∉ fields.map Entry.name := fun isKey =>
      (List.nodup_append.mp stays.nodup).2.2 pair.1 isKey pair.1 (List.mem_map_of_mem member) rfl
    have allowed := stays.allowed (List.ne_nil_of_mem member)
    have unchanged := Value.dump_of_isRecordFree false pair.2 (stays.free pair member)
    simp only [Function.comp_apply, dumpKnown, dumpEntry_of_not_mem false extra apart, if_pos allowed, unchanged]

end FixedKeys

end TypedPath
