import TypedPath.Proofs.Schema.Literal
import TypedPath.Proofs.Schema.Parts

namespace TypedPath

namespace Value

mutual

/-- No record is written inside the value. Keys are members of a mapping, which no record can be. -/
def isRecordFree : Value → Bool
  | .list items | .tuple items | .set items _ => allRecordFree items
  | .map entries => entriesRecordFree entries
  | .record _ => false
  | _ => true
termination_by structural value => value

def allRecordFree : List Value → Bool
  | [] => true
  | item :: rest => item.isRecordFree && allRecordFree rest
termination_by structural items => items

def entriesRecordFree : List (Value × Value) → Bool
  | [] => true
  | (_, value) :: rest => value.isRecordFree && entriesRecordFree rest
termination_by structural entries => entries

end

theorem allRecordFree_iff {items : List Value} :
    allRecordFree items = true ↔ ∀ item ∈ items, item.isRecordFree = true := by
  induction items with
  | nil => exact iff_of_true rfl (List.forall_mem_nil _)
  | cons item items ih => rw [allRecordFree, Bool.and_eq_true, ih, List.forall_mem_cons]

theorem entriesRecordFree_iff {entries : List (Value × Value)} :
    entriesRecordFree entries = true ↔ ∀ entry ∈ entries, entry.2.isRecordFree = true := by
  induction entries with
  | nil => exact iff_of_true rfl (List.forall_mem_nil _)
  | cons entry entries ih => rw [entriesRecordFree, Bool.and_eq_true, ih, List.forall_mem_cons]

mutual

theorem dump_of_isRecordFree (suppliedOnly : Bool) :
    (value : Value) → value.isRecordFree = true → value.dump suppliedOnly = value
  | .list items, free => congrArg list (dumpItems_of_allRecordFree suppliedOnly items free)
  | .tuple items, free => congrArg tuple (dumpItems_of_allRecordFree suppliedOnly items free)
  | .set items frozen, free => congrArg (set · frozen) (dumpItems_of_allRecordFree suppliedOnly items free)
  | .map entries, free => congrArg map (dumpEntries_of_entriesRecordFree suppliedOnly entries free)
  | .none, _ | .bool _, _ | .int _, _ | .float _, _ | .decimal _, _ | .text _, _ | .uuid _, _ | .moment _, _ => rfl
termination_by structural value => value

theorem dumpItems_of_allRecordFree (suppliedOnly : Bool) :
    (items : List Value) → allRecordFree items = true → dumpItems suppliedOnly items = items
  | [], _ => rfl
  | item :: rest, free => by
    rw [allRecordFree, Bool.and_eq_true] at free
    rw [dumpItems, dump_of_isRecordFree suppliedOnly item free.1, dumpItems_of_allRecordFree suppliedOnly rest free.2]
termination_by structural items => items

theorem dumpEntries_of_entriesRecordFree (suppliedOnly : Bool) :
    (entries : List (Value × Value)) → entriesRecordFree entries = true → dumpEntries suppliedOnly entries = entries
  | [], _ => rfl
  | (key, value) :: rest, free => by
    rw [entriesRecordFree, Bool.and_eq_true] at free
    rw [dumpEntries, dump_of_isRecordFree suppliedOnly value free.1,
      dumpEntries_of_entriesRecordFree suppliedOnly rest free.2]
termination_by structural entries => entries

end

theorem dump_true_eq_of_isRecordFree {value : Value} (free : value.isRecordFree = true) :
    value.dump true = value.dump false := by
  rw [dump_of_isRecordFree true value free, dump_of_isRecordFree false value free]

theorem isRecordFree_of_isScalar {v : Value} (scalar : v.isScalar = true) : v.isRecordFree = true := by
  cases v <;> first | rfl | cases scalar

theorem isRecordFree_of_findText? {key : Text} {entries : List (Value × Value)} {value : Value}
    (free : ∀ entry ∈ entries, entry.2.isRecordFree = true) (found : findText? key entries = some value) :
    value.isRecordFree = true :=
  free _ (mem_of_findText? found)

end Value

mutual

def Shape.isFlat : Shape → Bool
  | .list item => item.isFlat
  | .optional inner => inner.isFlat
  | .mapping key value => key.isFlat && value.isFlat
  | .literal choices => choices.all Value.isRecordFree
  | .fixedKeys _ entries => entriesFlat entries
  | .model _ => false
  | _ => true
termination_by structural shape => shape

def entriesFlat : List (Entry Shape) → Bool
  | [] => true
  | ⟨_, shape, _⟩ :: rest => shape.isFlat && entriesFlat rest
termination_by structural entries => entries

end

variable {extra : ExtraPolicy} {limits : Limits} {value v : Value}

theorem isRecordFree_of_readItems {validate : Value → Outcome Value} {ofAnything : Bool} {items : List Value}
    (each : ∀ item ∈ items, ∀ w, validate item = .ok w → w.isRecordFree = true)
    (read : readItems validate ofAnything limits value items = .ok v) : v.isRecordFree = true := by
  obtain ⟨results, all, _, rfl⟩ := readItems_eq_ok_iff.mp read
  refine Value.allRecordFree_iff.mpr fun result member => ?_
  obtain ⟨item, inside, validates⟩ := Outcome.exists_item_of_mem all member
  exact each item inside result validates

theorem isRecordFree_of_readEntries {key item : Value → Outcome Value} {entries : List (Value × Value)}
    (each : ∀ entry ∈ entries, ∀ w, item entry.2 = .ok w → w.isRecordFree = true)
    (read : readEntries key item limits value entries = .ok v) : v.isRecordFree = true := by
  obtain ⟨built, rfl, _, together⟩ := exists_of_readEntries read
  refine Value.entriesRecordFree_iff.mpr fun entry member => ?_
  obtain ⟨original, inside, validates⟩ := together.value entry member
  exact each original inside entry.2 validates

theorem isRecordFree_of_gathered {fields : List (Entry Shape)} {reads : Text → Bool} {given : List (Value × Value)}
    (free : ∀ entry ∈ given, entry.2.isRecordFree = true)
    (each : ∀ field ∈ fields, ∀ input, input.isRecordFree = true →
      ∀ w, field.shape.validateIn extra .free input = .ok w → w.isRecordFree = true)
    (gathered : Entry.gathered (validateEntries fields extra given) (extra.kept reads given) = .ok v) :
    v.isRecordFree = true := by
  rw [validateEntries_eq_map] at gathered
  obtain ⟨⟨kept, loose⟩, both, rfl⟩ := map_eq_ok_iff.mp gathered
  obtain ⟨read, extras⟩ := Outcome.both_eq_ok_iff.mp both
  refine Value.entriesRecordFree_iff.mpr (List.forall_mem_append.mpr ⟨fun entry member => ?_, fun entry member => ?_⟩)
  · obtain ⟨_, inKept, rfl⟩ := List.mem_filterMap.mp member
    obtain ⟨field, isField, reads⟩ := Outcome.exists_item_of_mem (Outcome.gather_eq_ok_iff.mp read) inKept
    unfold Entry.readWith at reads
    split at reads
    · rename_i input found
      obtain ⟨w, ok, same⟩ := map_eq_ok_iff.mp reads
      cases same
      exact each field isField input (Value.isRecordFree_of_findText? free found) w (Outcome.within_eq_ok_iff.mp ok)
    · split at reads <;> cases reads
  · obtain ⟨pair, inLoose, rfl⟩ := List.mem_map.mp member
    exact free _ (ExtraPolicy.of_mem_kept extras inLoose).1

def Shape.MakesNoRecord (shape : Shape) : Prop :=
  ∀ (extra : ExtraPolicy) (limits : Limits) (value v : Value), value.isRecordFree = true →
    shape.validateIn extra limits value = .ok v → v.isRecordFree = true

theorem Shape.makesNoRecord_of_isScalar {shape : Shape} (scalar : shape.isScalar = true) : shape.MakesNoRecord :=
  fun extra limits _ _ _ accepted => Value.isRecordFree_of_isScalar
    (isScalar_of_reading scalar ((validateIn_scalar scalar extra limits).mp accepted).1)

mutual

theorem Shape.makesNoRecord : (shape : Shape) → shape.isFlat = true → shape.MakesNoRecord
  | .text, _ | .int, _ | .bool, _ | .uuid, _ | .decimal, _ | .moment, _ =>
    Shape.makesNoRecord_of_isScalar rfl
  | .float, _ => fun extra limits value v _ accepted => by
    obtain ⟨read, _⟩ := readBounded_eq_ok_iff.mp (Outcome.keeping_eq_ok_iff.mp accepted).1
    cases number : Reading.float value with
    | error problem =>
      rw [number] at read
      cases read
    | ok x =>
      rw [number] at read
      cases read
      rfl
  | .any, _ => fun extra limits value v free accepted => (Outcome.ofLimits_eq_ok_iff.mp accepted).1 ▸ free
  | .literal choices, flat => fun extra limits value v _ accepted => by
    have read := Outcome.ofReading_eq_ok_iff.mp (Outcome.keeping_eq_ok_iff.mp accepted).1
    obtain ⟨choice, chosen, rfl⟩ := map_eq_ok_iff.mp read
    exact List.all_eq_true.mp flat _ (Reading.mem_of_literal chosen)
  | .optional inner, flat => fun extra limits value v free accepted => by
    rw [Shape.validateIn] at accepted
    split at accepted
    · cases accepted
      rfl
    · exact inner.makesNoRecord flat extra limits value v free accepted
  | .list item, flat => fun extra limits value v free accepted => by
    rw [Shape.validateIn] at accepted
    split at accepted
    · rename_i items listed
      have kept := (Outcome.keeping_eq_ok_iff.mp accepted).1
      refine isRecordFree_of_readItems (fun part member w ok => ?_) kept
      -- only a record is gone through as pairs of a name and a value, and it is none here
      have partFree : part.isRecordFree = true := by
        cases value with
        | list | tuple | set =>
          cases listed
          exact Value.allRecordFree_iff.mp free part member
        | record => cases free
        | _ => cases listed
      exact item.makesNoRecord flat extra .free part w partFree ok
    · cases accepted
  | .mapping key item, flat => fun extra limits value v free accepted => by
    cases value with
    | map entries =>
      have kept := (Outcome.keeping_eq_ok_iff.mp accepted).1
      refine isRecordFree_of_readEntries (fun entry member w ok => ?_) kept
      have entryFree := Value.entriesRecordFree_iff.mp free entry member
      exact item.makesNoRecord (Bool.and_eq_true_iff.mp flat).2 extra .free entry.2 w entryFree ok
    | _ => cases accepted
  | .fixedKeys _ fields, flat => fun extra limits value v free accepted => by
    cases value with
    | map given =>
      have kept := (Outcome.keeping_eq_ok_iff.mp accepted).1
      refine isRecordFree_of_gathered (Value.entriesRecordFree_iff.mp free) (fun field member input => ?_) kept
      exact fun inputFree w ok => entriesMakeNoRecord fields flat field member extra .free input w inputFree ok
    | _ => cases accepted
termination_by structural shape => shape

theorem entriesMakeNoRecord : (fields : List (Entry Shape)) → entriesFlat fields = true →
    ∀ field ∈ fields, field.shape.MakesNoRecord
  | [], _ => List.forall_mem_nil _
  | ⟨_, shape, _⟩ :: rest, flat => by
    rw [entriesFlat, Bool.and_eq_true] at flat
    exact List.forall_mem_cons.mpr ⟨shape.makesNoRecord flat.1, entriesMakeNoRecord rest flat.2⟩
termination_by structural fields => fields

end

mutual

/-- Nothing in such a value was filled in, so there is nothing to leave out. -/
theorem Shape.dump_of_isRecordFree : (shape : Shape) → (extra : ExtraPolicy) → (v : Value) →
    v.isRecordFree = true → shape.dump true extra v = shape.dump false extra v
  | .list item, extra, v, free => by
    cases v with
    | list items =>
      refine congrArg Value.list (List.map_congr_left fun part member => ?_)
      exact item.dump_of_isRecordFree extra part (Value.allRecordFree_iff.mp free part member)
    | _ => exact Value.dump_true_eq_of_isRecordFree free
  | .optional inner, extra, v, free => inner.dump_of_isRecordFree extra v free
  | .mapping _ item, extra, v, free => by
    cases v with
    | map entries =>
      refine congrArg Value.map (List.map_congr_left fun entry member => congrArg (entry.1, ·) ?_)
      exact item.dump_of_isRecordFree extra entry.2 (Value.entriesRecordFree_iff.mp free entry member)
    | _ => exact Value.dump_true_eq_of_isRecordFree free
  | .fixedKeys _ fields, extra, v, free => by
    cases v with
    | map entries =>
      refine congrArg Value.map (List.filterMap_congr fun entry member => ?_)
      have entryFree := Value.entriesRecordFree_iff.mp free entry member
      unfold dumpKnown
      split
      · rw [dumpEntry_of_isRecordFree fields extra _ entry.2 entryFree,
          Value.dump_true_eq_of_isRecordFree entryFree]
      · rfl
    | _ => exact Value.dump_true_eq_of_isRecordFree free
  | .model _, _, v, free => by
    cases v with
    | record => cases free
    | _ => exact Value.dump_true_eq_of_isRecordFree free
  | .text, _, v, free | .int, _, v, free | .float, _, v, free | .bool, _, v, free | .uuid, _, v, free
  | .decimal, _, v, free | .moment, _, v, free | .any, _, v, free | .literal _, _, v, free =>
    Value.dump_true_eq_of_isRecordFree free
termination_by structural shape => shape

theorem dumpEntry_of_isRecordFree : (fields : List (Entry Shape)) → (extra : ExtraPolicy) → (key : Text) →
    (v : Value) → v.isRecordFree = true → dumpEntry true fields extra key v = dumpEntry false fields extra key v
  | [], _, _, _, _ => rfl
  | ⟨_, shape, _⟩ :: rest, extra, key, v, free => by
    rw [dumpEntry, dumpEntry, shape.dump_of_isRecordFree extra v free, dumpEntry_of_isRecordFree rest extra key v free]
termination_by structural fields => fields

end

def Refinement.MakesNoRecord (refinement : Refinement) : Prop :=
  ∀ v w : Value, v.isRecordFree = true → refinement v = .ok w → w.isRecordFree = true

namespace Field

variable {field : Field Shape} {entries : List (Value × Value)} {filled : Filled}

end Field

end TypedPath
