import TypedPath.Proofs.Schema.Locality
import TypedPath.Proofs.Schema.Plain
import TypedPath.Proofs.Validator.Merge
import TypedPath.Proofs.Validator.Stringify

namespace TypedPath

namespace Model

variable {m : Model Shape} {entries others : List (Value × Value)} {suppliedOnly : Bool}

structure IsUnaliased (m : Model Shape) : Prop where
  inputKey : ∀ field ∈ m.fields, field.inputKey = none
  nodup : (m.fields.map Field.name).Nodup

theorem IsUnaliased.key_eq (unaliased : m.IsUnaliased) {field : Field Shape} (member : field ∈ m.fields) :
    field.key = field.name := by
  rw [Field.key, unaliased.inputKey field member, Option.getD_none]

/-- A model that passes over extra keys sees only what stands under the names of its fields. -/
theorem run_congr (unaliased : m.IsUnaliased) (ignores : m.extra = .ignore)
    (agree : ∀ name ∈ m.fields.map Field.name, Value.findText? name entries = Value.findText? name others)
    {v : Value} (accepted : m.run suppliedOnly (.map entries) = .ok v) :
    m.run suppliedOnly (.map others) = .ok v := by
  obtain ⟨r, validates, rfl⟩ := run_eq_ok_iff.mp accepted
  have alike : Outcome.Alike (m.validate (.map entries)) (m.validate (.map others)) := by
    refine alike_validate ignores fun field member => ?_
    rw [unaliased.key_eq member]
    exact agree field.name (List.mem_map_of_mem member)
  rw [validates] at alike
  exact run_eq_ok_iff.mpr ⟨r, alike.eq_ok, rfl⟩

theorem fields_eq_keyed (suppliedOnly : Bool) {r : Instance Value} (nodup : (r.slots.map Slot.name).Nodup) :
    ∃ write : Slot Value → Option Value,
      (∀ slot, r.supplied.contains slot.name = true → (write slot).isSome) ∧
      r.fields suppliedOnly = .map (Value.keyed (r.slots.filterMap (r.writtenAs suppliedOnly write))) := by
  cases suppliedOnly with
  | true =>
    refine ⟨fun slot => some (slot.dump true), fun _ _ => rfl, ?_⟩
    exact Instance.dumpWith_eq nodup true fun slot => some (slot.dump true)
  | false =>
    refine ⟨fun slot => if r.supplied.contains slot.name || !slot.value.isNone then some slot.written else none, ?_, ?_⟩
    · intro slot supplied
      simp only [supplied, Bool.true_or, ite_true, Option.isSome_some]
    · exact Instance.dumpWith_eq nodup false _

theorem exists_supplied (unaliased : m.IsUnaliased) {filled : List Filled}
    (read : m.fields.map (Field.validateIn m.extra entries) = filled.map .ok) {field : Field Shape}
    (member : field ∈ m.fields) (given : (Value.findText? field.name entries).isSome) :
    ∃ entry ∈ filled, entry.1.name = field.name ∧
      (m.build filled []).supplied.contains entry.1.name = true := by
  obtain ⟨input, found⟩ := Option.isSome_iff_exists.mp given
  rw [← unaliased.key_eq member] at found
  obtain ⟨entry, inFilled, ok⟩ := Outcome.exists_result_of_mem read member
  obtain ⟨named, flag⟩ := Field.filled_of_validateIn ok
  have distinct : (filled.map (·.1.name)).Nodup := names_of_validateIn read ▸ unaliased.nodup
  refine ⟨entry, inFilled, named, ?_⟩
  rw [contains_supplied distinct inFilled, flag, found]
  rfl

theorem exists_keyed_of_run (unaliased : m.IsUnaliased) (ignores : m.extra = .ignore) {v : Value}
    (accepted : m.run suppliedOnly (.map entries) = .ok v) :
    ∃ out, v = .map (Value.keyed out) ∧ (out.map Prod.fst).Nodup ∧
      (∀ pair ∈ out, pair.1 ∈ m.fields.map Field.name) ∧
      ∀ name ∈ m.fields.map Field.name, (Value.findText? name entries).isSome → (out.lookup name).isSome := by
  obtain ⟨r, validates, rfl⟩ := run_eq_ok_iff.mp accepted
  obtain ⟨filled, extras, read, loose, rfl⟩ := validate_map_eq_ok_iff.mp validates
  cases (extras_ignore ignores entries).symm.trans loose
  have names := names_of_validateIn read
  have slots : (m.build filled []).slots.map Slot.name = m.fields.map Field.name := by
    rw [← names]
    simp only [build, List.append_nil, List.map_map]
    rfl
  have nodup : ((m.build filled []).slots.map Slot.name).Nodup := slots ▸ unaliased.nodup
  obtain ⟨write, supplied, written⟩ := fields_eq_keyed suppliedOnly nodup
  have sublist := Instance.map_fst_writtenAs suppliedOnly write (m.build filled []) (m.build filled []).slots
  refine ⟨_, written, nodup.sublist sublist, ?_, ?_⟩
  · intro pair member
    rw [← slots]
    exact sublist.subset (List.mem_map_of_mem member)
  · intro name isName given
    obtain ⟨field, member, rfl⟩ := List.mem_map.mp isName
    obtain ⟨entry, inFilled, named, contains⟩ := exists_supplied unaliased read member given
    obtain ⟨value, writes⟩ := Option.isSome_iff_exists.mp (supplied entry.1 contains)
    refine List.lookup_isSome_iff.mpr ⟨(entry.1.name, value), List.mem_filterMap.mpr ⟨entry.1, ?_, ?_⟩, ?_⟩
    · simp only [build, List.append_nil]
      exact List.mem_map_of_mem inFilled
    · simp only [Instance.writtenAs, contains, Bool.not_true, Bool.and_false, Bool.false_eq_true, ite_false, writes,
        Option.map_some]
    · rw [named]
      exact beq_self_eq_true field.name

end Model

namespace Validator

/-- The default format schema, or a model of the named parameters that passes over all others. -/
inductive WritesOnly (names : List Text) : Validator → Prop
  | stringify : WritesOnly names .stringify
  | model {m : Model Shape} {suppliedOnly : Bool} (unaliased : ∀ field ∈ m.fields, field.inputKey = none)
      (ignores : m.extra = .ignore) (fields : (m.fields.map Field.name).Perm names) :
      WritesOnly names (.model m suppliedOnly)

/-- What a format schema of the named parameters makes of values for them. -/
structure Writes (validator : Validator) (names : List Text) (given out : List (Text × Value)) : Prop where
  distinct : (given.map Prod.fst).Nodup
  own : ∀ pair ∈ given, pair.1 ∈ names
  accepted : validator.validate (.map (Value.keyed given)) = .ok (.map (Value.keyed out))
  out_distinct : (out.map Prod.fst).Nodup
  out_own : ∀ pair ∈ out, pair.1 ∈ names
  supplied : ∀ pair ∈ given, pair.2.isNone = false → (out.lookup pair.1).isSome

variable {validator : Validator} {names : List Text} {given out all : List (Text × Value)}

theorem stringify_writes (distinct : (given.map Prod.fst).Nodup) (own : ∀ pair ∈ given, pair.1 ∈ names)
    (texted : ∀ pair ∈ given, pair.2.HasText) :
    Writes .stringify names given (Stringify.texts given) where
  distinct := distinct
  own := own
  accepted := (Stringify.run_keyed_eq_ok_iff distinct).mpr ⟨texted, rfl⟩
  out_distinct := distinct.sublist Stringify.map_fst_texts
  out_own := fun pair member => by
    obtain ⟨original, inGiven, same⟩ :=
      List.mem_map.mp (Stringify.map_fst_texts.subset (List.mem_map_of_mem member))
    rw [← same]
    exact own original inGiven
  supplied := fun pair member some => by
    rw [Stringify.lookup_texts distinct, (lookup_eq_some_iff_mem distinct).mpr member, Option.bind_some,
      Stringify.text?, some]
    rfl

theorem WritesOnly.exists_writes (writes : validator.WritesOnly names) (nodup : names.Nodup)
    (distinct : (given.map Prod.fst).Nodup) (own : ∀ pair ∈ given, pair.1 ∈ names) {v : Value}
    (accepted : validator.validate (.map (Value.keyed given)) = .ok v) :
    ∃ out, v = .map (Value.keyed out) ∧ validator.Writes names given out := by
  cases writes with
  | stringify =>
    obtain ⟨texted, rfl⟩ := (Stringify.run_keyed_eq_ok_iff distinct).mp accepted
    exact ⟨_, rfl, stringify_writes distinct own texted⟩
  | model unaliased ignores fields =>
    have plain : Model.IsUnaliased _ := ⟨unaliased, fields.nodup_iff.mpr nodup⟩
    obtain ⟨out, rfl, outDistinct, outOwn, supplied⟩ := Model.exists_keyed_of_run plain ignores accepted
    refine ⟨out, rfl, distinct, own, accepted, outDistinct, fun pair member => fields.subset (outOwn pair member), ?_⟩
    intro pair member _
    apply supplied _ (fields.symm.subset (own pair member))
    rw [Value.findText?_keyed, (lookup_eq_some_iff_mem distinct).mpr member]
    rfl

theorem Writes.validate_of_lookup (written : validator.Writes names given out) (writes : validator.WritesOnly names)
    (nodup : names.Nodup) (agree : ∀ name ∈ names, all.lookup name = given.lookup name)
    (notDefault : validator ≠ .stringify) :
    validator.validate (.map (Value.keyed all)) = .ok (.map (Value.keyed out)) := by
  cases writes with
  | stringify => exact absurd rfl notDefault
  | model unaliased ignores fields =>
    refine Model.run_congr ⟨unaliased, fields.nodup_iff.mpr nodup⟩ ignores ?_ written.accepted
    intro name isName
    rw [Value.findText?_keyed, Value.findText?_keyed, agree name (fields.subset isName)]

end Validator

end TypedPath
