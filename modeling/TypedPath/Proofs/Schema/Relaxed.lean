import TypedPath.Proofs.Value.Sameness
import TypedPath.Schema.Relaxed
import TypedPath.Validator.Basic

namespace TypedPath

theorem forall₂_of_mapM_eq_ok {α β ε : Type} {f : α → Except ε β} {items : List α} {results : List β}
    (mapped : items.mapM f = .ok results) : List.Forall₂ (fun item result => f item = .ok result) items results := by
  induction items generalizing results with
  | nil =>
    cases mapped
    exact .nil
  | cons item items ih =>
    simp only [List.mapM_cons, bind, Except.bind] at mapped
    cases first : f item with
    | error reason =>
      rw [first] at mapped
      cases mapped
    | ok result =>
      cases rest : items.mapM f with
      | error reason =>
        rw [first, rest] at mapped
        cases mapped
      | ok later =>
        rw [first, rest] at mapped
        cases mapped
        exact .cons first (ih rest)

namespace Shape

variable {shape other : Shape} {extra : ExtraPolicy} {limits : Limits} {input v : Value}

theorem eq_none_of_validateIn (accepted : shape.validateIn extra limits .none = .ok v) : v = .none := by
  cases shape with
  | any => exact (Outcome.ofLimits_eq_ok_iff.mp accepted).1.symm
  | optional inner =>
    cases accepted
    rfl
  | literal choices =>
    have read := Outcome.ofReading_eq_ok_iff.mp (Outcome.keeping_eq_ok_iff.mp accepted).1
    obtain ⟨choice, chosen, rfl⟩ := map_eq_ok_iff.mp read
    exact Value.same_none_iff.mp (Reading.same_of_literal chosen)
  | model m =>
    cases m
    cases accepted
  | _ => cases accepted

theorem eq_optional_of_orNone (relaxed : shape.orNone = .ok other) :
    other = .optional shape ∨ other = shape ∧ ∃ inner, shape = .optional inner := by
  unfold orNone at relaxed
  split at relaxed
  · cases relaxed
  · cases relaxed
    exact .inr ⟨rfl, _, rfl⟩
  · cases relaxed
    exact .inl rfl

theorem validateIn_orNone (relaxed : shape.orNone = .ok other)
    (accepted : shape.validateIn extra limits input = .ok v) : other.validateIn extra limits input = .ok v := by
  rcases eq_optional_of_orNone relaxed with rfl | ⟨rfl, _⟩
  · rw [validateIn]
    cases input with
    | none => exact congrArg _ (eq_none_of_validateIn accepted).symm
    | _ => exact accepted
  · exact accepted

theorem dump_orNone (relaxed : shape.orNone = .ok other) (suppliedOnly : Bool) :
    other.dump suppliedOnly extra = shape.dump suppliedOnly extra := by
  rcases eq_optional_of_orNone relaxed with rfl | ⟨rfl, _⟩
  · rfl
  · rfl

end Shape

namespace Field

variable {field other : Field Shape} {extra : ExtraPolicy} {entries : List (Value × Value)} {filled : Filled}

theorem relaxed_eq_ok (relaxed : field.relaxed = .ok other) :
    ∃ shape, field.shape.orNone = .ok shape ∧
      other = { field with shape, default := some .none, inputKey := none } := by
  simp only [Field.relaxed, bind, Except.bind] at relaxed
  split at relaxed
  · cases relaxed
  · rename_i shape found
    split at relaxed
    · cases relaxed
    · cases relaxed
      exact ⟨shape, found, rfl⟩

/-- A field that is supplied under its own name is read and written the same. -/
theorem validateIn_relaxed (relaxed : field.relaxed = .ok other) (own : field.key = field.name)
    (read : field.validateIn extra entries = .ok filled) (supplied : filled.2 = true) :
    other.validateIn extra entries = .ok filled := by
  obtain ⟨shape, orNone, rfl⟩ := relaxed_eq_ok relaxed
  obtain ⟨input, found⟩ := Option.isSome_iff_exists.mp ((filled_of_validateIn read).2.symm.trans supplied)
  have key : Field.key { field with shape, default := some .none, inputKey := none } = field.key := own.symm
  unfold validateIn readWith at read ⊢
  rw [key]
  rw [found] at read ⊢
  dsimp only at read ⊢
  cases accepted : field.shape.validateIn extra field.limits input with
  | error setback =>
    rw [accepted] at read
    cases setback <;> cases read
  | ok v =>
    rw [accepted] at read
    rw [Shape.validateIn_orNone orNone accepted]
    simp only [Shape.dump_orNone orNone]
    exact read

end Field

namespace Model

variable {m n : Model Shape} {entries : List (Value × Value)} {r : Instance Value}

theorem relaxed_eq_ok (relaxed : m.relaxed = .ok n) :
    n.extra = m.extra ∧ List.Forall₂ (fun field other => Field.relaxed field = .ok other) m.fields n.fields := by
  simp only [Model.relaxed, bind, Except.bind] at relaxed
  split at relaxed
  · cases relaxed
  · rename_i fields found
    cases relaxed
    exact ⟨rfl, forall₂_of_mapM_eq_ok found⟩

theorem map_validateIn_relaxed {fields others : List (Field Shape)} {extra : ExtraPolicy} {filled : List Filled}
    (relaxed : List.Forall₂ (fun field other => Field.relaxed field = .ok other) fields others)
    (own : ∀ field ∈ fields, field.key = field.name) (read : fields.map (Field.validateIn extra entries) = filled.map .ok)
    (supplied : ∀ entry ∈ filled, entry.2 = true) : others.map (Field.validateIn extra entries) = filled.map .ok := by
  induction relaxed generalizing filled with
  | nil => exact read
  | cons first later ih =>
    cases filled with
    | nil => cases read
    | cons entry filled =>
      obtain ⟨head, tail⟩ := List.cons.inj read
      obtain ⟨ownFirst, ownLater⟩ := List.forall_mem_cons.mp own
      obtain ⟨suppliedFirst, suppliedLater⟩ := List.forall_mem_cons.mp supplied
      rw [List.map_cons, List.map_cons, Field.validateIn_relaxed first ownFirst head suppliedFirst,
        ih ownLater tail suppliedLater]

theorem reads_relaxed {fields others : List (Field Shape)} (key : Text)
    (relaxed : List.Forall₂ (fun field other => Field.relaxed field = .ok other) fields others)
    (own : ∀ field ∈ fields, field.key = field.name) :
    (others.any fun field => field.key = key) = fields.any fun field => field.key = key := by
  induction relaxed with
  | nil => rfl
  | cons first later ih =>
    obtain ⟨ownFirst, ownLater⟩ := List.forall_mem_cons.mp own
    obtain ⟨shape, _, rfl⟩ := Field.relaxed_eq_ok first
    rw [List.any_cons, List.any_cons, ih ownLater, ownFirst]
    rfl

theorem extras_relaxed (relaxed : m.relaxed = .ok n) (own : ∀ field ∈ m.fields, field.key = field.name) :
    n.extras entries = m.extras entries := by
  obtain ⟨extra, fields⟩ := relaxed_eq_ok relaxed
  have reads : n.reads = m.reads := funext fun key => reads_relaxed key fields own
  unfold Model.extras
  rw [extra, reads]

theorem isSupplied_of_validateIn {filled : List Filled} {fields : List (Field Shape)} {extra : ExtraPolicy}
    (read : fields.map (Field.validateIn extra entries) = filled.map .ok)
    (given : ∀ field ∈ fields, (Value.findText? field.key entries).isSome) : ∀ entry ∈ filled, entry.2 = true := by
  intro entry member
  obtain ⟨field, isField, found⟩ := Outcome.exists_item_of_mem read member
  exact (Field.filled_of_validateIn found).2.trans (given field isField)

/-- A mapping that supplies every field under its own name makes the same record in all but its class, and
    everything in it counts as supplied. -/
theorem validate_relaxed (relaxed : m.relaxed = .ok n) (own : ∀ field ∈ m.fields, field.key = field.name)
    (given : ∀ field ∈ m.fields, (Value.findText? field.key entries).isSome)
    (accepted : m.validate (.map entries) = .ok r) :
    n.validate (.map entries) = .ok { r with name := n.name, marks := n.marks } ∧
      (∀ slot ∈ r.slots, r.supplied.contains slot.name = true) ∧
      ∀ field ∈ m.fields, ∃ slot ∈ r.slots, slot.name = field.name := by
  obtain ⟨extra, fields⟩ := relaxed_eq_ok relaxed
  obtain ⟨filled, extras, read, loose, rfl⟩ := validate_map_eq_ok_iff.mp accepted
  have supplied := isSupplied_of_validateIn read given
  refine ⟨validate_map_eq_ok_iff.mpr ⟨filled, extras, ?_, ?_, rfl⟩, fun slot member => ?_, fun field member => ?_⟩
  · rw [extra]
    exact map_validateIn_relaxed fields own read supplied
  · rw [extras_relaxed relaxed own, loose]
  · rw [List.contains_iff_mem]
    simp only [build, List.mem_eraseDups, List.mem_append] at member ⊢
    refine member.imp (fun inFields => ?_) fun loose => List.mem_map_of_mem loose
    obtain ⟨entry, isEntry, rfl⟩ := List.mem_map.mp inFields
    exact List.mem_map.mpr ⟨entry, List.mem_filter.mpr ⟨isEntry, supplied entry isEntry⟩, rfl⟩
  · have names := names_of_validateIn read
    have named : field.name ∈ filled.map (·.1.name) := names ▸ List.mem_map_of_mem member
    obtain ⟨entry, isEntry, same⟩ := List.mem_map.mp named
    exact ⟨entry.1, List.mem_append_left _ (List.mem_map_of_mem isEntry), same⟩

theorem map_name_relaxed {fields others : List (Field Shape)}
    (relaxed : List.Forall₂ (fun field other => Field.relaxed field = .ok other) fields others) :
    others.map Field.name = fields.map Field.name := by
  induction relaxed with
  | nil => rfl
  | cons first later ih =>
    obtain ⟨shape, _, rfl⟩ := Field.relaxed_eq_ok first
    rw [List.map_cons, List.map_cons, ih]

theorem exists_of_mem_relaxed {fields others : List (Field Shape)}
    (relaxed : List.Forall₂ (fun field other => Field.relaxed field = .ok other) fields others) {other : Field Shape}
    (member : other ∈ others) : ∃ field ∈ fields, field.relaxed = .ok other := by
  induction relaxed with
  | nil => cases member
  | cons first later ih =>
    rcases List.mem_cons.mp member with rfl | inLater
    · exact ⟨_, List.mem_cons_self, first⟩
    · obtain ⟨field, isField, relaxes⟩ := ih inLater
      exact ⟨field, List.mem_cons_of_mem _ isField, relaxes⟩

end Model

namespace Instance

variable {r : Instance Value} {name : Text} {write other : Slot Value → Value}

def writtenBy (write : Slot Value → Value) (r : Instance Value) : List (Value × Value) :=
  r.slots.foldl (fun built slot => Value.put (.text slot.name) (write slot) built) []

theorem dumpWith_of_supplied {write? : Slot Value → Option Value}
    (supplied : ∀ slot ∈ r.slots, r.supplied.contains slot.name = true)
    (writes : ∀ slot ∈ r.slots, write? slot = some (write slot)) (suppliedOnly : Bool) :
    r.dumpWith suppliedOnly write? = .map (r.writtenBy write) := by
  unfold dumpWith writtenBy
  dsimp only
  refine congrArg Value.map (List.foldl_ext _ _ _ fun built slot member => ?_)
  rw [supplied slot member, writes slot member, Bool.not_true, Bool.and_false, if_neg Bool.false_ne_true]

theorem fields_of_supplied (supplied : ∀ slot ∈ r.slots, r.supplied.contains slot.name = true) (suppliedOnly : Bool) :
    r.fields suppliedOnly = .map (r.writtenBy (Slot.dump suppliedOnly)) := by
  cases suppliedOnly with
  | true => exact dumpWith_of_supplied supplied (fun _ _ => rfl) true
  | false =>
    refine dumpWith_of_supplied supplied (fun slot member => ?_) false
    rw [supplied slot member, Bool.true_or, if_pos rfl]
    rfl

theorem findText?_foldl_put {slots : List (Slot Value)} {built others : List (Value × Value)}
    (same : ∀ slot ∈ slots, slot.name = name → write slot = other slot)
    (start : Value.findText? name built = Value.findText? name others) :
    Value.findText? name (slots.foldl (fun built slot => Value.put (.text slot.name) (write slot) built) built) =
      Value.findText? name
        (slots.foldl (fun built slot => Value.put (.text slot.name) (other slot) built) others) := by
  induction slots generalizing built others with
  | nil => exact start
  | cons slot slots ih =>
    obtain ⟨first, later⟩ := List.forall_mem_cons.mp same
    refine ih later ?_
    rw [Value.findText?_put, Value.findText?_put, start]
    split
    · rename_i named
      rw [first named]
    · rfl

theorem findText?_writtenBy_congr (same : ∀ slot ∈ r.slots, slot.name = name → write slot = other slot) :
    Value.findText? name (r.writtenBy write) = Value.findText? name (r.writtenBy other) :=
  findText?_foldl_put same rfl

theorem exists_findText?_foldl_put {P : Value → Prop} {slots : List (Slot Value)} {built : List (Value × Value)}
    (each : ∀ slot ∈ slots, slot.name = name → P (write slot))
    (held : (∃ v, Value.findText? name built = some v ∧ P v) ∨ ∃ slot ∈ slots, slot.name = name) :
    ∃ v, Value.findText? name
      (slots.foldl (fun built slot => Value.put (.text slot.name) (write slot) built) built) = some v ∧ P v := by
  induction slots generalizing built with
  | nil =>
    refine held.resolve_right ?_
    rintro ⟨_, member, _⟩
    cases member
  | cons slot slots ih =>
    obtain ⟨first, later⟩ := List.forall_mem_cons.mp each
    apply ih later
    rw [Value.findText?_put]
    by_cases named : slot.name = name
    · rw [if_pos named]
      exact .inl ⟨write slot, rfl, first named⟩
    · rw [if_neg named]
      refine held.imp_right fun ⟨other, member, same⟩ => ?_
      rcases List.mem_cons.mp member with rfl | later
      · exact absurd same named
      · exact ⟨other, later, same⟩

theorem exists_findText?_writtenBy {P : Value → Prop} (each : ∀ slot ∈ r.slots, slot.name = name → P (write slot))
    (held : ∃ slot ∈ r.slots, slot.name = name) : ∃ v, Value.findText? name (r.writtenBy write) = some v ∧ P v :=
  exists_findText?_foldl_put each (.inr held)

theorem isSome_findText?_writtenBy (held : ∃ slot ∈ r.slots, slot.name = name) :
    (Value.findText? name (r.writtenBy write)).isSome := by
  obtain ⟨v, found, _⟩ := exists_findText?_writtenBy (P := fun _ => True) (fun _ _ _ => True.intro) held
  rw [found]
  rfl

end Instance

theorem Validator.relaxed_model_eq_ok {m : Model Shape} {suppliedOnly : Bool} {relaxed : Validator}
    (relaxes : (Validator.model m suppliedOnly).relaxed = .ok relaxed) :
    ∃ n, m.relaxed = .ok n ∧ relaxed = .model n true := by
  unfold Validator.relaxed at relaxes
  split at relaxes
  · rename_i n found
    exact ⟨n, found, (Except.ok.inj relaxes).symm⟩
  · cases relaxes

end TypedPath
