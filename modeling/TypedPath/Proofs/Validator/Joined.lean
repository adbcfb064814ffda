import TypedPath.Proofs.Validator.Own

namespace TypedPath.Validator

def IsAsDefault (given out : List (Text × Value)) : Prop :=
  ∀ pair ∈ given, pair.2.HasText ∧
    (pair.2.isNone = false → out.lookup pair.1 = some (.text (Stringify.scalarText pair.2)))

structure United (leftNames rightNames : List Text) (leftGiven rightGiven all : List (Text × Value)) : Prop where
  distinct : (all.map Prod.fst).Nodup
  left : ∀ name ∈ leftNames, all.lookup name = leftGiven.lookup name
  right : ∀ name ∈ rightNames, all.lookup name = rightGiven.lookup name
  source : ∀ pair, pair ∈ all ↔ pair ∈ leftGiven ∨ pair ∈ rightGiven

variable {left right : Validator} {names leftNames rightNames : List Text}
  {given out leftGiven rightGiven leftOut rightOut all : List (Text × Value)}

theorem united_of_perm (disjoint : leftNames.Disjoint rightNames)
    (leftWrites : left.Writes leftNames leftGiven leftOut) (rightWrites : right.Writes rightNames rightGiven rightOut)
    (perm : all.Perm (leftGiven ++ rightGiven)) :
    United leftNames rightNames leftGiven rightGiven all := by
  have apart : ((leftGiven ++ rightGiven).map Prod.fst).Nodup := by
    rw [List.map_append]
    refine List.nodup_append.mpr ⟨leftWrites.distinct, rightWrites.distinct, ?_⟩
    intro name inLeft other inRight same
    obtain ⟨pair, member, rfl⟩ := List.mem_map.mp inLeft
    obtain ⟨otherPair, otherMember, rfl⟩ := List.mem_map.mp inRight
    exact disjoint (leftWrites.own pair member) (same ▸ rightWrites.own otherPair otherMember)
  have distinct : (all.map Prod.fst).Nodup := (perm.map Prod.fst).nodup_iff.mpr apart
  refine ⟨distinct, ?_, ?_, fun pair => perm.mem_iff.trans List.mem_append⟩
  · intro name inLeft
    have absent : rightGiven.lookup name = none := by
      apply lookup_eq_none_of_not_mem
      intro member
      obtain ⟨pair, inRight, rfl⟩ := List.mem_map.mp member
      exact disjoint inLeft (rightWrites.own pair inRight)
    rw [lookup_perm perm distinct, List.lookup_append, absent, Option.or_none]
  · intro name inRight
    have absent : leftGiven.lookup name = none := by
      apply lookup_eq_none_of_not_mem
      intro member
      obtain ⟨pair, inLeft, rfl⟩ := List.mem_map.mp member
      exact disjoint (leftWrites.own pair inLeft) inRight
    rw [lookup_perm perm distinct, List.lookup_append, absent, Option.none_or]

theorem United.hasText (united : United leftNames rightNames leftGiven rightGiven all)
    (left : ∀ pair ∈ leftGiven, pair.2.HasText) (right : ∀ pair ∈ rightGiven, pair.2.HasText) :
    ∀ pair ∈ all, pair.2.HasText := by
  intro pair member
  rcases (united.source pair).mp member with inLeft | inRight
  · exact left pair inLeft
  · exact right pair inRight

theorem Writes.lookup_out_eq_none (writes : right.Writes names given out) {name : Text} (other : name ∉ names) :
    out.lookup name = none := by
  apply lookup_eq_none_of_not_mem
  intro member
  obtain ⟨pair, found, rfl⟩ := List.mem_map.mp member
  exact other (writes.out_own pair found)

theorem exists_text_of_lookup {pairs : List (Text × Value)} (distinct : (pairs.map Prod.fst).Nodup) {name : Text}
    {v : Value} (found : (Stringify.texts pairs).lookup name = some v) :
    ∃ original, pairs.lookup name = some original ∧ original.isNone = false ∧
      v = .text (Stringify.scalarText original) := by
  rw [Stringify.lookup_texts distinct, Option.bind_eq_some_iff] at found
  obtain ⟨original, held, text⟩ := found
  unfold Stringify.text? at text
  cases none : original.isNone with
  | true => simp [none] at text
  | false =>
    refine ⟨original, held, none, ?_⟩
    simpa [none, eq_comm] using text

def Coincide (left right : List (Text × Value)) : Prop :=
  ∀ name old new, left.lookup name = some old → right.lookup name = some new → old = new

theorem agree_texts_right (distinct : (all.map Prod.fst).Nodup) :
    Merge.Agree out (Stringify.texts all) ↔ Coincide out (Stringify.texts all) := by
  unfold Merge.Agree Coincide
  refine forall_congr' fun name => forall_congr' fun old => forall_congr' fun new => forall_congr' fun _ => ?_
  apply forall_congr'
  intro found
  obtain ⟨original, _, _, rfl⟩ := exists_text_of_lookup distinct found
  exact Value.same_text_right

theorem agree_texts_left (distinct : (all.map Prod.fst).Nodup) :
    Merge.Agree (Stringify.texts all) out ↔ Coincide out (Stringify.texts all) := by
  unfold Merge.Agree Coincide
  constructor
  · intro agree name old new held found
    obtain ⟨original, _, _, rfl⟩ := exists_text_of_lookup distinct found
    exact Value.same_text_left.mp (agree name _ old found held)
  · intro coincide name new old found held
    obtain ⟨original, _, _, rfl⟩ := exists_text_of_lookup distinct found
    exact Value.same_text_left.mpr (coincide name old _ held found)

theorem Writes.lookup_texts_of_isAsDefault (writes : left.Writes names given out)
    (agree : ∀ name ∈ names, all.lookup name = given.lookup name) (distinct : (all.map Prod.fst).Nodup)
    (asDefault : IsAsDefault given out) {name : Text} (own : name ∈ names) {v : Value}
    (found : (Stringify.texts all).lookup name = some v) : out.lookup name = some v := by
  obtain ⟨original, held, isSome, rfl⟩ := exists_text_of_lookup distinct found
  rw [agree name own, lookup_eq_some_iff_mem writes.distinct] at held
  exact (asDefault _ held).2 isSome

/-- The texts of all values coincide with what a side has written exactly when that is what the
    default would have written. -/
theorem Writes.coincide_texts_iff (writes : left.Writes names given out) (distinct : (all.map Prod.fst).Nodup)
    (agree : ∀ name ∈ names, all.lookup name = given.lookup name)
    (texted : ∀ pair ∈ given, pair.2.HasText) :
    Coincide out (Stringify.texts all) ↔ IsAsDefault given out := by
  constructor
  · intro coincide pair member
    refine ⟨texted pair member, fun some => ?_⟩
    obtain ⟨old, held⟩ := Option.isSome_iff_exists.mp (writes.supplied pair member some)
    have found : (Stringify.texts all).lookup pair.1 = .some (.text (Stringify.scalarText pair.2)) := by
      rw [Stringify.lookup_texts distinct, agree _ (writes.own pair member),
        (lookup_eq_some_iff_mem writes.distinct).mpr member, Option.bind_some, Stringify.text?, some]
      rfl
    rw [held, coincide _ _ _ held found]
  · intro asDefault name old new held found
    have own : name ∈ names := by
      by_contra other
      rw [writes.lookup_out_eq_none other] at held
      cases held
    rw [writes.lookup_texts_of_isAsDefault agree distinct asDefault own found] at held
    exact (Option.some.inj held).symm

theorem Writes.of_stringify (writes : Writes .stringify names given out) :
    (∀ pair ∈ given, pair.2.HasText) ∧ ∀ name, out.lookup name = (Stringify.texts given).lookup name := by
  obtain ⟨texted, same⟩ := (Stringify.run_keyed_eq_ok_iff writes.distinct).mp writes.accepted
  refine ⟨texted, fun name => ?_⟩
  rw [← Value.findText?_keyed, ← Value.findText?_keyed, Value.map.inj same]

theorem Writes.isAsDefault (writes : Writes .stringify names given out) : IsAsDefault given out := by
  obtain ⟨texted, written⟩ := writes.of_stringify
  intro pair member
  refine ⟨texted pair member, fun isSome => ?_⟩
  rw [written, Stringify.lookup_texts writes.distinct, (lookup_eq_some_iff_mem writes.distinct).mpr member,
    Option.bind_some, Stringify.text?, isSome]
  rfl

theorem Writes.lookup_texts (writes : Writes .stringify names given out)
    (agree : ∀ name ∈ names, all.lookup name = given.lookup name) (distinct : (all.map Prod.fst).Nodup)
    {name : Text} (own : name ∈ names) : (Stringify.texts all).lookup name = out.lookup name := by
  rw [writes.of_stringify.2, Stringify.lookup_texts distinct, Stringify.lookup_texts writes.distinct, agree name own]

theorem validate_stringify (distinct : (all.map Prod.fst).Nodup) (texted : ∀ pair ∈ all, pair.2.HasText) :
    Validator.stringify.validate (.map (Value.keyed all)) = .ok (.map (Value.keyed (Stringify.texts all))) :=
  (Stringify.run_keyed_eq_ok_iff distinct).mpr ⟨texted, rfl⟩

/-- The values are rejected, or there is one that is too long and stops the validation. -/
def Refuses (validator : Validator) (given : List (Text × Value)) : Prop :=
  (∃ rejection, validator.validate (.map (Value.keyed given)) = .error (.rejected rejection)) ∨
    (∃ pair ∈ given, pair.2.isWritable = false) ∧
      validator.validate (.map (Value.keyed given)) = .error (.broken .oversized)

theorem validate_stringify_of_not_hasText (distinct : (all.map Prod.fst).Nodup) (other : ¬ ∀ pair ∈ all, pair.2.HasText) :
    (∃ rejection, Validator.stringify.validate (.map (Value.keyed all)) = .error (.rejected rejection) ∧
        rejection.issues ≠ []) ∨
      (∃ pair ∈ all, pair.2.isWritable = false) ∧
        Validator.stringify.validate (.map (Value.keyed all)) = .error (.broken .oversized) := by
  rcases Stringify.entries_keyed_cases all with texted | container | ⟨single, long⟩
  · exact absurd texted other
  · refine .inl ⟨_, Stringify.run_keyed_of_container distinct container, fun none => container ?_⟩
    exact Stringify.filterMap_containerIssue?_eq_nil_iff.mp none
  · refine .inr ⟨?_, Stringify.run_keyed_of_long distinct single long⟩
    simpa using long

def IsJoint (leftNames rightNames : List Text) (leftOut rightOut merged : List (Text × Value)) : Prop :=
  (∀ name ∈ leftNames, merged.lookup name = leftOut.lookup name) ∧
    ∀ name ∈ rightNames, merged.lookup name = rightOut.lookup name

def Kept (names : List Text) (out made other : List (Text × Value)) : Prop :=
  ∀ name ∈ names, made.lookup name = out.lookup name ∧
    ∀ v, other.lookup name = some v → out.lookup name = some v

section Kept

theorem kept_stringify (writes : Writes .stringify names given out) (distinct : (all.map Prod.fst).Nodup)
    (agree : ∀ name ∈ names, all.lookup name = given.lookup name) :
    Kept names out (Stringify.texts all) (Stringify.texts all) := by
  intro name own
  have same := writes.lookup_texts agree distinct own
  exact ⟨same, fun v found => same.symm.trans found⟩

theorem kept_model (writes : left.Writes names given out) (distinct : (all.map Prod.fst).Nodup)
    (agree : ∀ name ∈ names, all.lookup name = given.lookup name) (asDefault : IsAsDefault given out) :
    Kept names out out (Stringify.texts all) :=
  fun _ own => ⟨rfl, fun _ found => writes.lookup_texts_of_isAsDefault agree distinct asDefault own found⟩

theorem kept_apart {made : List (Text × Value)} (same : ∀ name ∈ names, made.lookup name = out.lookup name)
    (other : right.Writes rightNames rightGiven rightOut) (apart : ∀ name ∈ names, name ∉ rightNames) :
    Kept names out made rightOut := by
  intro name own
  refine ⟨same name own, fun v found => ?_⟩
  rw [other.lookup_out_eq_none (apart name own)] at found
  cases found

end Kept

section Both

variable {input : Value} {leftAll rightAll : List (Text × Value)}
  (leftAccepted : left.validate input = .ok (.map (Value.keyed leftAll)))
  (rightAccepted : right.validate input = .ok (.map (Value.keyed rightAll)))
  (distinct : (rightAll.map Prod.fst).Nodup)

include leftAccepted rightAccepted distinct

theorem both_of_agree (agree : Merge.Agree leftAll rightAll) (leftKept : Kept leftNames leftOut leftAll rightAll)
    (rightKept : Kept rightNames rightOut rightAll leftAll) :
    ∃ merged, (Validator.both left right).validate input = .ok (.map (Value.keyed merged)) ∧
      IsJoint leftNames rightNames leftOut rightOut merged := by
  obtain ⟨merged, made, lookup⟩ := Merge.values_keyed_of_agree distinct agree
  refine ⟨merged, ?_, fun name own => ?_, fun name own => ?_⟩
  · rw [validate, leftAccepted, rightAccepted, combine, made]
    rfl
  · obtain ⟨same, more⟩ := leftKept name own
    rw [lookup, same]
    cases found : rightAll.lookup name with
    | none => rw [Option.none_or]
    | some v => rw [more v found, Option.some_or]
  · obtain ⟨same, more⟩ := rightKept name own
    rw [lookup, same]
    cases found : leftAll.lookup name with
    | none => rw [Option.or_none]
    | some v => rw [more v found, Option.some_or]

theorem both_of_not_agree (calm : Merge.signals (Value.keyed leftAll) (Value.keyed rightAll) = false)
    (clash : ¬ Merge.Agree leftAll rightAll) :
    ∃ rejection, (Validator.both left right).validate input = .error (.rejected rejection) := by
  obtain ⟨issues, failed⟩ := Merge.values_keyed_of_not_agree distinct calm clash
  refine ⟨⟨issues, .check⟩, ?_⟩
  rw [validate, leftAccepted, rightAccepted, combine, failed]
  rfl

end Both

/-- A side with the default does not object to what the other side writes. -/
def Fits (left right : Validator) (leftGiven leftOut rightGiven rightOut : List (Text × Value)) : Prop :=
  (right = .stringify → IsAsDefault leftGiven leftOut) ∧ (left = .stringify → IsAsDefault rightGiven rightOut)

theorem fits_of_iff (leftWrites : left.Writes leftNames leftGiven leftOut)
    (rightWrites : right.Writes rightNames rightGiven rightOut) (same : left = .stringify ↔ right = .stringify) :
    Fits left right leftGiven leftOut rightGiven rightOut := by
  constructor
  · intro default
    cases same.mpr default
    exact leftWrites.isAsDefault
  · intro default
    cases same.mp default
    exact rightWrites.isAsDefault

section Sides

variable (disjoint : leftNames.Disjoint rightNames) (united : United leftNames rightNames leftGiven rightGiven all)

include united

theorem both_stringify (leftWrites : Writes .stringify leftNames leftGiven leftOut)
    (rightWrites : Writes .stringify rightNames rightGiven rightOut) :
    ∃ merged, (Validator.both .stringify .stringify).validate (.map (Value.keyed all)) =
        .ok (.map (Value.keyed merged)) ∧ IsJoint leftNames rightNames leftOut rightOut merged := by
  have accepted := validate_stringify united.distinct
    (united.hasText leftWrites.of_stringify.1 rightWrites.of_stringify.1)
  have agree : Merge.Agree (Stringify.texts all) (Stringify.texts all) := by
    apply (agree_texts_right united.distinct).mpr
    intro name old new held found
    exact Option.some.inj (held.symm.trans found)
  exact both_of_agree accepted accepted (united.distinct.sublist Stringify.map_fst_texts) agree
    (kept_stringify leftWrites united.distinct united.left) (kept_stringify rightWrites united.distinct united.right)

theorem refuses_stringify_left (leftWrites : Writes .stringify leftNames leftGiven leftOut)
    (rightWrites : right.Writes rightNames rightGiven rightOut)
    (accepted : right.validate (.map (Value.keyed all)) = .ok (.map (Value.keyed rightOut)))
    (other : ¬ IsAsDefault rightGiven rightOut) : Refuses (.both .stringify right) all := by
  by_cases texted : ∀ pair ∈ rightGiven, pair.2.HasText
  · refine .inl (both_of_not_agree
      (validate_stringify united.distinct (united.hasText leftWrites.of_stringify.1 texted)) accepted
      rightWrites.out_distinct (Merge.signals_keyed_of_texts (.inl Stringify.isText_of_mem_texts)) ?_)
    rwa [agree_texts_left united.distinct, rightWrites.coincide_texts_iff united.distinct united.right texted]
  · rcases validate_stringify_of_not_hasText united.distinct fun all =>
      texted fun pair member => all pair ((united.source pair).mpr (.inr member)) with
      ⟨rejection, rejected, some⟩ | ⟨long, stopped⟩
    · refine .inl ⟨⟨rejection.issues, .check⟩, ?_⟩
      rw [validate, rejected, accepted, combine, Refusal.ofSides_of_ne_nil some]
    · refine .inr ⟨long, ?_⟩
      rw [validate, stopped]
      rfl

theorem refuses_stringify_right (leftWrites : left.Writes leftNames leftGiven leftOut)
    (rightWrites : Writes .stringify rightNames rightGiven rightOut)
    (accepted : left.validate (.map (Value.keyed all)) = .ok (.map (Value.keyed leftOut)))
    (other : ¬ IsAsDefault leftGiven leftOut) : Refuses (.both left .stringify) all := by
  by_cases texted : ∀ pair ∈ leftGiven, pair.2.HasText
  · refine .inl (both_of_not_agree accepted
      (validate_stringify united.distinct (united.hasText texted rightWrites.of_stringify.1))
      (united.distinct.sublist Stringify.map_fst_texts)
      (Merge.signals_keyed_of_texts (.inr Stringify.isText_of_mem_texts)) ?_)
    rwa [agree_texts_right united.distinct, leftWrites.coincide_texts_iff united.distinct united.left texted]
  · rcases validate_stringify_of_not_hasText united.distinct fun all =>
      texted fun pair member => all pair ((united.source pair).mpr (.inl member)) with
      ⟨rejection, rejected, some⟩ | ⟨long, stopped⟩
    · refine .inl ⟨⟨rejection.issues, .check⟩, ?_⟩
      rw [validate, accepted, rejected, combine, Refusal.ofSides_of_ne_nil some]
    · refine .inr ⟨long, ?_⟩
      rw [validate, accepted, stopped]
      rfl

include disjoint

theorem both_stringify_left (leftWrites : Writes .stringify leftNames leftGiven leftOut)
    (rightWrites : right.Writes rightNames rightGiven rightOut)
    (accepted : right.validate (.map (Value.keyed all)) = .ok (.map (Value.keyed rightOut)))
    (asDefault : IsAsDefault rightGiven rightOut) :
    ∃ merged, (Validator.both .stringify right).validate (.map (Value.keyed all)) =
        .ok (.map (Value.keyed merged)) ∧ IsJoint leftNames rightNames leftOut rightOut merged := by
  have rightTexted : ∀ pair ∈ rightGiven, pair.2.HasText := fun pair member => (asDefault pair member).1
  have agree : Merge.Agree (Stringify.texts all) rightOut :=
    (agree_texts_left united.distinct).mpr
      ((rightWrites.coincide_texts_iff united.distinct united.right rightTexted).mpr asDefault)
  refine both_of_agree (validate_stringify united.distinct (united.hasText leftWrites.of_stringify.1 rightTexted))
    accepted rightWrites.out_distinct agree ?_ ?_
  · exact kept_apart (fun name => leftWrites.lookup_texts united.left united.distinct) rightWrites disjoint
  · exact kept_model rightWrites united.distinct united.right asDefault

theorem both_stringify_right (leftWrites : left.Writes leftNames leftGiven leftOut)
    (rightWrites : Writes .stringify rightNames rightGiven rightOut)
    (accepted : left.validate (.map (Value.keyed all)) = .ok (.map (Value.keyed leftOut)))
    (asDefault : IsAsDefault leftGiven leftOut) :
    ∃ merged, (Validator.both left .stringify).validate (.map (Value.keyed all)) =
        .ok (.map (Value.keyed merged)) ∧ IsJoint leftNames rightNames leftOut rightOut merged := by
  have leftTexted : ∀ pair ∈ leftGiven, pair.2.HasText := fun pair member => (asDefault pair member).1
  have agree : Merge.Agree leftOut (Stringify.texts all) :=
    (agree_texts_right united.distinct).mpr
      ((leftWrites.coincide_texts_iff united.distinct united.left leftTexted).mpr asDefault)
  refine both_of_agree accepted
    (validate_stringify united.distinct (united.hasText leftTexted rightWrites.of_stringify.1))
    (united.distinct.sublist Stringify.map_fst_texts) agree ?_ ?_
  · exact kept_model leftWrites united.distinct united.left asDefault
  · exact kept_apart (fun name => rightWrites.lookup_texts united.right united.distinct) leftWrites
      fun name own other => disjoint other own

omit united

theorem both_apart (leftWrites : left.Writes leftNames leftGiven leftOut)
    (rightWrites : right.Writes rightNames rightGiven rightOut)
    (leftAccepted : left.validate (.map (Value.keyed all)) = .ok (.map (Value.keyed leftOut)))
    (rightAccepted : right.validate (.map (Value.keyed all)) = .ok (.map (Value.keyed rightOut))) :
    ∃ merged, (Validator.both left right).validate (.map (Value.keyed all)) =
        .ok (.map (Value.keyed merged)) ∧ IsJoint leftNames rightNames leftOut rightOut merged := by
  have agree : Merge.Agree leftOut rightOut := by
    intro name old new held found
    have own : name ∈ leftNames := by
      by_contra other
      rw [leftWrites.lookup_out_eq_none other] at held
      cases held
    rw [rightWrites.lookup_out_eq_none (disjoint own)] at found
    cases found
  exact both_of_agree leftAccepted rightAccepted rightWrites.out_distinct agree
    (kept_apart (fun _ _ => rfl) rightWrites disjoint)
    (kept_apart (fun _ _ => rfl) leftWrites fun name own other => disjoint other own)

include united

variable (leftNodup : leftNames.Nodup) (rightNodup : rightNames.Nodup) (leftOnly : left.WritesOnly leftNames)
  (rightOnly : right.WritesOnly rightNames) (leftWrites : left.Writes leftNames leftGiven leftOut)
  (rightWrites : right.Writes rightNames rightGiven rightOut)

include leftNodup rightNodup leftOnly rightOnly leftWrites rightWrites

/-- Both sides together write what each writes by itself, where neither side objects. -/
theorem both_of_fits (fits : Fits left right leftGiven leftOut rightGiven rightOut) :
    ∃ merged, (Validator.both left right).validate (.map (Value.keyed all)) = .ok (.map (Value.keyed merged)) ∧
      IsJoint leftNames rightNames leftOut rightOut merged := by
  have leftAlone := leftWrites.validate_of_lookup leftOnly leftNodup united.left
  have rightAlone := rightWrites.validate_of_lookup rightOnly rightNodup united.right
  cases leftOnly with
  | stringify =>
    cases rightOnly with
    | stringify => exact both_stringify united leftWrites rightWrites
    | model => exact both_stringify_left disjoint united leftWrites rightWrites (rightAlone nofun) (fits.2 rfl)
  | model =>
    cases rightOnly with
    | stringify => exact both_stringify_right disjoint united leftWrites rightWrites (leftAlone nofun) (fits.1 rfl)
    | model => exact both_apart disjoint leftWrites rightWrites (leftAlone nofun) (rightAlone nofun)

omit disjoint

/-- Together they refuse the values where one side objects. -/
theorem refuses_of_not_fits (clash : ¬ Fits left right leftGiven leftOut rightGiven rightOut) :
    Refuses (.both left right) all := by
  have leftAlone := leftWrites.validate_of_lookup leftOnly leftNodup united.left
  have rightAlone := rightWrites.validate_of_lookup rightOnly rightNodup united.right
  cases leftOnly with
  | stringify =>
    cases rightOnly with
    | stringify => exact absurd ⟨fun _ => leftWrites.isAsDefault, fun _ => rightWrites.isAsDefault⟩ clash
    | model =>
      refine refuses_stringify_left united leftWrites rightWrites (rightAlone nofun) fun asDefault => ?_
      exact clash ⟨nofun, fun _ => asDefault⟩
  | model =>
    cases rightOnly with
    | stringify =>
      refine refuses_stringify_right united leftWrites rightWrites (leftAlone nofun) fun asDefault => ?_
      exact clash ⟨fun _ => asDefault, nofun⟩
    | model => exact absurd ⟨nofun, nofun⟩ clash

end Sides

end TypedPath.Validator
