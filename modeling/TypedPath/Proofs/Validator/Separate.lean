import TypedPath.Proofs.Schema.Telling
import TypedPath.Proofs.Validator.Own

namespace TypedPath

namespace Verdict

inductive Alike : Verdict → Verdict → Prop
  | accepted (value : Value) : Alike (.ok value) (.ok value)
  | rejected {left right : Rejection} (told : left.issues ≠ [])
    (same : left.issues.map Issue.withoutInput = right.issues.map Issue.withoutInput) :
    Alike (.error (.rejected left)) (.error (.rejected right))
  | broken (breakdown : Breakdown) : Alike (.error (.broken breakdown)) (.error (.broken breakdown))

/-- What two validators make of their parts of a mapping, and what both together make of the whole. -/
inductive Joins : Verdict → Verdict → Verdict → Prop
  | united {left right : List (Text × Value)} (nodup : ((left ++ right).map Prod.fst).Nodup) :
    Joins (.ok (.map (Value.keyed left))) (.ok (.map (Value.keyed right))) (.ok (.map (Value.keyed (left ++ right))))
  | left {first whole : Rejection} (value : Value)
    (same : whole.issues.map Issue.withoutInput = first.issues.map Issue.withoutInput) :
    Joins (.error (.rejected first)) (.ok value) (.error (.rejected whole))
  | right {second whole : Rejection} (value : Value)
    (same : whole.issues.map Issue.withoutInput = second.issues.map Issue.withoutInput) :
    Joins (.ok value) (.error (.rejected second)) (.error (.rejected whole))
  | both {first second whole : Rejection}
    (same : whole.issues.map Issue.withoutInput = (first.issues ++ second.issues).map Issue.withoutInput) :
    Joins (.error (.rejected first)) (.error (.rejected second)) (.error (.rejected whole))
  | broken (breakdown : Breakdown) (second : Verdict) :
    Joins (.error (.broken breakdown)) second (.error (.broken breakdown))
  | brokenLater {first : Verdict} (told : ∀ breakdown, first ≠ .error (.broken breakdown)) (breakdown : Breakdown) :
    Joins first (.error (.broken breakdown)) (.error (.broken breakdown))

variable {left right first second : Verdict}

theorem Joins.of_alike (alike : Alike left first) (later : Alike right second)
    (apart : ∀ v w, first = .ok v → second = .ok w → ∃ a b : List (Text × Value), v = .map (Value.keyed a) ∧
      w = .map (Value.keyed b) ∧ ((a ++ b).map Prod.fst).Nodup) :
    Joins first second (Validator.combine left right) := by
  cases alike with
  | broken breakdown => exact .broken breakdown second
  | accepted v =>
    cases later with
    | broken breakdown =>
      refine .brokenLater (fun other same => ?_) breakdown
      cases same
    | accepted w =>
      obtain ⟨a, b, rfl, rfl, nodup⟩ := apart v w rfl rfl
      rw [Validator.combine, Merge.values_keyed_of_nodup nodup]
      exact .united nodup
    | rejected told same =>
      rw [Validator.combine, Refusal.ofSides_of_ne_nil told]
      exact .right v same
  | rejected told same =>
    cases later with
    | broken breakdown =>
      refine .brokenLater (fun other same => ?_) breakdown
      cases same
    | accepted w =>
      rw [Validator.combine, Refusal.ofSides_of_ne_nil told]
      exact .left w same
    | rejected more alsoSame =>
      rw [Validator.combine, Refusal.ofSides_of_ne_nil (List.append_ne_nil_of_left_ne_nil told _)]
      refine .both ?_
      rw [List.map_append, List.map_append, same, alsoSame]

end Verdict

namespace Model

structure ReadsOnly (m : Model Shape) (names : List Text) : Prop extends m.IsUnaliased where
  ignores : m.extra = .ignore
  own : ∀ field ∈ m.fields, field.name ∈ names

variable {m n : Model Shape} {names otherNames : List Text} {entries others all : List (Value × Value)}

theorem ReadsOnly.alike_run (only : m.ReadsOnly names)
    (agree : ∀ name ∈ names, Value.findText? name all = Value.findText? name entries) (suppliedOnly : Bool) :
    Verdict.Alike (m.run suppliedOnly (.map all)) (m.run suppliedOnly (.map entries)) := by
  have alike : Outcome.Alike (m.validate (.map all)) (m.validate (.map entries)) := by
    refine alike_validate only.ignores fun field member => ?_
    rw [only.key_eq member]
    exact agree field.name (only.own field member)
  have told := m.isTold_validate (.map all)
  show Verdict.Alike ((Refusal.ofSchema (m.validate (.map all))).map _)
    ((Refusal.ofSchema (m.validate (.map entries))).map _)
  generalize m.validate (.map all) = outcome at alike told
  generalize m.validate (.map entries) = own at alike
  cases alike with
  | ok r => exact .accepted _
  | issues same => exact .rejected (fun none => told (congrArg _ (congrArg _ none))) same
  | breakdown breakdown => exact .broken breakdown

/-- Each model makes of the whole mapping what it makes of its own part. -/
theorem ReadsOnly.joins (only : m.ReadsOnly names) (otherOnly : n.ReadsOnly otherNames)
    (disjoint : names.Disjoint otherNames)
    (agree : ∀ name ∈ names, Value.findText? name all = Value.findText? name entries)
    (otherAgree : ∀ name ∈ otherNames, Value.findText? name all = Value.findText? name others) :
    Verdict.Joins (m.run false (.map entries)) (n.run false (.map others))
      ((Validator.both (.model m false) (.model n false)).validate (.map all)) := by
  refine .of_alike (only.alike_run agree false) (otherOnly.alike_run otherAgree false) fun v w first second => ?_
  obtain ⟨left, rfl, leftNodup, leftOwn, _⟩ := exists_keyed_of_run only.toIsUnaliased only.ignores first
  obtain ⟨right, rfl, rightNodup, rightOwn, _⟩ := exists_keyed_of_run otherOnly.toIsUnaliased otherOnly.ignores second
  refine ⟨left, right, rfl, rfl, ?_⟩
  rw [List.map_append]
  refine leftNodup.append rightNodup ?_
  intro name inLeft inRight
  obtain ⟨pair, member, rfl⟩ := List.mem_map.mp inLeft
  obtain ⟨other, otherMember, same⟩ := List.mem_map.mp inRight
  obtain ⟨field, isField, named⟩ := List.mem_map.mp (leftOwn pair member)
  obtain ⟨otherField, isOther, otherNamed⟩ := List.mem_map.mp (rightOwn other otherMember)
  have here : pair.1 ∈ names := named ▸ only.own field isField
  have there : pair.1 ∈ otherNames := same ▸ otherNamed ▸ otherOnly.own otherField isOther
  exact disjoint here there

end Model

end TypedPath
