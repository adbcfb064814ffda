import TypedPath.Schema.Validation

namespace TypedPath

namespace Outcome

variable {α β : Type}

def IsTold (outcome : Outcome α) : Prop := outcome ≠ .error (.issues [])

theorem isTold_ok (a : α) : IsTold (.ok a) := nofun

theorem isTold_fail (problem : Problem) (input : Value) : (fail problem input : Outcome α).IsTold := nofun

theorem isTold_broken (breakdown : Breakdown) : (broken breakdown : Outcome α).IsTold := nofun

theorem IsTold.map {outcome : Outcome α} (told : outcome.IsTold) (f : α → β) : IsTold (Except.map f outcome) := by
  rcases outcome with setback | a
  · intro silent
    cases silent
    exact told rfl
  · exact isTold_ok _

theorem IsTold.bind {outcome : Outcome α} (told : outcome.IsTold) {next : α → Outcome β}
    (later : ∀ a, (next a).IsTold) : IsTold (Except.bind outcome next) := by
  rcases outcome with setback | a
  · intro silent
    cases silent
    exact told rfl
  · exact later a

theorem IsTold.within {outcome : Outcome α} (told : outcome.IsTold) (step : Value) :
    (Outcome.within step outcome).IsTold := by
  rcases outcome with (issues | breakdown) | a
  · intro silent
    cases issues with
    | nil => exact told rfl
    | cons issue issues => cases silent
  · exact nofun
  · exact nofun

theorem IsTold.both {left : Outcome α} {right : Outcome β} (first : left.IsTold) (second : right.IsTold) :
    (Outcome.both left right).IsTold := by
  rcases left with (issues | breakdown) | a
  · have some : issues ≠ [] := fun none => first (none ▸ rfl)
    rcases right with (more | breakdown) | b
    · intro silent
      injection silent with silent
      injection silent with none
      exact some (List.append_eq_nil_iff.mp none).1
    · exact nofun
    · intro silent
      injection silent with silent
      injection silent with none
      exact some none
  · exact nofun
  · rcases right with setback | b
    · intro silent
      have same : (Outcome.both (.ok a) (.error setback) : Outcome (α × β)) = .error setback := rfl
      rw [same] at silent
      cases silent
      exact second rfl
    · exact nofun

theorem isTold_gather {outcomes : List (Outcome α)} (all : ∀ outcome ∈ outcomes, outcome.IsTold) :
    (gather outcomes).IsTold := by
  induction outcomes with
  | nil => exact isTold_ok _
  | cons outcome rest ih =>
    obtain ⟨first, later⟩ := List.forall_mem_cons.mp all
    exact (first.both (ih later)).map _

theorem isTold_ofReading (wrap : α → β) (input : Value) (reading : Except Problem α) :
    (ofReading wrap input reading).IsTold := by
  cases reading with
  | error problem => exact isTold_fail problem input
  | ok a => exact isTold_ok _

theorem isTold_ofLimits (limits : List Limit) (input value : Value) : (ofLimits limits input value).IsTold := by
  unfold ofLimits
  split
  · exact isTold_ok _
  · exact isTold_fail _ _
  · exact isTold_broken _

theorem IsTold.keeping {outcome : Outcome Value} (told : outcome.IsTold) (limits : List Limit) (input : Value) :
    (Outcome.keeping limits input outcome).IsTold :=
  told.bind fun value => isTold_ofLimits limits input value

end Outcome

open Outcome

theorem isTold_readText (limits : Limits) (value : Value) : (readText limits value).IsTold := by
  unfold readText
  dsimp only
  split
  · exact isTold_fail _ _
  · split
    · exact isTold_fail _ _
    · exact isTold_ofLimits _ _ _

theorem isTold_readBounded (limits : Limits) (value : Value) (reading : Except Problem Value) :
    (readBounded limits value reading).IsTold := by
  unfold readBounded
  split
  · exact isTold_fail _ _
  · split
    · exact isTold_fail _ _
    · exact isTold_ok _

theorem isTold_readMoment (limits : Limits) (value : Value) : (readMoment limits value).IsTold := by
  refine (isTold_readBounded limits value _).bind fun read => ?_
  split
  · exact isTold_ofReading _ _ _
  · exact isTold_ok _

theorem isTold_readItems {validate : Value → Outcome Value} (told : ∀ value, (validate value).IsTold)
    (ofAnything : Bool) (limits : Limits) (value : Value) (items : List Value) :
    (readItems validate ofAnything limits value items).IsTold := by
  have read (items : List Value) : (validateItems validate items).IsTold := by
    apply isTold_gather
    intro outcome member
    obtain ⟨entry, _, rfl⟩ := List.mem_map.mp member
    exact (told entry.1).within _
  unfold readItems
  dsimp only
  split
  · exact isTold_broken _
  · exact isTold_fail _ _
  · rename_i setback _ failed _
    exact fun silent => read _ (by cases silent; exact failed)
  · split
    · exact isTold_fail _ _
    · exact isTold_ok _

theorem isTold_putEntries (limits : Limits) (whole : Value) (built : List (Value × Value)) (found : List Issue)
    (outcomes : List (Outcome (Value × Value))) : (putEntries limits whole built found outcomes).IsTold := by
  fun_induction putEntries limits whole built found outcomes with
  | case1 => exact isTold_ok _
  | case2 _ _ some => exact fun silent => some (by cases silent; rfl)
  | case3 => exact isTold_broken _
  | case4 => assumption
  | case5 => exact isTold_broken _
  | case6 => exact isTold_fail _ _
  | case7 => assumption

theorem isTold_readEntries (key value : Value → Outcome Value) (limits : Limits) (whole : Value)
    (entries : List (Value × Value)) : (readEntries key value limits whole entries).IsTold := by
  refine (isTold_putEntries _ _ _ _ _).bind fun built => ?_
  split
  · exact isTold_fail _ _
  · exact isTold_ok _

theorem Refinement.isTold_apply (refinement : Refinement) (input value : Value) :
    (refinement.apply input value).IsTold := by
  unfold apply
  rcases refinement value with (wording | wording | breakdown) | v
  · exact isTold_fail (.refused wording) input
  · exact isTold_fail (.unmet wording) input
  · exact isTold_broken breakdown
  · exact isTold_ok v

theorem Field.isTold_readWith {σ : Type} (field : Field σ) {validate : Value → Outcome Value}
    (told : ∀ value, (validate value).IsTold) (dump : Bool → Value → Value) (entries : List (Value × Value)) :
    (field.readWith validate dump entries).IsTold := by
  unfold readWith
  split
  · rename_i input _
    refine (((told input).bind fun value => ?_).within _).map _
    unfold finish
    split
    · exact Refinement.isTold_apply _ _ _
    · exact isTold_ok _
  · split
    · exact isTold_ok _
    · exact (isTold_fail _ _).within _

theorem Entry.isTold_readWith {σ : Type} (entry : Entry σ) {validate : Value → Outcome Value}
    (told : ∀ value, (validate value).IsTold) (entries : List (Value × Value)) :
    (entry.readWith validate entries).IsTold := by
  unfold readWith
  split
  · exact ((told _).within _).map _
  · split
    · exact (isTold_fail _ _).within _
    · exact isTold_ok _

theorem ExtraPolicy.isTold_kept (policy : ExtraPolicy) (reads : Text → Bool) (entries : List (Value × Value)) :
    (policy.kept reads entries).IsTold := by
  refine (isTold_gather fun outcome member => ?_).map _
  obtain ⟨entry, _, rfl⟩ := List.mem_map.mp member
  unfold keep
  split
  · exact isTold_ok _
  · split
    · exact isTold_ok _
    · split
      · exact (isTold_fail _ _).within _
      · exact isTold_ok _
  · exact (isTold_fail _ _).within _

theorem Model.isTold_readWith {σ : Type} (m : Model σ) {fields : List (Value × Value) → List (Outcome Filled)}
    (told : ∀ entries, ∀ outcome ∈ fields entries, outcome.IsTold) (value : Value) : (m.readWith fields value).IsTold := by
  unfold readWith
  split
  · split
    · exact isTold_ok _
    · exact isTold_fail _ _
  · exact ((isTold_gather (told _)).both ((m.extra.isTold_kept m.reads _).map _)).map _
  · exact isTold_fail _ _

mutual

theorem Shape.isTold_validateIn : (shape : Shape) → (extra : ExtraPolicy) → (limits : Limits) → (value : Value) →
    (shape.validateIn extra limits value).IsTold
  | .text, _, limits, value => isTold_readText limits value
  | .int, _, limits, value | .float, _, limits, value | .decimal, _, limits, value =>
    (isTold_readBounded limits value _).keeping _ _
  | .moment, _, limits, value => (isTold_readMoment limits value).keeping _ _
  | .bool, _, limits, value | .uuid, _, limits, value | .literal _, _, limits, value =>
    (isTold_ofReading _ value _).keeping _ _
  | .any, _, limits, value => isTold_ofLimits _ _ _
  | .optional inner, extra, limits, value => by
    rw [Shape.validateIn]
    split
    · exact isTold_ok _
    · exact inner.isTold_validateIn extra limits value
  | .list item, extra, limits, value => by
    rw [Shape.validateIn]
    split
    · exact (isTold_readItems (fun value => item.isTold_validateIn extra .free value) _ _ _ _).keeping _ _
    · exact isTold_fail _ _
  | .mapping key item, extra, limits, value => by
    cases value with
    | map entries => exact (isTold_readEntries _ _ _ _ _).keeping _ _
    | _ => exact isTold_fail _ _
  | .fixedKeys _ entries, extra, limits, value => by
    cases value with
    | map given =>
      refine (IsTold.map (IsTold.both (isTold_gather ?_) (extra.isTold_kept _ _)) _).keeping _ _
      exact isTold_validateEntries entries extra given
    | _ => exact isTold_fail _ _
  | .model m, _, limits, value => ((m.isTold_validate value).map _).keeping _ _
termination_by structural shape => shape

theorem Model.isTold_validate : (m : Model Shape) → (value : Value) → (m.validate value).IsTold
  | ⟨name, mark, above, extra, fields⟩, value =>
    Model.isTold_readWith ⟨name, mark, above, extra, fields⟩ (isTold_validateFields fields extra) value
termination_by structural m => m

theorem isTold_validateFields : (fields : List (Field Shape)) → (extra : ExtraPolicy) →
    (entries : List (Value × Value)) → ∀ outcome ∈ validateFields fields extra entries, outcome.IsTold
  | [], _, _ => nofun
  | ⟨_, shape, _, _, limits, _, _⟩ :: rest, extra, entries =>
    List.forall_mem_cons.mpr ⟨Field.isTold_readWith _ (shape.isTold_validateIn extra limits) _ entries,
      isTold_validateFields rest extra entries⟩
termination_by structural fields => fields

theorem isTold_validateEntries : (entries : List (Entry Shape)) → (extra : ExtraPolicy) →
    (given : List (Value × Value)) → ∀ outcome ∈ validateEntries entries extra given, outcome.IsTold
  | [], _, _ => nofun
  | ⟨_, shape, _⟩ :: rest, extra, given =>
    List.forall_mem_cons.mpr ⟨Entry.isTold_readWith _ (shape.isTold_validateIn extra .free) given,
      isTold_validateEntries rest extra given⟩
termination_by structural entries => entries

end

end TypedPath
