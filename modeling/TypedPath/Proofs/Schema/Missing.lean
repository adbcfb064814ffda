import TypedPath.Proofs.Schema.Findings

namespace TypedPath

namespace Outcome

variable {α β : Type}

/-- No issue says that the value itself is missing: only parts of it are. -/
def MissesParts (outcome : Outcome α) : Prop :=
  ∀ issue ∈ outcome.found, issue.problem = .missing → issue.location.getD [] ≠ []

theorem missesParts_of_silent {outcome : Outcome α} (silent : outcome.found = []) : outcome.MissesParts := by
  intro issue member
  rw [silent] at member
  cases member

theorem missesParts_ok (a : α) : MissesParts (.ok a) := missesParts_of_silent rfl

theorem missesParts_broken (breakdown : Breakdown) : (broken breakdown : Outcome α).MissesParts :=
  missesParts_of_silent rfl

theorem missesParts_fail {problem : Problem} (other : problem ≠ .missing) (input : Value) :
    (fail problem input : Outcome α).MissesParts := by
  intro issue member missing
  cases List.mem_singleton.mp member
  exact absurd missing other

theorem missesParts_within (step : Value) (outcome : Outcome α) : (outcome.within step).MissesParts := by
  intro issue member _
  rw [found_within] at member
  obtain ⟨inner, _, rfl⟩ := List.mem_map.mp member
  exact List.cons_ne_nil _ _

theorem MissesParts.map {outcome : Outcome α} (parts : outcome.MissesParts) (f : α → β) :
    MissesParts (Except.map f outcome) := by
  unfold MissesParts
  rw [found_map]
  exact parts

theorem MissesParts.bind {outcome : Outcome α} (parts : outcome.MissesParts) {next : α → Outcome β}
    (later : ∀ a, (next a).MissesParts) : MissesParts (Except.bind outcome next) := by
  rcases outcome with (issues | breakdown) | a
  · exact parts
  · exact missesParts_broken breakdown
  · exact later a

theorem MissesParts.both {left : Outcome α} {right : Outcome β} (first : left.MissesParts)
    (second : right.MissesParts) : (Outcome.both left right).MissesParts := by
  cases broken : (Outcome.both left right).breakdown? with
  | some breakdown => exact missesParts_of_silent (by rw [breakdown?_eq_some_iff.mp broken]; rfl)
  | none =>
    unfold MissesParts
    rw [found_both broken]
    exact List.forall_mem_append.mpr ⟨first, second⟩

theorem missesParts_gather {outcomes : List (Outcome α)} (all : ∀ outcome ∈ outcomes, outcome.MissesParts) :
    (gather outcomes).MissesParts := by
  induction outcomes with
  | nil => exact missesParts_ok _
  | cons outcome outcomes ih =>
    obtain ⟨first, later⟩ := List.forall_mem_cons.mp all
    exact (first.both (ih later)).map _

theorem missesParts_ofReading {wrap : α → β} {input : Value} {reading : Except Problem α}
    (other : reading ≠ .error .missing) : (ofReading wrap input reading).MissesParts := by
  cases reading with
  | error problem => exact missesParts_fail (fun same => other (congrArg _ same)) input
  | ok a => exact missesParts_ok _

end Outcome

namespace Limit

variable {value bound : Value} {limit : Limit} {limits : List Limit}

theorem inapplicable_ne_missing {name : Text} : inapplicable name value ≠ .ok (some .missing) := by
  unfold inapplicable
  split <;> exact nofun

theorem compared_ne_missing {name : Text} {kept : Option Bool} {problem : Text → Problem}
    (other : ∀ text, problem text ≠ .missing) : compared name value bound kept problem ≠ .ok (some .missing) := by
  unfold compared
  split
  · exact nofun
  · exact fun same => other _ (Option.some.inj (Except.ok.inj same))
  · exact inapplicable_ne_missing
  · split
    · exact nofun
    · exact inapplicable_ne_missing

theorem counted_ne_missing {name : Text} {keeps : Nat → Bool} {problem : Nat → Problem}
    (other : ∀ n, problem n ≠ .missing) : counted name value keeps problem ≠ .ok (some .missing) := by
  unfold counted
  split
  · split
    · exact nofun
    · exact fun same => other _ (Option.some.inj (Except.ok.inj same))
  · exact inapplicable_ne_missing

theorem check_ne_missing : limit.check value ≠ .ok (some .missing) := by
  cases limit with
  | above | least | below | most => exact compared_ne_missing fun _ => nofun
  | shortest | longest => exact counted_ne_missing fun _ => nofun

theorem checkAll_ne_missing : checkAll value limits ≠ .ok (some .missing) := by
  induction limits with
  | nil => exact nofun
  | cons limit limits ih =>
    unfold checkAll
    split
    · exact ih
    · exact check_ne_missing

end Limit

theorem Bound.broken?_ne_missing {limits : Limits} {value : Value} : Bound.broken? limits value ≠ some .missing := by
  intro broken
  obtain ⟨limit, _, told⟩ := List.exists_of_findSome?_eq_some broken
  cases limit with
  | above | least | below | most =>
    unfold problem? at told
    dsimp only at told
    split at told <;> cases told
  | shortest | longest => cases told

namespace Reading

variable {value : Value} {x : Binary64} {d : Decimal}

theorem mapError_ne_missing {ε α : Type} {result : Except ε α} {problem : ε → Problem}
    (other : ∀ reason, problem reason ≠ .missing) : result.mapError problem ≠ .error .missing := by
  cases result with
  | error reason => exact fun same => other reason (Except.error.inj same)
  | ok a => exact nofun

theorem map_ne_missing {α β : Type} {result : Except Problem α} (other : result ≠ .error .missing) (f : α → β) :
    result.map f ≠ .error .missing := by
  cases result with
  | error problem => exact fun same => other (congrArg _ (Except.error.inj same))
  | ok a => exact nofun

theorem wholeNumber_ne_missing {numeral : Numeral} : wholeNumber numeral ≠ .error .missing := by
  unfold wholeNumber
  split <;> exact nofun

theorem ofFloat_ne_missing : ofFloat x ≠ .error .missing := by
  cases x with
  | finite negative significand exponent =>
    unfold ofFloat
    dsimp only
    split
    · split <;> exact nofun
    · rename_i failed
      exact fun same => wholeNumber_ne_missing (failed.trans (congrArg _ (Except.error.inj same)))
  | _ => exact nofun

theorem floatOfDecimal_ne_missing : floatOfDecimal d ≠ .error .missing := by
  cases d with
  | undefined =>
    unfold floatOfDecimal
    dsimp only
    split <;> exact nofun
  | _ => exact nofun

theorem int_ne_missing : int value ≠ .error .missing := by
  unfold int
  split
  · exact nofun
  · exact nofun
  · exact ofFloat_ne_missing
  · exact wholeNumber_ne_missing
  · exact nofun
  · refine mapError_ne_missing fun fault => ?_
    cases fault <;> exact nofun
  · exact nofun

theorem boolFloat_ne_missing : boolFloat x ≠ .error .missing := by
  unfold boolFloat boolNumber
  split
  · split
    · exact nofun
    · split <;> exact nofun
  · exact nofun

theorem bool_ne_missing : bool value ≠ .error .missing := by
  unfold bool
  split
  · exact nofun
  · unfold boolNumber
    repeat' split
    all_goals exact nofun
  · split <;> exact nofun
  · exact boolFloat_ne_missing
  · split
    · exact boolFloat_ne_missing
    · exact nofun
  · exact nofun

theorem float_ne_missing : float value ≠ .error .missing := by
  unfold float
  split
  · exact nofun
  · split <;> exact nofun
  · exact nofun
  · exact floatOfDecimal_ne_missing
  · split <;> exact nofun
  · exact nofun

theorem decimal_ne_missing : decimal value ≠ .error .missing := by
  have any : anyDecimal value ≠ .error .missing := by
    unfold anyDecimal decimalText
    repeat' split
    all_goals exact nofun
  unfold decimal
  cases read : anyDecimal value with
  | error problem => exact fun same => any (read.trans (congrArg _ (Except.error.inj same)))
  | ok d => cases d <;> exact nofun

theorem uuid_ne_missing : uuid value ≠ .error .missing := by
  unfold uuid
  split
  · exact nofun
  · exact mapError_ne_missing fun _ => nofun
  · exact nofun

theorem moment_ne_missing : moment value ≠ .error .missing := by
  have counted {x : Binary64} : (Moment.ofBinary64 x).mapError Problem.momentCount ≠ .error .missing :=
    mapError_ne_missing fun _ => nofun
  unfold moment
  split
  · exact nofun
  · exact mapError_ne_missing fun _ => nofun
  · split
    · exact mapError_ne_missing fun _ => nofun
    · split
      · exact counted
      · exact nofun
  · exact counted
  · split
    · exact counted
    · exact nofun
  · exact nofun

theorem literal_ne_missing {choices : List Value} : literal choices value ≠ .error .missing := by
  unfold literal
  split
  · exact nofun
  · split <;> exact nofun

end Reading

open Outcome

theorem Outcome.missesParts_ofLimits (limits : List Limit) (input value : Value) :
    (ofLimits limits input value).MissesParts := by
  unfold ofLimits
  split
  · exact missesParts_ok _
  · rename_i problem failed
    refine missesParts_fail (fun same => ?_) input
    exact Limit.checkAll_ne_missing (failed.trans (by rw [same]))
  · exact missesParts_broken _

theorem Outcome.MissesParts.keeping {outcome : Outcome Value} (parts : outcome.MissesParts) (limits : List Limit)
    (input : Value) : (Outcome.keeping limits input outcome).MissesParts :=
  parts.bind fun value => missesParts_ofLimits limits input value

theorem missesParts_readText (limits : Limits) (value : Value) : (readText limits value).MissesParts := by
  unfold readText Reading.text Limits.ofText?
  dsimp only
  split
  · rename_i failed
    split at failed <;> cases failed
    exact missesParts_fail (by simp) value
  · split
    · rename_i problem told
      refine missesParts_fail (fun same => ?_) value
      subst same
      rcases Option.or_eq_some_iff.mp told with few | ⟨_, many⟩
      · obtain ⟨_, _, told⟩ := Option.bind_eq_some_iff.mp few
        split at told <;> cases told
      · obtain ⟨_, _, told⟩ := Option.bind_eq_some_iff.mp many
        split at told <;> cases told
    · exact missesParts_ofLimits _ _ _

theorem missesParts_readBounded (limits : Limits) (value : Value) {reading : Except Problem Value}
    (other : reading ≠ .error .missing) : (readBounded limits value reading).MissesParts := by
  unfold readBounded
  split
  · exact missesParts_fail (fun same => other (congrArg _ same)) value
  · split
    · rename_i failed
      exact missesParts_fail (fun same => Bound.broken?_ne_missing (failed.trans (congrArg _ same))) value
    · exact missesParts_ok _

theorem missesParts_readMoment (limits : Limits) (value : Value) : (readMoment limits value).MissesParts := by
  refine (missesParts_readBounded limits value (Reading.map_ne_missing Reading.moment_ne_missing _)).bind fun read => ?_
  split
  · refine missesParts_ofReading ?_
    unfold Reading.dated
    split <;> exact nofun
  · exact missesParts_ok _

theorem Limits.tooFew?_ne_missing {limits : Limits} {counted : Counted} {n : Nat} :
    limits.tooFew? counted n ≠ some .missing := by
  intro told
  obtain ⟨_, _, told⟩ := Option.bind_eq_some_iff.mp told
  split at told <;> cases told

theorem Limits.tooMany?_ne_missing {limits : Limits} {counted : Counted} {n : Nat} {found : Option Nat} :
    limits.tooMany? counted n found ≠ some .missing := by
  intro told
  obtain ⟨_, _, told⟩ := Option.bind_eq_some_iff.mp told
  split at told <;> cases told

theorem missesParts_readItems (validate : Value → Outcome Value) (ofAnything : Bool) (limits : Limits)
    (value : Value) (items : List Value) : (readItems validate ofAnything limits value items).MissesParts := by
  have each (items : List Value) : (validateItems validate items).MissesParts := by
    refine missesParts_gather fun outcome member => ?_
    obtain ⟨_, _, rfl⟩ := List.mem_map.mp member
    exact missesParts_within _ _
  unfold readItems
  dsimp only
  split
  · exact missesParts_broken _
  · rename_i problem told _
    refine missesParts_fail (fun same => ?_) value
    subst same
    split at told
    · rcases Option.or_eq_some_iff.mp told with few | ⟨_, many⟩
      · exact Limits.tooFew?_ne_missing few
      · exact Limits.tooMany?_ne_missing many
    · exact Limits.tooMany?_ne_missing told
  · rename_i setback _ failed _
    have parts := failed ▸ each _
    exact parts.map Value.list
  · split
    · rename_i told
      exact missesParts_fail (fun same => Limits.tooFew?_ne_missing (told.trans (congrArg _ same))) value
    · exact missesParts_ok _

theorem missesParts_putEntries {limits : Limits} {whole : Value} {built : List (Value × Value)} {found : List Issue}
    {outcomes : List (Outcome (Value × Value))} (all : ∀ outcome ∈ outcomes, outcome.MissesParts)
    (parts : ∀ issue ∈ found, issue.problem = .missing → issue.location.getD [] ≠ []) :
    (putEntries limits whole built found outcomes).MissesParts := by
  fun_induction putEntries limits whole built found outcomes with
  | case1 => exact missesParts_ok _
  | case2 => exact parts
  | case3 => exact missesParts_broken _
  -- the issues that were found so far are listed with those of the entries to come
  | case4 _ _ issues _ ih =>
    obtain ⟨first, later⟩ := List.forall_mem_cons.mp all
    exact ih later (List.forall_mem_append.mpr ⟨parts, first⟩)
  | case5 => exact missesParts_broken _
  | case6 _ _ _ _ _ _ _ _ told =>
    exact missesParts_fail (fun same => Limits.tooMany?_ne_missing (told.trans (congrArg _ same))) whole
  | case7 _ _ _ _ _ _ _ _ ih => exact ih (List.forall_mem_cons.mp all).2 parts

theorem missesParts_readEntries (key value : Value → Outcome Value) (limits : Limits) (whole : Value)
    (entries : List (Value × Value)) : (readEntries key value limits whole entries).MissesParts := by
  refine (missesParts_putEntries (fun outcome member => ?_) (List.forall_mem_nil _)).bind fun built => ?_
  · obtain ⟨entry, _, rfl⟩ := List.mem_map.mp member
    exact (missesParts_within _ _).both (missesParts_within _ _)
  · split
    · rename_i told
      exact missesParts_fail (fun same => Limits.tooFew?_ne_missing (told.trans (congrArg _ same))) whole
    · exact missesParts_ok _

theorem Entry.missesParts_readWith {σ : Type} (entry : Entry σ) (validate : Value → Outcome Value)
    (entries : List (Value × Value)) : (entry.readWith validate entries).MissesParts := by
  unfold readWith
  split
  · exact (missesParts_within _ _).map _
  · split
    · exact missesParts_within _ _
    · exact missesParts_ok _

theorem ExtraPolicy.missesParts_kept (policy : ExtraPolicy) (reads : Text → Bool) (entries : List (Value × Value)) :
    (policy.kept reads entries).MissesParts := by
  refine (missesParts_gather fun outcome member => ?_).map _
  obtain ⟨entry, _, rfl⟩ := List.mem_map.mp member
  unfold keep
  split
  · exact missesParts_ok _
  · split
    · exact missesParts_ok _
    · split
      · exact missesParts_within _ _
      · exact missesParts_ok _
  · exact missesParts_within _ _

theorem Field.missesParts_validateIn (field : Field Shape) (extra : ExtraPolicy) (entries : List (Value × Value)) :
    (field.validateIn extra entries).MissesParts := by
  unfold validateIn readWith
  split
  · exact (missesParts_within _ _).map _
  · split
    · exact missesParts_ok _
    · exact missesParts_within _ _

theorem Model.missesParts_validate (m : Model Shape) (value : Value) : (m.validate value).MissesParts := by
  cases value with
  | map entries =>
    rw [validate_map]
    refine ((missesParts_gather fun outcome member => ?_).both ((m.extra.missesParts_kept _ _).map _)).map _
    obtain ⟨field, _, rfl⟩ := List.mem_map.mp member
    exact field.missesParts_validateIn m.extra entries
  | record r =>
    cases m
    unfold validate readWith
    dsimp only
    split
    · exact missesParts_ok _
    · exact missesParts_fail (by simp) _
  | _ =>
    cases m
    exact missesParts_fail (by simp) _

/-- Only an optional shape hands on what another one says of the same value. -/
theorem Shape.missesParts_validateIn (extra : ExtraPolicy) (limits : Limits) (value : Value) :
    (shape : Shape) → (shape.validateIn extra limits value).MissesParts
  | .text => missesParts_readText limits value
  | .int => (missesParts_readBounded limits value (Reading.map_ne_missing Reading.int_ne_missing _)).keeping _ _
  | .float => (missesParts_readBounded limits value (Reading.map_ne_missing Reading.float_ne_missing _)).keeping _ _
  | .decimal =>
    (missesParts_readBounded limits value (Reading.map_ne_missing Reading.decimal_ne_missing _)).keeping _ _
  | .moment => (missesParts_readMoment limits value).keeping _ _
  | .bool => (missesParts_ofReading Reading.bool_ne_missing).keeping _ _
  | .uuid => (missesParts_ofReading Reading.uuid_ne_missing).keeping _ _
  | .literal _ => (missesParts_ofReading Reading.literal_ne_missing).keeping _ _
  | .any => missesParts_ofLimits _ _ _
  | .optional inner => by
    rw [validateIn]
    split
    · exact missesParts_ok _
    · exact missesParts_validateIn extra limits value inner
  | .list _ => by
    rw [validateIn]
    split
    · exact (missesParts_readItems _ _ _ _ _).keeping _ _
    · exact missesParts_fail (by simp) _
  | .mapping _ _ => by
    cases value with
    | map entries => exact (missesParts_readEntries _ _ _ _ _).keeping _ _
    | _ => exact missesParts_fail (by simp) _
  | .fixedKeys _ entries => by
    cases value with
    | map given =>
      refine (((missesParts_gather fun outcome member => ?_).both (extra.missesParts_kept _ _)).map _).keeping _ _
      rw [validateEntries_eq_map] at member
      obtain ⟨entry, _, rfl⟩ := List.mem_map.mp member
      exact entry.missesParts_readWith _ _
    | _ => exact missesParts_fail (by simp) _
  | .model m => ((m.missesParts_validate value).map _).keeping _ _
termination_by structural shape => shape

end TypedPath
