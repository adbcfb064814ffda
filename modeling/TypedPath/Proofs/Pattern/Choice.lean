import Mathlib.Data.List.Forall2
import TypedPath.Proofs.Pattern.Pairing

namespace TypedPath

namespace Segment

/-- Every required segment is kept, and none at all after an optional parameter that is dropped. -/
structure IsAdmissible (segments : List Segment) (choice : List Bool) : Prop where
  length_eq : choice.length = segments.length
  required : ∀ entry ∈ segments.zip choice, entry.1.isOptional = false → entry.2 = true
  ordered : (segments.zip choice).Pairwise fun earlier later =>
    earlier.1.kind = .optionalParam → earlier.2 = false → later.2 = false

def kept (segments : List Segment) (choice : List Bool) : List Segment :=
  ((segments.zip choice).filter Prod.snd).map Prod.fst

def Produces (segment : Segment) (part : Text) : Prop :=
  if segment.isParam then (Percent.decode? part).isSome = true else part = segment.literal

instance (segment : Segment) (part : Text) : Decidable (segment.Produces part) :=
  inferInstanceAs (Decidable (if segment.isParam then (Percent.decode? part).isSome = true else part = segment.literal))

def Generates (segments : List Segment) (choice : List Bool) (parts : List Text) : Prop :=
  List.Forall₂ Produces (kept segments choice) parts

def chosen (segments : List Segment) (choice : List Bool) (parts : List Text) : Bindings :=
  ((kept segments choice).zip parts).filterMap fun entry =>
    (entry.1.value? (some entry.2)).map fun value => (entry.1.name, value)

/-- Whatever comes after an optional literal, as far as the next required segment, is a literal again
    and another one. -/
def IsUnambiguous (segments : List Segment) : Prop :=
  ∀ i j : Fin segments.length, i < j → segments[i].kind = .optionalStatic →
    (∀ k : Fin segments.length, i < k → k < j → segments[k].isOptional = true) →
    segments[j].isParam = false ∧ segments[j].literal ≠ segments[i].literal

instance (segments : List Segment) : Decidable (IsUnambiguous segments) :=
  inferInstanceAs (Decidable (∀ i j : Fin segments.length, i < j → segments[i].kind = .optionalStatic →
    (∀ k : Fin segments.length, i < k → k < j → segments[k].isOptional = true) →
    segments[j].isParam = false ∧ segments[j].literal ≠ segments[i].literal))

section Choice

variable {segment : Segment} {segments : List Segment} {keep : Bool} {choice : List Bool} {part : Text}
  {parts : List Text}

theorem kept_cons (segment : Segment) (segments : List Segment) (keep : Bool) (choice : List Bool) :
    kept (segment :: segments) (keep :: choice) =
      if keep then segment :: kept segments choice else kept segments choice := by
  cases keep <;> rfl

theorem isAdmissible_nil_iff : IsAdmissible [] choice ↔ choice = [] := by
  constructor
  · intro admissible
    exact List.length_eq_zero_iff.mp admissible.length_eq
  · rintro rfl
    exact ⟨rfl, nofun, List.Pairwise.nil⟩

theorem isAdmissible_cons_iff : IsAdmissible (segment :: segments) (keep :: choice) ↔
    (segment.isOptional = false → keep = true) ∧
      (segment.kind = .optionalParam → keep = false → kept segments choice = []) ∧
      IsAdmissible segments choice := by
  have dropped : kept segments choice = [] ↔ ∀ later ∈ segments.zip choice, later.2 = false := by
    simp [kept, List.filter_eq_nil_iff]
  rw [dropped]
  constructor
  · intro h
    obtain ⟨length_eq, required, ordered⟩ := h
    rw [List.zip_cons_cons, List.forall_mem_cons] at required
    rw [List.zip_cons_cons, List.pairwise_cons] at ordered
    refine ⟨required.1, fun kind drop later member => ordered.1 later member kind drop, ?_, required.2, ordered.2⟩
    simpa using length_eq
  · intro h
    obtain ⟨first, after, length_eq, required, ordered⟩ := h
    refine ⟨by simp [length_eq], ?_, ?_⟩
    · rw [List.zip_cons_cons, List.forall_mem_cons]
      exact ⟨first, required⟩
    · rw [List.zip_cons_cons, List.pairwise_cons]
      exact ⟨fun later member kind drop => after kind drop later member, ordered⟩

theorem IsUnambiguous.tail (unambiguous : IsUnambiguous (segment :: segments)) : IsUnambiguous segments := by
  intro i j before kind between
  refine unambiguous i.succ j.succ (Fin.succ_lt_succ_iff.mpr before) kind ?_
  rintro ⟨k, inside⟩ after below
  obtain ⟨k, rfl⟩ := Nat.exists_eq_succ_of_ne_zero (Nat.ne_zero_of_lt after)
  exact between ⟨k, Nat.lt_of_succ_lt_succ inside⟩ (Nat.lt_of_succ_lt_succ after) (Nat.lt_of_succ_lt_succ below)

theorem IsUnambiguous.head {between back : List Segment} {later : Segment}
    (unambiguous : IsUnambiguous (segment :: (between ++ later :: back))) (kind : segment.kind = .optionalStatic)
    (optional : ∀ other ∈ between, other.isOptional = true) :
    later.isParam = false ∧ later.literal ≠ segment.literal := by
  have bound : between.length + 1 < (segment :: (between ++ later :: back)).length := by simp
  have reached : (segment :: (between ++ later :: back))[between.length + 1] = later := by simp
  have apart := unambiguous ⟨0, Nat.zero_lt_of_lt bound⟩ ⟨between.length + 1, bound⟩ (Nat.succ_pos _) kind
  simp only [Fin.getElem_fin, reached, List.getElem_cons_zero] at apart
  apply apart
  rintro ⟨k, inside⟩ after below
  obtain ⟨k, rfl⟩ := Nat.exists_eq_succ_of_ne_zero (Nat.ne_zero_of_lt after)
  have position : k < between.length := Nat.lt_of_succ_lt_succ below
  simp only [List.getElem_cons_succ, List.getElem_append_left position]
  exact optional _ (List.getElem_mem position)

theorem exists_first_kept (admissible : IsAdmissible segments choice)
    (generates : Generates segments choice (part :: parts)) :
    ∃ between later back, segments = between ++ later :: back ∧
      (∀ other ∈ between, other.isOptional = true) ∧ later.Produces part := by
  induction segments generalizing choice with
  | nil => cases generates
  | cons segment segments ih =>
    cases choice with
    | nil => cases admissible.length_eq
    | cons keep choice =>
      obtain ⟨required, _, later⟩ := isAdmissible_cons_iff.mp admissible
      unfold Generates at generates
      rw [kept_cons] at generates
      cases keep with
      | true =>
        rw [if_pos rfl, List.forall₂_cons] at generates
        exact ⟨[], segment, segments, rfl, nofun, generates.1⟩
      | false =>
        obtain ⟨between, first, back, rfl, optional, produces⟩ := ih later generates
        refine ⟨segment :: between, first, back, rfl, List.forall_mem_cons.mpr ⟨?_, optional⟩, produces⟩
        by_contra other
        cases required (Bool.eq_false_iff.mpr other)

end Choice

section Takes

variable {segment : Segment} {parts : List Text} {part : Text}

theorem produces_of_takes (takes : segment.Takes parts (some part)) : segment.Produces part := by
  cases kind : segment.kind with
  | static =>
    simp only [Takes, kind] at takes
    simpa [Produces, isParam, kind] using takes
  | param =>
    simp only [Takes, kind] at takes
    obtain ⟨_, same, decodes⟩ := takes
    cases same
    simpa [Produces, isParam, kind] using decodes
  | optionalStatic =>
    simp only [Takes, kind] at takes
    simpa [Produces, isParam, kind] using ((takes part).mp rfl).2
  | optionalParam =>
    simp only [Takes, kind] at takes
    simpa [Produces, isParam, kind] using takes.2 part rfl

theorem takes_of_produces (produces : segment.Produces part) (parts : List Text) :
    segment.Takes (part :: parts) (some part) := by
  have first := (takes_cons_iff segment part parts (some part)).mpr
  unfold Produces at produces
  split at produces
  · rename_i param
    rw [if_pos param] at first
    exact (first ⟨rfl, produces⟩).1
  · rename_i static
    rw [if_neg static, if_pos produces] at first
    exact (first rfl).1

theorem takes_none_iff : segment.Takes parts none ↔ segment.isOptional = true ∧
    (segment.kind = .optionalParam → parts = []) ∧
    (segment.kind = .optionalStatic → parts.head? ≠ some segment.literal) := by
  cases kind : segment.kind with
  | static | param => simp [Takes, isOptional, kind]
  | optionalParam => simp [Takes, isOptional, kind]
  | optionalStatic =>
    simp only [Takes, isOptional, kind, reduceCtorEq, false_implies, true_implies, true_and, false_iff, not_and]
    exact ⟨fun apart head => apart _ head rfl, fun apart _ head same => apart (same ▸ head)⟩

end Takes

section Pairs

open Pairing

variable {segment : Segment} {segments : List Segment} {choice : List Bool} {pairing : List (Option Text)}
  {parts : List Text}

/-- The segments that are paired with a component are a choice, and it generates the path. -/
theorem choice_of_pairs (pairs : Pairs true segments parts pairing) :
    IsAdmissible segments (pairing.map Option.isSome) ∧ Generates segments (pairing.map Option.isSome) parts := by
  induction segments generalizing parts pairing with
  | nil =>
    obtain ⟨rfl, none⟩ := Pairs.nil_iff.mp pairs
    cases none rfl
    exact ⟨isAdmissible_nil_iff.mpr rfl, .nil⟩
  | cons segment segments ih =>
    cases pairing with
    | nil => cases pairs.length_eq
    | cons taken pairing =>
      obtain ⟨takes, ⟨rest, rfl⟩, later⟩ := Pairs.cons_iff.mp pairs
      rw [List.drop_left] at later
      obtain ⟨admissible, generates⟩ := ih later
      unfold Generates at generates ⊢
      rw [List.map_cons, isAdmissible_cons_iff, kept_cons]
      cases taken with
      | some part => exact ⟨⟨fun _ => rfl, nofun, admissible⟩, .cons (produces_of_takes takes) generates⟩
      | none =>
        obtain ⟨optional, exhausted, _⟩ := takes_none_iff.mp takes
        refine ⟨⟨fun required => ?_, fun kind _ => ?_, admissible⟩, generates⟩
        · rw [optional] at required
          cases required
        · have none : rest = [] := exhausted kind
          subst none
          exact List.forall₂_nil_right_iff.mp generates

/-- One component of lookahead tells that an optional literal was dropped. -/
theorem head?_ne_literal (unambiguous : IsUnambiguous (segment :: segments)) (kind : segment.kind = .optionalStatic)
    (admissible : IsAdmissible segments choice) (generates : Generates segments choice parts) :
    parts.head? ≠ some segment.literal := by
  cases parts with
  | nil => exact nofun
  | cons part parts =>
    obtain ⟨between, later, back, rfl, optional, produces⟩ := exists_first_kept admissible generates
    obtain ⟨static, apart⟩ := unambiguous.head kind optional
    rw [Produces, static, if_neg Bool.false_ne_true] at produces
    rw [List.head?_cons, produces]
    exact fun same => apart (Option.some.inj same)

theorem exists_pairs_of_choice (unambiguous : IsUnambiguous segments) (admissible : IsAdmissible segments choice)
    (generates : Generates segments choice parts) :
    ∃ pairing, pairing.map Option.isSome = choice ∧ Pairs true segments parts pairing := by
  induction segments generalizing choice parts with
  | nil =>
    cases isAdmissible_nil_iff.mp admissible
    cases generates
    exact ⟨[], rfl, Pairs.nil_iff.mpr ⟨rfl, fun _ => rfl⟩⟩
  | cons segment segments ih =>
    cases choice with
    | nil => cases admissible.length_eq
    | cons keep choice =>
      obtain ⟨required, after, later⟩ := isAdmissible_cons_iff.mp admissible
      unfold Generates at generates
      rw [kept_cons] at generates
      cases keep with
      | true =>
        cases generates with
        | @cons _ part _ parts produces generates =>
          obtain ⟨pairing, rfl, pairs⟩ := ih unambiguous.tail later generates
          exact ⟨some part :: pairing, rfl, Pairs.cons_iff.mpr ⟨takes_of_produces produces parts, ⟨parts, rfl⟩, pairs⟩⟩
      | false =>
        obtain ⟨pairing, rfl, pairs⟩ := ih unambiguous.tail later generates
        refine ⟨none :: pairing, rfl, Pairs.cons_iff.mpr ⟨takes_none_iff.mpr ⟨?_, ?_, ?_⟩, List.nil_prefix, pairs⟩⟩
        · by_contra other
          cases required (Bool.eq_false_iff.mpr other)
        · intro kind
          rw [if_neg Bool.false_ne_true, after kind rfl] at generates
          exact List.forall₂_nil_left_iff.mp generates
        · exact fun kind => head?_ne_literal unambiguous kind later generates

theorem choice_unique {other : List Bool} (unambiguous : IsUnambiguous segments)
    (admissible : IsAdmissible segments choice) (generates : Generates segments choice parts)
    (otherAdmissible : IsAdmissible segments other) (otherGenerates : Generates segments other parts) :
    choice = other := by
  obtain ⟨pairing, rfl, pairs⟩ := exists_pairs_of_choice unambiguous admissible generates
  obtain ⟨again, rfl, otherPairs⟩ := exists_pairs_of_choice unambiguous otherAdmissible otherGenerates
  rw [pairs.unique otherPairs]

def pairedValues (segments : List Segment) (pairing : List (Option Text)) : Bindings :=
  (segments.zip pairing).filterMap fun entry => (entry.1.value? entry.2).map fun value => (entry.1.name, value)

theorem chosen_of_pairs (pairs : Pairs true segments parts pairing) :
    chosen segments (pairing.map Option.isSome) parts = pairedValues segments pairing := by
  induction segments generalizing parts pairing with
  | nil => rfl
  | cons segment segments ih =>
    cases pairing with
    | nil => cases pairs.length_eq
    | cons taken pairing =>
      obtain ⟨_, ⟨rest, rfl⟩, later⟩ := Pairs.cons_iff.mp pairs
      rw [List.drop_left] at later
      have rest_eq := ih later
      unfold chosen pairedValues at rest_eq ⊢
      rw [List.map_cons, kept_cons, List.zip_cons_cons, List.filterMap_cons, ← rest_eq]
      cases taken with
      | some part => rfl
      | none =>
        have nothing : segment.value? none = none := by
          unfold value?
          split <;> rfl
        rw [nothing]
        rfl

theorem foldl_record_of_nodup {bound : Bindings} (nodup : ((segments.filter isParam).map Segment.name).Nodup)
    (fresh : ∀ name ∈ (segments.filter isParam).map Segment.name, name ∉ bound.map Prod.fst)
    (pairing : List (Option Text)) :
    (segments.zip pairing).foldl record bound = bound ++ pairedValues segments pairing := by
  induction segments generalizing bound pairing with
  | nil => simp [pairedValues]
  | cons segment segments ih =>
    cases pairing with
    | nil => simp [pairedValues]
    | cons taken pairing =>
      unfold pairedValues at ih ⊢
      rw [List.zip_cons_cons, List.foldl_cons, List.filterMap_cons, record]
      dsimp only
      cases value : segment.value? taken with
      | none =>
        rw [List.filter_cons] at nodup fresh
        split at nodup
        · rw [if_pos ‹_›, List.map_cons, List.forall_mem_cons] at fresh
          exact ih nodup.of_cons fresh.2 pairing
        · rw [if_neg ‹_›] at fresh
          exact ih nodup fresh pairing
      | some text =>
        have param : segment.isParam = true := by
          by_contra static
          rw [value?, if_neg static] at value
          cases value
        rw [List.filter_cons_of_pos param, List.map_cons] at nodup fresh
        rw [List.forall_mem_cons] at fresh
        rw [List.nodup_cons] at nodup
        dsimp only
        rw [Bindings.bind_of_not_mem fresh.1, ih nodup.2 ?_ pairing]
        · simp
        · intro name member held
          rw [List.map_append, List.mem_append] at held
          rcases held with earlier | same
          · exact fresh.2 name member earlier
          · cases List.mem_singleton.mp same
            exact nodup.1 member

end Pairs

end Segment

namespace Pattern

variable {pattern : Pattern}

/-- A path matches an unambiguous pattern just when some choice of its segments generates the path. There is
    only one such choice, and it says what is bound. -/
theorem matchPath_choice (nodup : pattern.names.Nodup) (unambiguous : Segment.IsUnambiguous pattern.segments)
    (path : Text) :
    (∀ bound, pattern.matchPath true path = .ok bound ↔ ∃ choice,
        Segment.IsAdmissible pattern.segments choice ∧
        Segment.Generates pattern.segments choice (path.splitOn separator) ∧
        bound = Segment.chosen pattern.segments choice (path.splitOn separator)) ∧
      ∀ choice other, Segment.IsAdmissible pattern.segments choice →
        Segment.Generates pattern.segments choice (path.splitOn separator) →
        Segment.IsAdmissible pattern.segments other →
        Segment.Generates pattern.segments other (path.splitOn separator) → choice = other := by
  have fresh : ∀ name ∈ (pattern.segments.filter Segment.isParam).map Segment.name,
      name ∉ ([] : Bindings).map Prod.fst := fun _ _ => List.not_mem_nil
  constructor
  · intro bound
    rw [matchPath_eq_ok_iff]
    constructor
    · intro h
      obtain ⟨pairing, pairs, rfl⟩ := h
      obtain ⟨admissible, generates⟩ := Segment.choice_of_pairs pairs
      refine ⟨_, admissible, generates, ?_⟩
      rw [Segment.chosen_of_pairs pairs, Segment.foldl_record_of_nodup nodup fresh, List.nil_append]
    · intro h
      obtain ⟨choice, admissible, generates, rfl⟩ := h
      obtain ⟨pairing, rfl, pairs⟩ := Segment.exists_pairs_of_choice unambiguous admissible generates
      refine ⟨pairing, pairs, ?_⟩
      rw [Segment.chosen_of_pairs pairs, Segment.foldl_record_of_nodup nodup fresh, List.nil_append]
  · intro choice other admissible generates otherAdmissible otherGenerates
    exact Segment.choice_unique unambiguous admissible generates otherAdmissible otherGenerates

theorem matchPath_choice_page :
    let pattern := compile "/x?/y?/to/:id/:page?"
    let choice := [true, false, true, true, true, false]
    pattern.names.Nodup ∧ Segment.IsUnambiguous pattern.segments ∧
      Segment.IsAdmissible pattern.segments choice ∧
      Segment.Generates pattern.segments choice ["", "y", "to", "a%20b"] ∧
      pattern.matchPath true "/y/to/a%20b" = .ok [("id", "a b")] := by
  intro pattern choice
  have nodup : pattern.names.Nodup := by decide
  have unambiguous : Segment.IsUnambiguous pattern.segments := by decide
  have admissible : Segment.IsAdmissible pattern.segments choice := ⟨by decide, by decide, by decide⟩
  have generates : Segment.Generates pattern.segments choice ["", "y", "to", "a%20b"] :=
    .cons (by decide) (.cons (by decide) (.cons (by decide) (.cons (by decide +kernel) .nil)))
  have whole := matchPath_choice nodup unambiguous "/y/to/a%20b"
  exact ⟨nodup, unambiguous, admissible, generates, (whole.1 _).mpr ⟨choice, admissible, generates, by decide +kernel⟩⟩

end Pattern

end TypedPath
