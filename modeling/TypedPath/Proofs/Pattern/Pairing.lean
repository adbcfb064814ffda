import Mathlib.Data.List.ReduceOption
import TypedPath.Proofs.Pattern.Bindings

namespace TypedPath

namespace Segment

/-- Whether a segment may be paired with a component, or with none, when `rest` are the components
    that are not paired yet. -/
def Takes (segment : Segment) (rest : List Text) (taken : Option Text) : Prop :=
  match segment.kind with
  | .static => taken = some segment.literal
  | .param => ∃ part, taken = some part ∧ (Percent.decode? part).isSome
  | .optionalStatic => ∀ part, taken = some part ↔ rest.head? = some part ∧ part = segment.literal
  | .optionalParam =>
    (taken.isSome ↔ rest ≠ []) ∧ ∀ part, taken = some part → (Percent.decode? part).isSome

def value? (segment : Segment) (taken : Option Text) : Option Text :=
  if segment.isParam then taken.bind Percent.decode? else none

end Segment

namespace Pairing

def remaining (pairing : List (Option Text)) (parts : List Text) (index : Nat) : List Text :=
  parts.drop (pairing.take index).reduceOption.length

/-- The components that segments are paired with are the first ones of the path, in order, and if
    `exact` they are all of them. -/
structure Pairs (exact : Bool) (segments : List Segment) (parts : List Text)
    (pairing : List (Option Text)) : Prop where
  length_eq : pairing.length = segments.length
  inOrder : pairing.reduceOption <+: parts
  takes : ∀ (index : Nat) (segment : Segment) (taken : Option Text), segments[index]? = some segment →
    pairing[index]? = some taken → segment.Takes (remaining pairing parts index) taken
  exhausted : exact = true → pairing.reduceOption.length = parts.length

def lastValue? (segments : List Segment) (pairing : List (Option Text)) (name : Text) : Option Text :=
  (segments.zip pairing).reverse.findSome? fun (segment, taken) =>
    if segment.name = name then segment.value? taken else none

def record (bound : Bindings) (entry : Segment × Option Text) : Bindings :=
  match entry.1.value? entry.2 with
  | some value => bound.bind entry.1.name value
  | none => bound

theorem record_represents {bound : Bindings} {value? : Text → Option Text}
    (represents : bound.Represents value?) (entries : List (Segment × Option Text)) :
    (entries.foldl record bound).Represents fun name =>
      (entries.reverse.findSome? fun (segment, taken) =>
        if segment.name = name then segment.value? taken else none).or (value? name) := by
  induction entries generalizing bound value? with
  | nil => simpa using represents
  | cons entry entries ih =>
    obtain ⟨segment, taken⟩ := entry
    simp only [List.foldl_cons, record, List.reverse_cons, List.findSome?_append, Option.or_assoc]
    cases found : segment.value? taken with
    | none => simpa [found] using ih represents
    | some value =>
      have extended := ih (represents.bind segment.name value)
      refine ⟨extended.nodup, fun name => ?_⟩
      rw [extended.lookup_eq]
      congr 1
      by_cases same : segment.name = name
      · subst same
        simp [found]
      · have other : ¬ name = segment.name := fun h => same h.symm
        simp [same, other]

theorem Pairs.nil_iff {exact : Bool} {parts : List Text} {pairing : List (Option Text)} :
    Pairs exact [] parts pairing ↔ pairing = [] ∧ (exact = true → parts = []) := by
  constructor
  · intro pairs
    have empty := List.length_eq_zero_iff.mp pairs.length_eq
    subst empty
    exact ⟨rfl, fun h => List.length_eq_zero_iff.mp (pairs.exhausted h).symm⟩
  · intro h
    obtain ⟨rfl, exhausted⟩ := h
    exact ⟨rfl, List.nil_prefix, by simp, fun h => by simp [exhausted h]⟩

theorem reduceOption_cons {α : Type} (taken : Option α) (pairing : List (Option α)) :
    (taken :: pairing).reduceOption = taken.toList ++ pairing.reduceOption := by
  cases taken <;> simp

theorem remaining_cons (taken : Option Text) (pairing : List (Option Text)) (parts : List Text) (index : Nat) :
    remaining (taken :: pairing) parts (index + 1) = remaining pairing (parts.drop taken.toList.length) index := by
  unfold remaining
  rw [List.drop_drop, List.take_succ_cons]
  cases taken <;> simp [Nat.add_comm]

theorem Pairs.cons_iff {exact : Bool} {segment : Segment} {segments : List Segment} {parts : List Text}
    {taken : Option Text} {pairing : List (Option Text)} :
    Pairs exact (segment :: segments) parts (taken :: pairing) ↔
      segment.Takes parts taken ∧ taken.toList <+: parts ∧
        Pairs exact segments (parts.drop taken.toList.length) pairing := by
  have split := reduceOption_cons taken pairing
  have shift := remaining_cons taken pairing parts
  constructor
  · intro h
    obtain ⟨length_eq, inOrder, takes, exhausted⟩ := h
    obtain ⟨rest, rfl⟩ := inOrder
    rw [split] at exhausted takes shift ⊢
    refine ⟨takes 0 segment taken rfl rfl, ⟨_, (List.append_assoc ..).symm⟩, ?_, ?_, ?_, ?_⟩
    · simpa using length_eq
    · simp [List.append_assoc]
    · intro index other found here there
      rw [← shift]
      exact takes (index + 1) other found here there
    · intro h
      have whole := exhausted h
      simp only [List.length_append, List.length_drop] at whole ⊢
      omega
  · intro h
    obtain ⟨first, inOrder, length_eq, rest, takes, exhausted⟩ := h
    obtain ⟨tail, rfl⟩ := inOrder
    rw [List.drop_left] at rest takes exhausted shift
    refine ⟨by simp [length_eq], ?_, ?_, ?_⟩
    · rw [split]
      exact (List.prefix_append_right_inj _).mpr rest
    · intro index other found here there
      cases index with
      | zero =>
        cases here
        cases there
        exact first
      | succ index =>
        rw [shift]
        exact takes index other found here there
    · intro h
      rw [split, List.length_append, List.length_append, exhausted h]

end Pairing

namespace Segment

open Pairing

theorem takes_nil_iff (segment : Segment) (taken : Option Text) :
    segment.Takes [] taken ∧ taken.toList <+: [] ↔ segment.isOptional = true ∧ taken = none := by
  cases taken with
  | some part => simp
  | none => cases kind : segment.kind <;> simp [Takes, isOptional, kind]

theorem takes_cons_iff (segment : Segment) (part : Text) (parts : List Text) (taken : Option Text) :
    segment.Takes (part :: parts) taken ∧ taken.toList <+: part :: parts ↔
      if segment.isParam then taken = some part ∧ (Percent.decode? part).isSome
      else if part = segment.literal then taken = some part
      else segment.isOptional = true ∧ taken = none := by
  cases taken with
  | none =>
    cases kind : segment.kind <;> by_cases same : part = segment.literal <;>
      simp [Takes, isParam, isOptional, kind, same]
  | some other =>
    have first : (some other).toList <+: part :: parts ↔ other = part := by
      simp [List.cons_prefix_cons]
    rw [first]
    by_cases agree : other = part
    · subst agree
      cases kind : segment.kind <;> by_cases same : other = segment.literal <;>
        simp [Takes, isParam, isOptional, kind, same]
    · simp [agree]

theorem takes_unique {segment : Segment} {rest : List Text} {left right : Option Text}
    (takesLeft : segment.Takes rest left) (firstLeft : left.toList <+: rest)
    (takesRight : segment.Takes rest right) (firstRight : right.toList <+: rest) : left = right := by
  cases rest with
  | nil =>
    have hl := (takes_nil_iff segment left).mp ⟨takesLeft, firstLeft⟩
    have hr := (takes_nil_iff segment right).mp ⟨takesRight, firstRight⟩
    rw [hl.2, hr.2]
  | cons part parts =>
    have hl := (takes_cons_iff segment part parts left).mp ⟨takesLeft, firstLeft⟩
    have hr := (takes_cons_iff segment part parts right).mp ⟨takesRight, firstRight⟩
    split at hl
    · simp_all
    · split at hl <;> simp_all

theorem follow_nil (exact : Bool) (parts : List Text) (bound result : Bindings) :
    follow exact [] parts bound = .ok result ↔ result = bound ∧ (exact = true → parts = []) := by
  cases parts with
  | nil => simp [follow, eq_comm]
  | cons part parts => cases exact <;> simp [follow, eq_comm]

theorem follow_cons_nil (exact : Bool) (segment : Segment) (segments : List Segment)
    (bound result : Bindings) :
    follow exact (segment :: segments) [] bound = .ok result ↔
      segment.isOptional = true ∧ follow exact segments [] bound = .ok result := by
  cases optional : segment.isOptional <;> simp [follow, optional]

theorem follow_cons (exact : Bool) (segment : Segment) (segments : List Segment) (parts : List Text)
    (bound result : Bindings) :
    follow exact (segment :: segments) parts bound = .ok result ↔
      ∃ taken, (segment.Takes parts taken ∧ taken.toList <+: parts) ∧
        follow exact segments (parts.drop taken.toList.length) (record bound (segment, taken)) =
          .ok result := by
  cases parts with
  | nil =>
    simp only [follow_cons_nil, takes_nil_iff]
    simp [record, value?]
  | cons part parts =>
    simp only [takes_cons_iff, follow]
    split
    · rename_i param
      cases decoded : Percent.decode? part <;> simp [record, value?, param, decoded]
    · rename_i static
      split
      · simp [record, value?, static]
      · cases optional : segment.isOptional <;> simp [record, value?, static]

theorem follow_eq_ok_iff (exact : Bool) (segments : List Segment) (parts : List Text)
    (bound result : Bindings) :
    follow exact segments parts bound = .ok result ↔
      ∃ pairing, Pairs exact segments parts pairing ∧
        result = (segments.zip pairing).foldl record bound := by
  induction segments generalizing parts bound with
  | nil =>
    rw [follow_nil]
    simp only [Pairs.nil_iff]
    grind
  | cons segment segments ih =>
    rw [follow_cons]
    constructor
    · intro h
      obtain ⟨taken, ⟨takes, first⟩, followed⟩ := h
      obtain ⟨pairing, pairs, rfl⟩ := (ih ..).mp followed
      exact ⟨taken :: pairing, Pairs.cons_iff.mpr ⟨takes, first, pairs⟩, rfl⟩
    · intro h
      obtain ⟨pairing, pairs, rfl⟩ := h
      cases pairing with
      | nil => cases pairs.length_eq
      | cons taken pairing =>
        obtain ⟨takes, first, rest⟩ := Pairs.cons_iff.mp pairs
        exact ⟨taken, ⟨takes, first⟩, (ih ..).mpr ⟨pairing, rest, rfl⟩⟩

end Segment

theorem Pairing.Pairs.unique {exact : Bool} {segments : List Segment} {parts : List Text}
    {left right : List (Option Text)} (hl : Pairs exact segments parts left)
    (hr : Pairs exact segments parts right) : left = right := by
  induction segments generalizing parts left right with
  | nil => rw [(nil_iff.mp hl).1, (nil_iff.mp hr).1]
  | cons segment segments ih =>
    cases left with
    | nil => cases hl.length_eq
    | cons takenLeft left =>
      cases right with
      | nil => cases hr.length_eq
      | cons takenRight right =>
        obtain ⟨takesLeft, firstLeft, restLeft⟩ := cons_iff.mp hl
        obtain ⟨takesRight, firstRight, restRight⟩ := cons_iff.mp hr
        have same := Segment.takes_unique takesLeft firstLeft takesRight firstRight
        subst same
        rw [ih restLeft restRight]

namespace Pattern

open Pairing

theorem matchPath_eq_ok_iff (pattern : Pattern) (exact : Bool) (path : Text) (bound : Bindings) :
    pattern.matchPath exact path = .ok bound ↔
      ∃ pairing, Pairs exact pattern.segments (path.splitOn separator) pairing ∧
        bound = (pattern.segments.zip pairing).foldl record [] :=
  Segment.follow_eq_ok_iff ..

theorem represents_lastValue? (segments : List Segment) (pairing : List (Option Text)) :
    Bindings.Represents ((segments.zip pairing).foldl record []) (lastValue? segments pairing) := by
  have represents := record_represents Bindings.represents_nil (segments.zip pairing)
  simp only [Option.or_none] at represents
  exact represents

theorem nodup_of_matchPath {pattern : Pattern} {exact : Bool} {path : Text} {bound : Bindings}
    (matched : pattern.matchPath exact path = .ok bound) : (bound.map Prod.fst).Nodup := by
  obtain ⟨pairing, _, rfl⟩ := (matchPath_eq_ok_iff ..).mp matched
  exact (represents_lastValue? pattern.segments pairing).nodup

/-- A path matches exactly when there is a pairing, of which there is only one then, and it binds
    each name to the value of the last parameter of this name that is paired. -/
theorem matchPath_pairing (pattern : Pattern) (exact : Bool) (path : Text) :
    ((∃ bound, pattern.matchPath exact path = .ok bound) ↔
        ∃ pairing, Pairs exact pattern.segments (path.splitOn separator) pairing) ∧
      (∀ left right, Pairs exact pattern.segments (path.splitOn separator) left →
        Pairs exact pattern.segments (path.splitOn separator) right → left = right) ∧
      (∀ bound pairing, pattern.matchPath exact path = .ok bound →
        Pairs exact pattern.segments (path.splitOn separator) pairing →
        bound.Represents (lastValue? pattern.segments pairing)) ∧
      ((¬ ∃ pairing, Pairs exact pattern.segments (path.splitOn separator) pairing) →
        ∃ mismatch, pattern.matchPath exact path = .error mismatch) := by
  have matched : (∃ bound, pattern.matchPath exact path = .ok bound) ↔
      ∃ pairing, Pairs exact pattern.segments (path.splitOn separator) pairing := by
    simp only [matchPath_eq_ok_iff]
    grind
  refine ⟨matched, fun left right => Pairs.unique, ?_, ?_⟩
  · intro bound pairing found pairs
    obtain ⟨other, otherPairs, rfl⟩ := (matchPath_eq_ok_iff ..).mp found
    rw [pairs.unique otherPairs]
    exact represents_lastValue? ..
  · intro unpaired
    cases outcome : pattern.matchPath exact path with
    | ok bound => exact absurd (matched.mp ⟨bound, outcome⟩) unpaired
    | error mismatch => exact ⟨mismatch, rfl⟩

end Pattern

end TypedPath
