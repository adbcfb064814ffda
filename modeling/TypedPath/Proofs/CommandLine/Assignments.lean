import TypedPath.CommandLine.Run
import TypedPath.Proofs.Pattern.Bindings

namespace TypedPath

namespace Text

theorem after?_eq_some_iff {start text rest : Text} : after? start text = some rest ↔ text = start ++ rest := by
  unfold after?
  split
  · rename_i begins
    obtain ⟨tail, rfl⟩ := List.isPrefixOf_iff_prefix.mp begins
    rw [List.drop_left, Option.some.injEq, List.append_cancel_left_eq]
  · rename_i other
    refine iff_of_false nofun fun same => other (List.isPrefixOf_iff_prefix.mpr ⟨rest, same.symm⟩)

theorem cut?_eq_some_iff {separator : Char} {text left right : Text} :
    cut? separator text = some (left, right) ↔ separator ∉ left ∧ text = left ++ separator :: right := by
  induction text generalizing left with
  | nil =>
    refine iff_of_false nofun fun h => ?_
    exact absurd h.2.symm (List.append_ne_nil_of_right_ne_nil left (List.cons_ne_nil _ _))
  | cons c text ih =>
    rw [cut?]
    split
    · rename_i same
      subst same
      cases left with
      | nil => simp [eq_comm]
      | cons first left =>
        refine iff_of_false (by simp) fun h => ?_
        obtain ⟨rfl, _⟩ := List.cons.inj h.2
        exact h.1 List.mem_cons_self
    · rename_i other
      cases left with
      | nil =>
        refine iff_of_false (by simp) fun h => ?_
        exact other (List.cons.inj h.2).1
      | cons first left =>
        simp only [Option.map_eq_some_iff, Prod.exists, Prod.mk.injEq, List.cons.injEq, List.mem_cons, not_or,
          List.cons_append]
        constructor
        · intro h
          obtain ⟨_, _, found, ⟨rfl, rfl⟩, rfl⟩ := h
          obtain ⟨absent, rfl⟩ := ih.mp found
          exact ⟨⟨Ne.symm other, absent⟩, rfl, rfl⟩
        · intro h
          obtain ⟨⟨_, absent⟩, rfl, rfl⟩ := h
          exact ⟨left, right, ih.mpr ⟨absent, rfl⟩, ⟨rfl, rfl⟩, rfl⟩

end Text

namespace CommandLine

def IsAssignment (argument : Text) : Prop :=
  ∃ name text, argument = name ++ '=' :: text ∧ name ≠ [] ∧ '=' ∉ name

def valueFor? (name argument : Text) : Option Text :=
  if '=' ∈ name then none else Text.after? (name ++ ['=']) argument

def lastValue? (arguments : List Text) (name : Text) : Option Text :=
  arguments.reverse.findSome? (valueFor? name)

variable {name text argument : Text} {arguments : List Text}

theorem valueFor?_eq_some_iff :
    valueFor? name argument = some text ↔ '=' ∉ name ∧ argument = name ++ '=' :: text := by
  unfold valueFor?
  split
  · rename_i inside
    exact iff_of_false nofun fun h => h.1 inside
  · rename_i outside
    rw [Text.after?_eq_some_iff, List.append_assoc, List.singleton_append]
    exact ⟨fun same => ⟨outside, same⟩, And.right⟩

theorem assignment?_eq_some_iff :
    assignment? argument = some (name, text) ↔ argument = name ++ '=' :: text ∧ name ≠ [] ∧ '=' ∉ name := by
  unfold assignment?
  constructor
  · intro found
    split at found
    · cases found
    · rename_i other
      obtain ⟨absent, rfl⟩ := Text.cut?_eq_some_iff.mp found
      refine ⟨rfl, fun empty => ?_, absent⟩
      subst empty
      exact other text found
  · intro h
    obtain ⟨rfl, filled, absent⟩ := h
    rw [Text.cut?_eq_some_iff.mpr ⟨absent, rfl⟩]
    split
    · rename_i same
      cases same
      exact absurd rfl filled
    · rfl

theorem isSome_assignment?_iff : (assignment? argument).isSome ↔ IsAssignment argument := by
  rw [Option.isSome_iff_exists, Prod.exists]
  simp only [assignment?_eq_some_iff]
  rfl

instance (argument : Text) : Decidable (IsAssignment argument) :=
  decidable_of_iff _ isSome_assignment?_iff

theorem lastValue?_cons (argument : Text) (arguments : List Text) (name : Text) :
    lastValue? (argument :: arguments) name = (lastValue? arguments name).or (valueFor? name argument) := by
  unfold lastValue?
  rw [List.reverse_cons, List.findSome?_append, List.findSome?_singleton]

theorem valueFor?_of_assignment? (found : assignment? argument = some (name, text)) (other : Text) :
    valueFor? other argument = if other = name then some text else none := by
  obtain ⟨written, _, absent⟩ := assignment?_eq_some_iff.mp found
  split
  · rename_i same
    rw [same]
    exact valueFor?_eq_some_iff.mpr ⟨absent, written⟩
  · rename_i apart
    rw [Option.eq_none_iff_forall_ne_some]
    intro value given
    obtain ⟨outside, same⟩ := valueFor?_eq_some_iff.mp given
    have first := Text.cut?_eq_some_iff.mpr ⟨absent, written⟩
    rw [Text.cut?_eq_some_iff.mpr ⟨outside, same⟩] at first
    cases first
    exact apart rfl

theorem assignments_of_all (all : ∀ argument ∈ arguments, IsAssignment argument) {given : Bindings}
    {value? : Text → Option Text} (represents : given.Represents value?) :
    ∃ bound, assignments given arguments = .ok bound ∧
      bound.Represents fun name => (lastValue? arguments name).or (value? name) := by
  induction arguments generalizing given value? with
  | nil => exact ⟨given, rfl, represents⟩
  | cons argument arguments ih =>
    rw [List.forall_mem_cons] at all
    obtain ⟨name, text, parts⟩ := all.1
    have found := assignment?_eq_some_iff.mpr parts
    obtain ⟨bound, read, holds⟩ := ih all.2 (represents.bind name text)
    refine ⟨bound, ?_, holds.nodup, fun other => (holds.lookup_eq other).trans ?_⟩
    · rw [assignments, found]
      exact read
    · rw [lastValue?_cons, valueFor?_of_assignment? found, Option.or_assoc]
      split <;> rfl

theorem assignments_of_not_all (some : ¬ ∀ argument ∈ arguments, IsAssignment argument) (given : Bindings) :
    ∃ argument, assignments given arguments = .error argument := by
  induction arguments generalizing given with
  | nil => exact absurd (by simp) some
  | cons argument arguments ih =>
    rw [assignments]
    cases found : assignment? argument with
    | none => exact ⟨argument, rfl⟩
    | some pair =>
      apply ih
      intro rest
      have first : IsAssignment argument := ⟨pair.1, pair.2, assignment?_eq_some_iff.mp found⟩
      exact some (List.forall_mem_cons.mpr ⟨first, rest⟩)

end CommandLine

end TypedPath
