import TypedPath.Proofs.Validator.Overlap
import TypedPath.Proofs.Value.Keyed

namespace TypedPath

namespace Value

def IsText (value : Value) : Prop := ∃ name, value = .text name

theorem isLawful_isText : IsLawful IsText := by
  constructor
  · rintro _ _ ⟨a, rfl⟩ ⟨b, rfl⟩ same
    rw [same_text, decide_eq_true_iff] at same ⊢
    exact same.symm
  · rintro _ _ _ ⟨a, rfl⟩ ⟨b, rfl⟩ ⟨c, rfl⟩ first second
    rw [same_text, decide_eq_true_iff] at first second ⊢
    exact first.trans second

section Keyed

variable {pairs : List (Text × Value)}

theorem keysWithin_keyed (pairs : List (Text × Value)) : KeysWithin IsText (keyed pairs) := by
  intro entry member
  obtain ⟨pair, _, rfl⟩ := List.mem_map.mp member
  exact ⟨pair.1, rfl⟩

theorem isMapping_keyed (nodup : (pairs.map Prod.fst).Nodup) : IsMapping (keyed pairs) := by
  constructor
  · rw [keyed, List.map_map, List.pairwise_map]
    refine (List.pairwise_map.mp nodup).imp fun apart => ?_
    exact (sameMember_text _ _).trans (decide_eq_false apart)
  · intro entry member
    obtain ⟨pair, _, rfl⟩ := List.mem_map.mp member
    exact (sameMember_text _ _).trans (decide_eq_true rfl)

theorem exists_eq_keyed {entries : List (Value × Value)} (texts : KeysWithin IsText entries) :
    ∃ pairs, entries = keyed pairs := by
  induction entries with
  | nil => exact ⟨[], rfl⟩
  | cons entry entries ih =>
    obtain ⟨⟨name, isName⟩, rest⟩ := List.forall_mem_cons.mp texts
    obtain ⟨pairs, rfl⟩ := ih rest
    exact ⟨(name, entry.2) :: pairs, congrArg (· :: keyed pairs) (Prod.ext isName rfl)⟩

end Keyed

end Value

namespace Merge

def Agree (left right : List (Text × Value)) : Prop :=
  ∀ name old new, left.lookup name = some old → right.lookup name = some new → old.same new = true

variable {left right : List (Text × Value)}

theorem agree_iff_entries (nodup : (right.map Prod.fst).Nodup) : Agree left right ↔
    ∀ b ∈ Value.keyed right, ∀ old, Value.find? b.1 (Value.keyed left) = some old → old.same b.2 = true := by
  constructor
  · intro agree b member old held
    obtain ⟨pair, inRight, rfl⟩ := List.mem_map.mp member
    rw [Value.find?_keyed] at held
    exact agree pair.1 old pair.2 held ((lookup_eq_some_iff_mem nodup).mpr inRight)
  · intro all name old new held found
    have inRight : (Value.text name, new) ∈ Value.keyed right :=
      List.mem_map.mpr ⟨(name, new), (lookup_eq_some_iff_mem nodup).mp found, rfl⟩
    exact all _ inRight old ((Value.find?_keyed name left).trans held)

theorem entries_keyed_issues (nodup : (right.map Prod.fst).Nodup) :
    (entries (Value.keyed left) (Value.keyed right)).2 = [] ↔ Agree left right := by
  have mapping := Value.isMapping_keyed nodup
  rw [entries_issues_eq_nil_iff Value.isLawful_isText (Value.keysWithin_keyed left) (Value.keysWithin_keyed right)
    mapping, agree_iff_entries nodup]

theorem exists_entries_keyed (left : List (Text × Value)) (nodup : (right.map Prod.fst).Nodup) :
    ∃ merged, (entries (Value.keyed left) (Value.keyed right)).1 = Value.keyed merged ∧
      ∀ name, merged.lookup name = (right.lookup name).or (left.lookup name) := by
  have leftWithin := Value.keysWithin_keyed left
  have rightWithin := Value.keysWithin_keyed right
  obtain ⟨merged, same⟩ := Value.exists_eq_keyed (keysWithin_entries leftWithin rightWithin)
  refine ⟨merged, same, fun name => ?_⟩
  rw [← Value.find?_keyed, ← Value.find?_keyed, ← Value.find?_keyed, ← same]
  exact find?_entries Value.isLawful_isText leftWithin rightWithin (Value.isMapping_keyed nodup) ⟨name, rfl⟩

theorem values_keyed_of_no_issues (nodup : (right.map Prod.fst).Nodup)
    (none : (entries (Value.keyed left) (Value.keyed right)).2 = []) :
    values (.map (Value.keyed left)) (.map (Value.keyed right)) =
      .ok (.map (entries (Value.keyed left) (Value.keyed right)).1) :=
  values_of_no_issues Value.isLawful_isText (Value.keysWithin_keyed left) (Value.keysWithin_keyed right)
    (Value.isMapping_keyed nodup) none

theorem values_keyed_of_agree (nodup : (right.map Prod.fst).Nodup) (agree : Agree left right) :
    ∃ merged, values (.map (Value.keyed left)) (.map (Value.keyed right)) = .ok (.map (Value.keyed merged)) ∧
      ∀ name, merged.lookup name = (right.lookup name).or (left.lookup name) := by
  obtain ⟨merged, all, lookup⟩ := exists_entries_keyed left nodup
  refine ⟨merged, ?_, lookup⟩
  rw [values_keyed_of_no_issues nodup ((entries_keyed_issues nodup).mpr agree), all]

theorem signals_keyed_of_texts (texts : (∀ pair ∈ left, pair.2.IsText) ∨ ∀ pair ∈ right, pair.2.IsText) :
    signals (Value.keyed left) (Value.keyed right) = false := by
  by_contra stopped
  obtain ⟨entry, member, old, held, signals⟩ := signals_eq_true_iff.mp (eq_true_of_ne_false stopped)
  obtain ⟨_, inKeyed, _, rfl⟩ := Value.exists_mem_of_find? held
  obtain ⟨pair, inLeft, rfl⟩ := List.mem_map.mp inKeyed
  obtain ⟨other, inRight, rfl⟩ := List.mem_map.mp member
  have calm : pair.2.signals other.2 = false := by
    rcases texts with texts | texts
    · obtain ⟨t, isText⟩ := texts pair inLeft
      rw [isText, Value.signals_text_left]
    · obtain ⟨t, isText⟩ := texts other inRight
      rw [isText, Value.signals_text_right]
  cases signals.symm.trans calm

theorem values_keyed_of_not_agree (nodup : (right.map Prod.fst).Nodup)
    (calm : signals (Value.keyed left) (Value.keyed right) = false) (clash : ¬ Agree left right) :
    ∃ issues, values (.map (Value.keyed left)) (.map (Value.keyed right)) = .error (.issues issues) := by
  have some : (entries (Value.keyed left) (Value.keyed right)).2 ≠ [] :=
    fun none => clash ((entries_keyed_issues nodup).mp none)
  rw [values_of_issues calm some]
  rcases conflicts_entries with told | ⟨⟨entry, member, long⟩, _⟩
  · exact ⟨_, told⟩
  · obtain ⟨pair, _, rfl⟩ := List.mem_map.mp member
    cases long

theorem entries_keyed_of_nodup (nodup : ((left ++ right).map Prod.fst).Nodup) :
    entries (Value.keyed left) (Value.keyed right) = (Value.keyed (left ++ right), []) := by
  induction right generalizing left with
  | nil => rw [List.append_nil]; rfl
  | cons pair right ih =>
    obtain ⟨name, value⟩ := pair
    have fresh : name ∉ left.map Prod.fst := by
      rw [List.map_append, List.nodup_append] at nodup
      exact fun held => nodup.2.2 name held name List.mem_cons_self rfl
    have apart : clash? (Value.keyed left) (.text name, value) = none := by
      unfold clash?
      rw [Value.find?_keyed, lookup_eq_none_of_not_mem fresh]
    have later : (((left ++ [(name, value)]) ++ right).map Prod.fst).Nodup := by
      rwa [List.append_assoc, List.singleton_append]
    show entries (Value.keyed left) ((.text name, value) :: Value.keyed right) = _
    rw [entries_cons, apart, Value.put_keyed fresh, ih later, List.append_assoc, List.singleton_append]
    rfl

theorem values_keyed_of_nodup (nodup : ((left ++ right).map Prod.fst).Nodup) :
    values (.map (Value.keyed left)) (.map (Value.keyed right)) = .ok (.map (Value.keyed (left ++ right))) := by
  have put := entries_keyed_of_nodup nodup
  have rightNodup : (right.map Prod.fst).Nodup := by
    rw [List.map_append] at nodup
    exact (List.nodup_append.mp nodup).2.1
  rw [values_keyed_of_no_issues rightNodup (by rw [put]), put]

end Merge

end TypedPath
