import TypedPath.Proofs.Value.Sameness

namespace TypedPath

namespace Value

mutual

/-- The value with nothing told of the records among the items of lists and the values of mappings. -/
def outline : Value → Value
  | .list items => .list (outlineItems items)
  | .map entries => .map (outlineEntries entries)
  | .record _ => .record ⟨[], [], [], []⟩
  | value => value
termination_by structural value => value

def outlineItems : List Value → List Value
  | [] => []
  | item :: rest => item.outline :: outlineItems rest
termination_by structural items => items

def outlineEntries : List (Value × Value) → List (Value × Value)
  | [] => []
  | (key, value) :: rest => (key, value.outline) :: outlineEntries rest
termination_by structural entries => entries

end

theorem outlineItems_eq_map (items : List Value) : outlineItems items = items.map outline := by
  induction items with
  | nil => rfl
  | cons item items ih => rw [outlineItems, ih, List.map_cons]

theorem outlineEntries_eq_map (entries : List (Value × Value)) :
    outlineEntries entries = entries.map fun entry => (entry.1, entry.2.outline) := by
  induction entries with
  | nil => rfl
  | cons entry entries ih => rw [outlineEntries, ih, List.map_cons]

theorem outline_list_map {items : List Value} {f : Value → Value}
    (each : ∀ item ∈ items, (f item).outline = item.outline) :
    (Value.list (items.map f)).outline = (Value.list items).outline := by
  rw [outline, outline, outlineItems_eq_map, outlineItems_eq_map, List.map_map]
  exact congrArg list (List.map_congr_left each)

theorem outline_map_map {entries : List (Value × Value)} {f : Value × Value → Value}
    (each : ∀ entry ∈ entries, (f entry).outline = entry.2.outline) :
    (Value.map (entries.map fun entry => (entry.1, f entry))).outline = (Value.map entries).outline := by
  rw [outline, outline, outlineEntries_eq_map, outlineEntries_eq_map, List.map_map]
  exact congrArg map (List.map_congr_left fun entry member => congrArg (entry.1, ·) (each entry member))

theorem outline_keyed (pairs : List (Text × Value)) : (Value.map (keyed pairs)).outline =
    .map (keyed (pairs.map fun pair => (pair.1, pair.2.outline))) := by
  rw [outline, outlineEntries_eq_map]
  unfold keyed
  rw [List.map_map, List.map_map]
  rfl

theorem length?_outline (u : Value) : u.outline.length? = u.length? := by
  cases u with
  | list items => exact congrArg some (by rw [outlineItems_eq_map, List.length_map])
  | map entries => exact congrArg some (by rw [outlineEntries_eq_map, List.length_map])
  | _ => rfl

theorem sameMember_outline {b u : Value} (same : b.same u.outline = b.same u) :
    b.sameMember u.outline = b.sameMember u := by
  have one : b.isIdentical u.outline = b.isIdentical u := by
    cases b with
    | float x | decimal x => cases x <;> cases u <;> rfl
    | _ => rfl
  rw [sameMember, sameMember, one, same]

theorem outline_sameMember {u b : Value} (same : u.outline.same b = u.same b) :
    u.outline.sameMember b = u.sameMember b := by
  have one : u.outline.isIdentical b = u.isIdentical b := by cases u <;> rfl
  rw [sameMember, sameMember, one, same]

mutual

/-- A value without records is the same as another one if it is the same as its outline. -/
theorem same_outline : (b : Value) → b.isRecordFree = true → (u : Value) → b.same u.outline = b.same u
  | .list items, free, u => by
    cases u with
    | list others => exact sameItems_outline items free others
    | _ => rfl
  | .map entries, free, u => by
    cases u with
    | map others =>
      have length : (outlineEntries others).length = others.length := by
        rw [outlineEntries_eq_map, List.length_map]
      show (_ && _) = (_ && _)
      rw [length, allEntriesIn_outline entries free others]
    | _ => rfl
  | .record _, free, _ => by cases free
  | .none, _, u | .bool _, _, u | .int _, _, u | .float _, _, u | .decimal _, _, u | .text _, _, u | .uuid _, _, u
  | .moment _, _, u | .tuple _, _, u | .set _ _, _, u => by cases u <;> rfl
termination_by structural b => b

theorem sameItems_outline : (items : List Value) → allRecordFree items = true → (others : List Value) →
    sameItems items (outlineItems others) = sameItems items others
  | [], _, others => by cases others <;> rfl
  | item :: items, free, others => by
    rw [allRecordFree, Bool.and_eq_true] at free
    cases others with
    | nil => rfl
    | cons other others =>
      rw [outlineItems, sameItems_cons, sameItems_cons, sameMember_outline (same_outline item free.1 other),
        sameItems_outline items free.2]
termination_by structural items => items

theorem allEntriesIn_outline : (entries : List (Value × Value)) → entriesRecordFree entries = true →
    (others : List (Value × Value)) → allEntriesIn entries (outlineEntries others) = allEntriesIn entries others
  | [], _, _ => rfl
  | (key, value) :: entries, free, others => by
    rw [entriesRecordFree, Bool.and_eq_true] at free
    rw [allEntriesIn, allEntriesIn, allEntriesIn_outline entries free.2, outlineEntries_eq_map, List.any_map]
    refine congrArg (· && _) (congrArg others.any (funext fun other => ?_))
    exact congrArg (_ && ·) (sameMember_outline (same_outline value free.1 other.2))
termination_by structural entries => entries

end

mutual

theorem outline_same : (u : Value) → (b : Value) → b.isRecordFree = true → u.outline.same b = u.same b
  | .list items, b, free => by
    cases b with
    | list others => exact outlineItems_same items others free
    | _ => rfl
  | .map entries, b, free => by
    cases b with
    | map others =>
      have length : (outlineEntries entries).length = entries.length := by
        rw [outlineEntries_eq_map, List.length_map]
      show (_ && _) = (_ && _)
      rw [length, outlineEntries_allIn entries others free]
    | _ => rfl
  | .record _, b, free => by
    cases b with
    | record => cases free
    | _ => rfl
  | .none, _, _ | .bool _, _, _ | .int _, _, _ | .float _, _, _ | .decimal _, _, _ | .text _, _, _ | .uuid _, _, _
  | .moment _, _, _ | .tuple _, _, _ | .set _ _, _, _ => rfl
termination_by structural u => u

theorem outlineItems_same : (items others : List Value) → allRecordFree others = true →
    sameItems (outlineItems items) others = sameItems items others
  | [], _, _ => rfl
  | item :: items, others, free => by
    cases others with
    | nil => rfl
    | cons other others =>
      rw [allRecordFree, Bool.and_eq_true] at free
      rw [outlineItems, sameItems_cons, sameItems_cons, outline_sameMember (outline_same item other free.1),
        outlineItems_same items others free.2]
termination_by structural items => items

theorem outlineEntries_allIn : (entries others : List (Value × Value)) → entriesRecordFree others = true →
    allEntriesIn (outlineEntries entries) others = allEntriesIn entries others
  | [], _, _ => rfl
  | (key, value) :: entries, others, free => by
    rw [outlineEntries, allEntriesIn, allEntriesIn, outlineEntries_allIn entries others free]
    refine congrArg (· && _) (Bool.eq_iff_iff.mpr ?_)
    rw [List.any_eq_true, List.any_eq_true]
    refine exists_congr fun other => and_congr_right fun member => ?_
    have same := outline_sameMember (outline_same value other.2 (entriesRecordFree_iff.mp free other member))
    exact Bool.eq_iff_iff.mp (congrArg (_ && ·) same)
termination_by structural entries => entries

end

mutual

theorem ordered?_outline (strict : Bool) : (b : Value) → b.isRecordFree = true → (u : Value) →
    b.ordered? strict u.outline = b.ordered? strict u
  | .list items, free, u => by
    cases u with
    | list others => exact itemsOrdered?_outline strict items free others
    | _ => rfl
  | .record _, free, _ => by cases free
  | .map _, _, u | .none, _, u | .bool _, _, u | .int _, _, u | .float _, _, u | .decimal _, _, u | .text _, _, u
  | .uuid _, _, u | .moment _, _, u | .tuple _, _, u | .set _ _, _, u => by cases u <;> rfl
termination_by structural b => b

theorem itemsOrdered?_outline (strict : Bool) : (items : List Value) → allRecordFree items = true →
    (others : List Value) → itemsOrdered? strict items (outlineItems others) = itemsOrdered? strict items others
  | [], _, others => by cases others <;> rfl
  | item :: items, free, others => by
    rw [allRecordFree, Bool.and_eq_true] at free
    cases others with
    | nil => rfl
    | cons other others =>
      rw [outlineItems, itemsOrdered?, itemsOrdered?, sameMember_outline (same_outline item free.1 other),
        ordered?_outline strict item free.1, itemsOrdered?_outline strict items free.2]
termination_by structural items => items

end

mutual

theorem outline_ordered? (strict : Bool) : (u : Value) → (b : Value) → b.isRecordFree = true →
    u.outline.ordered? strict b = u.ordered? strict b
  | .list items, b, free => by
    cases b with
    | list others => exact outlineItems_ordered? strict items others free
    | _ => rfl
  | .record _, b, _ | .map _, b, _ => by cases b <;> rfl
  | .none, _, _ | .bool _, _, _ | .int _, _, _ | .float _, _, _ | .decimal _, _, _ | .text _, _, _ | .uuid _, _, _
  | .moment _, _, _ | .tuple _, _, _ | .set _ _, _, _ => rfl
termination_by structural u => u

theorem outlineItems_ordered? (strict : Bool) : (items others : List Value) → allRecordFree others = true →
    itemsOrdered? strict (outlineItems items) others = itemsOrdered? strict items others
  | [], _, _ => rfl
  | item :: items, others, free => by
    cases others with
    | nil => rfl
    | cons other others =>
      rw [allRecordFree, Bool.and_eq_true] at free
      rw [outlineItems, itemsOrdered?, itemsOrdered?, outline_sameMember (outline_same item other free.1),
        outline_ordered? strict item other free.1, outlineItems_ordered? strict items others free.2]
termination_by structural items => items

end

end Value

namespace Limit

variable {value u w bound : Value} {limits : List Limit}

def isRecordFree : Limit → Bool
  | .above bound | .least bound | .below bound | .most bound => bound.isRecordFree
  | .shortest _ | .longest _ => true

theorem inapplicable_ne_ok_none {name : Text} : inapplicable name value ≠ .ok none := by
  unfold inapplicable
  split <;> exact nofun

theorem compared_eq_ok_none_iff {name : Text} {kept : Option Bool} {problem : Text → Problem} :
    compared name value bound kept problem = .ok none ↔ kept = some true := by
  unfold compared
  split
  · exact iff_of_true rfl rfl
  · exact iff_of_false nofun nofun
  · exact iff_of_false inapplicable_ne_ok_none nofun
  · refine iff_of_false ?_ nofun
    split
    · exact nofun
    · exact inapplicable_ne_ok_none

theorem counted_eq_ok_none_iff {name : Text} {keeps : Nat → Bool} {problem : Nat → Problem} :
    counted name value keeps problem = .ok none ↔ value.length?.any keeps = true := by
  unfold counted
  cases value.length? with
  | none => exact iff_of_false inapplicable_ne_ok_none nofun
  | some n => cases kept : keeps n <;> simp [kept]

/-- The outline of a value tells whether it keeps a limit. -/
theorem check_outline {limit : Limit} (free : limit.isRecordFree = true) (u : Value) :
    limit.check u.outline = .ok none ↔ limit.check u = .ok none := by
  cases limit with
  | above bound | least bound =>
    simp only [check, compared_eq_ok_none_iff, Value.ordered?_outline _ bound free]
  | below bound | most bound =>
    simp only [check, compared_eq_ok_none_iff, Value.outline_ordered? _ u bound free]
  | shortest length | longest length => simp only [check, counted_eq_ok_none_iff, Value.length?_outline]

theorem checkAll_eq_ok_none_iff :
    checkAll value limits = .ok none ↔ ∀ limit ∈ limits, limit.check value = .ok none := by
  induction limits with
  | nil => exact iff_of_true rfl (List.forall_mem_nil _)
  | cons limit limits ih =>
    rw [List.forall_mem_cons, ← ih, checkAll]
    cases checked : limit.check value with
    | error breakdown => exact iff_of_false nofun (fun both => nomatch both.1)
    | ok result =>
      cases result with
      | none => exact (and_iff_right rfl).symm
      | some problem => exact iff_of_false nofun (fun both => nomatch both.1)

theorem checkAll_of_outline (free : ∀ limit ∈ limits, limit.isRecordFree = true) (alike : w.outline = u.outline)
    (kept : checkAll u limits = .ok none) : checkAll w limits = .ok none := by
  rw [checkAll_eq_ok_none_iff] at *
  intro limit member
  rw [← check_outline (free limit member), alike, check_outline (free limit member)]
  exact kept limit member

end Limit

end TypedPath
