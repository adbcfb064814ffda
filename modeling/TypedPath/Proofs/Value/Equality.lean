import TypedPath.Proofs.Value.Keyed

namespace TypedPath.Value

variable {a b : Value}

attribute [local simp] same signals sameQuantity quantity?

theorem same_none_iff : Value.none.same b = true ↔ b = .none := by
  cases b <;> simp

theorem same_uuid_iff {u : Uuid} : (Value.uuid u).same b = true ↔ b = .uuid u := by
  cases b <;> simp [eq_comm]

theorem same_moment_iff {m : Moment} : (Value.moment m).same b = true ↔ ∃ n, b = .moment n ∧ m.same n = true := by
  cases b <;> simp

theorem same_list_iff {items : List Value} :
    (Value.list items).same b = true ↔ ∃ others, b = .list others ∧ sameItems items others = true := by
  cases b <;> simp

theorem same_tuple_iff {items : List Value} :
    (Value.tuple items).same b = true ↔ ∃ others, b = .tuple others ∧ sameItems items others = true := by
  cases b <;> simp

theorem same_set_iff {items : List Value} {frozen : Bool} : (Value.set items frozen).same b = true ↔
    ∃ others otherFrozen, b = .set others otherFrozen ∧ items.length = others.length ∧ allIn items others = true := by
  cases b <;> simp

theorem same_map_iff {entries : List (Value × Value)} : (Value.map entries).same b = true ↔
    ∃ others, b = .map others ∧ entries.length = others.length ∧ allEntriesIn entries others = true := by
  cases b <;> simp

theorem same_record_iff {r : Instance Value} :
    (Value.record r).same b = true ↔ ∃ s, b = .record s ∧ sameInstance r s = true := by
  cases b <;> simp

theorem same_of_quantity {p : Quantity} (counts : a.quantity? = some p) : a.same b = a.sameQuantity b := by
  cases a with
  | bool | int | float | decimal => cases b <;> rfl
  | _ => cases counts

theorem allIn_iff {items others : List Value} :
    allIn items others = true ↔ ∀ item ∈ items, ∃ other ∈ others, item.sameMember other = true := by
  induction items with
  | nil => exact iff_of_true rfl (List.forall_mem_nil _)
  | cons item items ih =>
    rw [allIn, Bool.and_eq_true, ih, List.forall_mem_cons, List.any_eq_true]
    rfl

theorem allEntriesIn_iff {entries others : List (Value × Value)} : allEntriesIn entries others = true ↔
    ∀ entry ∈ entries, ∃ other ∈ others, entry.1.sameMember other.1 = true ∧ entry.2.sameMember other.2 = true := by
  induction entries with
  | nil => exact iff_of_true rfl (List.forall_mem_nil _)
  | cons entry entries ih =>
    rw [allEntriesIn, Bool.and_eq_true, ih, List.forall_mem_cons, List.any_eq_true]
    simp only [Bool.and_eq_true]
    rfl

theorem allSlotsIn_iff {slots others : List (Slot Value)} : allSlotsIn slots others = true ↔
    ∀ slot ∈ slots, ∃ other ∈ others,
      slot.name = other.name ∧ slot.declared = other.declared ∧ slot.value.sameMember other.value = true := by
  induction slots with
  | nil => exact iff_of_true rfl (List.forall_mem_nil _)
  | cons slot slots ih =>
    rw [allSlotsIn, Bool.and_eq_true, ih, List.forall_mem_cons, List.any_eq_true]
    simp only [Bool.and_eq_true, decide_eq_true_eq, and_assoc]
    rfl

theorem sameQuantity_iff : a.sameQuantity b = true ↔
    ∃ p q, a.quantity? = some p ∧ b.quantity? = some q ∧ p.same q = true := by
  unfold sameQuantity
  cases a.quantity? <;> cases b.quantity? <;> simp

theorem sameItems_cons {item other : Value} {items others : List Value} :
    sameItems (item :: items) (other :: others) = (item.sameMember other && sameItems items others) := rfl

-- Where the answer is that two values are the same, no comparison was stopped.

theorem signals_of_quantity {p : Quantity} (counts : a.quantity? = some p) : a.signals b = a.quantitiesSignal b := by
  cases a with
  | bool | int | float | decimal => cases b <;> rfl
  | _ => cases counts

theorem signals_text_left (t : Text) (b : Value) : (text t).signals b = false := by
  cases b <;> simp [quantitiesSignal]

theorem signals_text_right (a : Value) (t : Text) : a.signals (.text t) = false := by
  cases a <;> simp [quantitiesSignal]

theorem quantity?_of_isSignalling (signals : a.isSignalling = true) : a.quantity? = some .undefined := by
  cases a with
  | decimal d =>
    cases d with
    | undefined => rfl
    | _ => cases signals
  | _ => cases signals

theorem quantitiesSignal_of_sameQuantity (same : a.sameQuantity b = true) : a.quantitiesSignal b = false := by
  obtain ⟨p, q, isP, isQ, same⟩ := sameQuantity_iff.mp same
  have left : a.isSignalling = false := by
    by_contra signals
    cases isP.symm.trans (quantity?_of_isSignalling (eq_true_of_ne_false signals))
    cases same
  have right : b.isSignalling = false := by
    by_contra signals
    cases isQ.symm.trans (quantity?_of_isSignalling (eq_true_of_ne_false signals))
    cases p <;> cases same
  rw [quantitiesSignal, left, right, Bool.or_false, Bool.and_false]

theorem itemsSignal_of_sameItems {items others : List Value} (same : sameItems items others = true) :
    itemsSignal items others = false := by
  induction items generalizing others with
  | nil => rfl
  | cons item items ih =>
    cases others with
    | nil => rfl
    | cons other others =>
      rw [sameItems_cons, Bool.and_eq_true] at same
      rw [itemsSignal, if_pos same.1, ih same.2]

theorem entriesSignal_of_allEntriesIn {entries others : List (Value × Value)} (all : allEntriesIn entries others = true) :
    entriesSignal entries others = false := by
  induction entries with
  | nil => rfl
  | cons entry entries ih =>
    obtain ⟨key, value⟩ := entry
    rw [allEntriesIn, Bool.and_eq_true] at all
    rw [entriesSignal]
    exact (if_pos all.1).trans (ih all.2)

theorem slotsSignal_of_allSlotsIn {slots others : List (Slot Value)} (all : allSlotsIn slots others = true)
    (fields : Bool) : slotsSignal fields slots others = false := by
  induction slots with
  | nil => rfl
  | cons slot slots ih =>
    obtain ⟨name, value, _, _, declared⟩ := slot
    rw [allSlotsIn, Bool.and_eq_true] at all
    have found : (others.any fun slot => decide (name = slot.name) && decide (declared = slot.declared) &&
        sameMember value slot.value) = true := all.1
    rw [slotsSignal, found, Bool.not_true, Bool.and_false, if_neg Bool.false_ne_true, ih all.2]

theorem instanceSignals_of_sameInstance {r s : Instance Value} (same : sameInstance r s = true) :
    instanceSignals r s = false := by
  obtain ⟨name, marks, supplied, slots⟩ := r
  rw [sameInstance, Bool.and_eq_true] at same
  rw [instanceSignals, slotsSignal_of_allSlotsIn same.2, slotsSignal_of_allSlotsIn same.2, Bool.and_false, Bool.or_false,
    Bool.and_false]

theorem signals_of_same (same : a.same b = true) : a.signals b = false := by
  cases a with
  | none => cases same_none_iff.mp same; rfl
  | text t => exact signals_text_left t b
  | uuid u => cases same_uuid_iff.mp same; rfl
  | moment m =>
    obtain ⟨n, rfl, _⟩ := same_moment_iff.mp same
    rfl
  | bool | int =>
    rw [same_of_quantity rfl] at same
    rw [signals_of_quantity rfl, quantitiesSignal_of_sameQuantity same]
  | float x =>
    obtain ⟨p, counts⟩ : ∃ p, (float x).quantity? = some p := by cases x <;> exact ⟨_, rfl⟩
    rw [same_of_quantity counts] at same
    rw [signals_of_quantity counts, quantitiesSignal_of_sameQuantity same]
  | decimal d =>
    obtain ⟨p, counts⟩ : ∃ p, (decimal d).quantity? = some p := by cases d <;> exact ⟨_, rfl⟩
    rw [same_of_quantity counts] at same
    rw [signals_of_quantity counts, quantitiesSignal_of_sameQuantity same]
  | list items =>
    obtain ⟨others, rfl, same⟩ := same_list_iff.mp same
    rw [signals, itemsSignal_of_sameItems same, Bool.and_false]
  | tuple items =>
    obtain ⟨others, rfl, same⟩ := same_tuple_iff.mp same
    rw [signals, itemsSignal_of_sameItems same]
  | set =>
    obtain ⟨others, _, rfl, _⟩ := same_set_iff.mp same
    rfl
  | map entries =>
    obtain ⟨others, rfl, _, all⟩ := same_map_iff.mp same
    rw [signals, entriesSignal_of_allEntriesIn all, Bool.and_false]
  | record r =>
    obtain ⟨s, rfl, same⟩ := same_record_iff.mp same
    rw [signals, instanceSignals_of_sameInstance same]

end TypedPath.Value
