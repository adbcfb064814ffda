import Mathlib.Data.List.Pairwise
import TypedPath.Proofs.Schema.RecordFree
import TypedPath.Proofs.Value.Equality

namespace TypedPath

namespace Quantity

theorem same_comm (p q : Quantity) : p.same q = q.same p := by
  cases p <;> cases q <;> simp [same, Numeral.same, eq_comm]

theorem same_trans {p q r : Quantity} (first : p.same q = true) (second : q.same r = true) : p.same r = true := by
  cases p <;> cases q <;> cases r <;> simp_all [same, Numeral.same]

end Quantity

namespace Moment

theorem same_comm (m n : Moment) : m.same n = n.same m := by
  simp only [same, comparable, eq_comm]

theorem same_trans {m n o : Moment} (first : m.same n = true) (second : n.same o = true) : m.same o = true := by
  simp only [same, comparable, Bool.and_eq_true, decide_eq_true_eq] at *
  exact ⟨first.1.trans second.1, first.2.trans second.2⟩

end Moment

namespace Value

section Trans

variable {a b : Value}

theorem sameQuantity_trans {c : Value} (first : a.sameQuantity b = true) (second : b.same c = true) :
    a.sameQuantity c = true := by
  obtain ⟨p, q, isP, isQ, same⟩ := sameQuantity_iff.mp first
  rw [same_of_quantity isQ] at second
  obtain ⟨q', r, isQ', isR, alsoSame⟩ := sameQuantity_iff.mp second
  cases isQ.symm.trans isQ'
  exact sameQuantity_iff.mpr ⟨p, r, isP, isR, Quantity.same_trans same alsoSame⟩

end Trans

mutual

theorem same_trans : (a : Value) → {b c : Value} → a.same b = true → b.same c = true → a.same c = true
  | .none, b, c, first, second => by
    cases same_none_iff.mp first
    exact second
  | .text t, b, c, first, second => by
    cases same_text_left.mp first
    exact second
  | .uuid u, b, c, first, second => by
    cases same_uuid_iff.mp first
    exact second
  | .moment m, b, c, first, second => by
    obtain ⟨n, rfl, same⟩ := same_moment_iff.mp first
    obtain ⟨o, rfl, alsoSame⟩ := same_moment_iff.mp second
    exact same_moment_iff.mpr ⟨o, rfl, Moment.same_trans same alsoSame⟩
  | .bool _, b, c, first, second | .int _, b, c, first, second
  | .float (.finite _ _ _), b, c, first, second | .float (.infinite _), b, c, first, second
  | .float (.undefined _), b, c, first, second
  | .decimal (.finite _), b, c, first, second | .decimal (.infinite _), b, c, first, second
  | .decimal (.undefined _ _ _ _), b, c, first, second => by
    rw [same_of_quantity rfl] at first ⊢
    exact sameQuantity_trans first second
  | .list items, b, c, first, second => by
    obtain ⟨others, rfl, same⟩ := same_list_iff.mp first
    obtain ⟨more, rfl, alsoSame⟩ := same_list_iff.mp second
    exact same_list_iff.mpr ⟨more, rfl, sameItems_trans items same alsoSame⟩
  | .tuple items, b, c, first, second => by
    obtain ⟨others, rfl, same⟩ := same_tuple_iff.mp first
    obtain ⟨more, rfl, alsoSame⟩ := same_tuple_iff.mp second
    exact same_tuple_iff.mpr ⟨more, rfl, sameItems_trans items same alsoSame⟩
  | .set items frozen, b, c, first, second => by
    obtain ⟨others, _, rfl, length, same⟩ := same_set_iff.mp first
    obtain ⟨more, moreFrozen, rfl, moreLength, alsoSame⟩ := same_set_iff.mp second
    exact same_set_iff.mpr ⟨more, moreFrozen, rfl, length.trans moreLength, allIn_trans items same alsoSame⟩
  | .map entries, b, c, first, second => by
    obtain ⟨others, rfl, length, same⟩ := same_map_iff.mp first
    obtain ⟨more, rfl, moreLength, alsoSame⟩ := same_map_iff.mp second
    exact same_map_iff.mpr ⟨more, rfl, length.trans moreLength, allEntriesIn_trans entries same alsoSame⟩
  | .record r, b, c, first, second => by
    obtain ⟨s, rfl, same⟩ := same_record_iff.mp first
    obtain ⟨t, rfl, alsoSame⟩ := same_record_iff.mp second
    exact same_record_iff.mpr ⟨t, rfl, sameInstance_trans r same alsoSame⟩
termination_by structural a => a

theorem sameItems_trans : (items : List Value) → {others more : List Value} → sameItems items others = true →
    sameItems others more = true → sameItems items more = true
  | [], others, more, first, second => by
    cases others with
    | nil => exact second
    | cons => cases first
  | item :: items, others, more, first, second => by
    cases others with
    | nil => cases first
    | cons other others =>
      cases more with
      | nil => cases second
      | cons last more =>
        rw [sameItems_cons, Bool.and_eq_true] at *
        exact ⟨sameMember_trans (same_trans item) first.1 second.1, sameItems_trans items first.2 second.2⟩
termination_by structural items => items

theorem allIn_trans : (items : List Value) → {others more : List Value} → allIn items others = true →
    allIn others more = true → allIn items more = true
  | [], _, _, _, _ => rfl
  | item :: items, others, more, first, second => by
    rw [allIn, Bool.and_eq_true, List.any_eq_true] at *
    obtain ⟨⟨other, member, same⟩, rest⟩ := first
    obtain ⟨last, inMore, alsoSame⟩ := allIn_iff.mp second other member
    exact ⟨⟨last, inMore, sameMember_trans (same_trans item) same alsoSame⟩, allIn_trans items rest second⟩
termination_by structural items => items

theorem allEntriesIn_trans : (entries : List (Value × Value)) → {others more : List (Value × Value)} →
    allEntriesIn entries others = true → allEntriesIn others more = true → allEntriesIn entries more = true
  | [], _, _, _, _ => rfl
  | (key, value) :: entries, others, more, first, second => by
    rw [allEntriesIn, Bool.and_eq_true, List.any_eq_true] at *
    obtain ⟨⟨other, member, same⟩, rest⟩ := first
    rw [Bool.and_eq_true] at same
    obtain ⟨last, inMore, sameKey, sameValue⟩ := allEntriesIn_iff.mp second other member
    refine ⟨⟨last, inMore, Bool.and_eq_true_iff.mpr ⟨?_, ?_⟩⟩, allEntriesIn_trans entries rest second⟩
    · exact sameMember_trans (same_trans key) same.1 sameKey
    · exact sameMember_trans (same_trans value) same.2 sameValue
termination_by structural entries => entries

theorem sameInstance_trans : (r : Instance Value) → {s t : Instance Value} → sameInstance r s = true →
    sameInstance s t = true → sameInstance r t = true
  | ⟨_, _, _, slots⟩, ⟨_, _, _, others⟩, ⟨_, _, _, more⟩, first, second => by
    simp only [sameInstance, Bool.and_eq_true, decide_eq_true_eq] at *
    obtain ⟨⟨⟨name, marks⟩, length⟩, same⟩ := first
    obtain ⟨⟨⟨moreName, moreMarks⟩, moreLength⟩, alsoSame⟩ := second
    exact ⟨⟨⟨name.trans moreName, marks.trans moreMarks⟩, length.trans moreLength⟩,
      allSlotsIn_trans slots same alsoSame⟩
termination_by structural r => r

theorem allSlotsIn_trans : (slots : List (Slot Value)) → {others more : List (Slot Value)} →
    allSlotsIn slots others = true → allSlotsIn others more = true → allSlotsIn slots more = true
  | [], _, _, _, _ => rfl
  | ⟨name, value, _, _, declared⟩ :: slots, others, more, first, second => by
    rw [allSlotsIn, Bool.and_eq_true, List.any_eq_true] at *
    simp only [Bool.and_eq_true, decide_eq_true_eq] at *
    obtain ⟨⟨other, member, ⟨named, kind⟩, same⟩, rest⟩ := first
    obtain ⟨last, inMore, moreNamed, moreKind, alsoSame⟩ := allSlotsIn_iff.mp second other member
    have sameValue := sameMember_trans (same_trans value) same alsoSame
    exact ⟨⟨last, inMore, ⟨named.trans moreNamed, kind.trans moreKind⟩, sameValue⟩, allSlotsIn_trans slots rest second⟩
termination_by structural slots => slots

end

mutual

/-- A value as it is given from outside: no record is inside it, no set holds an item twice, and no mapping a key. -/
def isData : Value → Bool
  | .list items | .tuple items => allData items
  | .set items _ => decide (Distinct items) && allData items
  | .map entries => decide (Distinct (entries.map Prod.fst)) && entriesData entries
  | .record _ => false
  | _ => true
termination_by structural value => value

def allData : List Value → Bool
  | [] => true
  | item :: rest => item.isData && allData rest
termination_by structural items => items

def entriesData : List (Value × Value) → Bool
  | [] => true
  | (key, value) :: rest => key.isData && value.isData && entriesData rest
termination_by structural entries => entries

end

theorem allData_iff {items : List Value} : allData items = true ↔ ∀ item ∈ items, item.isData = true := by
  induction items with
  | nil => exact iff_of_true rfl (List.forall_mem_nil _)
  | cons item items ih => rw [allData, Bool.and_eq_true, ih, List.forall_mem_cons]

theorem entriesData_iff {entries : List (Value × Value)} :
    entriesData entries = true ↔ ∀ entry ∈ entries, entry.1.isData = true ∧ entry.2.isData = true := by
  induction entries with
  | nil => exact iff_of_true rfl (List.forall_mem_nil _)
  | cons entry entries ih => rw [entriesData, Bool.and_eq_true, Bool.and_eq_true, ih, List.forall_mem_cons]

theorem isData_map_iff {entries : List (Value × Value)} : (Value.map entries).isData = true ↔
    Distinct (entries.map Prod.fst) ∧ ∀ entry ∈ entries, entry.1.isData = true ∧ entry.2.isData = true := by
  rw [isData, Bool.and_eq_true, decide_eq_true_eq, entriesData_iff]

theorem isData_set_iff {items : List Value} {frozen : Bool} :
    (Value.set items frozen).isData = true ↔ Distinct items ∧ ∀ item ∈ items, item.isData = true := by
  rw [isData, Bool.and_eq_true, decide_eq_true_eq, allData_iff]

mutual

theorem isRecordFree_of_isData : (value : Value) → value.isData = true → value.isRecordFree = true
  | .list items, data | .tuple items, data => allRecordFree_of_allData items data
  | .set items _, data => allRecordFree_of_allData items (Bool.and_eq_true_iff.mp data).2
  | .map entries, data => entriesRecordFree_of_entriesData entries (Bool.and_eq_true_iff.mp data).2
  | .none, _ | .bool _, _ | .int _, _ | .float _, _ | .decimal _, _ | .text _, _ | .uuid _, _ | .moment _, _ => rfl
termination_by structural value => value

theorem allRecordFree_of_allData : (items : List Value) → allData items = true → allRecordFree items = true
  | [], _ => rfl
  | item :: rest, data => by
    rw [allData, Bool.and_eq_true] at data
    rw [allRecordFree, isRecordFree_of_isData item data.1, allRecordFree_of_allData rest data.2]
    rfl
termination_by structural items => items

theorem entriesRecordFree_of_entriesData : (entries : List (Value × Value)) → entriesData entries = true →
    entriesRecordFree entries = true
  | [], _ => rfl
  | (_, value) :: rest, data => by
    rw [entriesData, Bool.and_eq_true, Bool.and_eq_true] at data
    rw [entriesRecordFree, isRecordFree_of_isData value data.1.2, entriesRecordFree_of_entriesData rest data.2]
    rfl
termination_by structural entries => entries

end

end Value

/-- When each on the left has a partner of its own, none on the right is left over. -/
theorem exists_partner {α β : Type} {partners : α → β → Prop} {left : List α} {right : List β}
    (length : left.length = right.length) (each : ∀ a ∈ left, ∃ b ∈ right, partners a b)
    (own : left.Pairwise fun a a' => ∀ b, partners a b → ¬partners a' b) : ∀ b ∈ right, ∃ a ∈ left, partners a b := by
  induction left generalizing right with
  | nil =>
    cases right with
    | nil => exact List.forall_mem_nil _
    | cons => cases length
  | cons a left ih =>
    obtain ⟨⟨b, inRight, partner⟩, later⟩ := List.forall_mem_cons.mp each
    obtain ⟨apart, own⟩ := List.pairwise_cons.mp own
    obtain ⟨before, after, rfl⟩ := List.append_of_mem inRight
    -- the others find their partners among those that remain
    have remain : ∀ a' ∈ left, ∃ b' ∈ before ++ after, partners a' b' := by
      intro a' member
      obtain ⟨b', inRight', partner'⟩ := later a' member
      have differs : b' ≠ b := fun same => apart a' member b partner (same ▸ partner')
      exact ⟨b', by simpa [differs] using inRight', partner'⟩
    have fewer : left.length = (before ++ after).length := by
      simp only [List.length_cons, List.length_append] at length ⊢
      omega
    intro b' inRight'
    by_cases same : b' = b
    · exact ⟨a, List.mem_cons_self, same ▸ partner⟩
    · obtain ⟨a', member, partner'⟩ := ih fewer remain own b' (by simpa [same] using inRight')
      exact ⟨a', List.mem_cons_of_mem _ member, partner'⟩

namespace Value

theorem allIn_symm {items others : List Value} (distinct : Distinct items)
    (symm : ∀ item ∈ items, ∀ other : Value, item.same other = true → other.same item = true)
    (length : items.length = others.length) (all : allIn items others = true) : allIn others items = true := by
  have own : items.Pairwise fun a a' => ∀ b : Value, a.sameMember b = true → ¬a'.sameMember b = true := by
    refine List.Pairwise.imp_of_mem (fun {a a'} _ inItems apart b same same' => ?_) distinct
    rw [sameMember_trans (same_trans a) same (sameMember_symm (symm a' inItems b) same')] at apart
    cases apart
  refine allIn_iff.mpr fun other member => ?_
  obtain ⟨item, inItems, same⟩ := exists_partner length (allIn_iff.mp all) own other member
  exact ⟨item, inItems, sameMember_symm (symm item inItems other) same⟩

theorem allEntriesIn_symm {entries others : List (Value × Value)} (distinct : Distinct (entries.map Prod.fst))
    (symmKey : ∀ entry ∈ entries, ∀ other : Value, entry.1.same other = true → other.same entry.1 = true)
    (symm : ∀ entry ∈ entries, ∀ other : Value, entry.2.same other = true → other.same entry.2 = true)
    (length : entries.length = others.length) (all : allEntriesIn entries others = true) :
    allEntriesIn others entries = true := by
  have own : entries.Pairwise fun a a' => ∀ b : Value × Value,
      (a.1.sameMember b.1 = true ∧ a.2.sameMember b.2 = true) →
        ¬(a'.1.sameMember b.1 = true ∧ a'.2.sameMember b.2 = true) := by
    refine List.Pairwise.imp_of_mem (fun {a a'} _ inEntries apart b same same' => ?_) (List.pairwise_map.mp distinct)
    rw [sameMember_trans (same_trans a.1) same.1 (sameMember_symm (symmKey a' inEntries b.1) same'.1)] at apart
    cases apart
  refine allEntriesIn_iff.mpr fun other member => ?_
  obtain ⟨entry, inEntries, sameKey, same⟩ := exists_partner length (allEntriesIn_iff.mp all) own other member
  exact ⟨entry, inEntries, sameMember_symm (symmKey entry inEntries other.1) sameKey,
    sameMember_symm (symm entry inEntries other.2) same⟩

mutual

theorem same_symm : (a : Value) → a.isData = true → {b : Value} → a.same b = true → b.same a = true
  | .none, _, b, same => by
    cases same_none_iff.mp same
    rfl
  | .text t, _, b, same => by
    cases same_text_left.mp same
    exact same
  | .uuid u, _, b, same => by
    cases same_uuid_iff.mp same
    exact same
  | .moment m, _, b, same => by
    obtain ⟨n, rfl, same⟩ := same_moment_iff.mp same
    exact same_moment_iff.mpr ⟨m, rfl, Moment.same_comm m n ▸ same⟩
  | .bool _, _, b, same | .int _, _, b, same
  | .float (.finite _ _ _), _, b, same | .float (.infinite _), _, b, same | .float (.undefined _), _, b, same
  | .decimal (.finite _), _, b, same | .decimal (.infinite _), _, b, same
  | .decimal (.undefined _ _ _ _), _, b, same => by
    rw [same_of_quantity rfl] at same
    obtain ⟨p, q, isP, isQ, same⟩ := sameQuantity_iff.mp same
    rw [same_of_quantity isQ]
    exact sameQuantity_iff.mpr ⟨q, p, isQ, isP, Quantity.same_comm p q ▸ same⟩
  | .list items, data, b, same => by
    obtain ⟨others, rfl, same⟩ := same_list_iff.mp same
    exact same_list_iff.mpr ⟨items, rfl, sameItems_symm items data same⟩
  | .tuple items, data, b, same => by
    obtain ⟨others, rfl, same⟩ := same_tuple_iff.mp same
    exact same_tuple_iff.mpr ⟨items, rfl, sameItems_symm items data same⟩
  | .set items frozen, data, b, same => by
    rw [isData, Bool.and_eq_true, decide_eq_true_eq] at data
    obtain ⟨others, _, rfl, length, all⟩ := same_set_iff.mp same
    have symm := forall_same_symm items data.2
    exact same_set_iff.mpr ⟨items, frozen, rfl, length.symm, allIn_symm data.1 symm length all⟩
  | .map entries, data, b, same => by
    rw [isData, Bool.and_eq_true, decide_eq_true_eq] at data
    obtain ⟨others, rfl, length, all⟩ := same_map_iff.mp same
    have symm := forall_entry_same_symm entries data.2
    exact same_map_iff.mpr ⟨entries, rfl, length.symm, allEntriesIn_symm data.1
      (fun entry member => (symm entry member).1) (fun entry member => (symm entry member).2) length all⟩
termination_by structural a => a

theorem sameItems_symm : (items : List Value) → allData items = true → {others : List Value} →
    sameItems items others = true → sameItems others items = true
  | [], _, others, same => by
    cases others with
    | nil => rfl
    | cons => cases same
  | item :: items, data, others, same => by
    cases others with
    | nil => cases same
    | cons other others =>
      rw [allData, Bool.and_eq_true] at data
      rw [sameItems_cons, Bool.and_eq_true] at *
      exact ⟨sameMember_symm (same_symm item data.1) same.1, sameItems_symm items data.2 same.2⟩
termination_by structural items => items

theorem forall_same_symm : (items : List Value) → allData items = true →
    ∀ item ∈ items, ∀ other : Value, item.same other = true → other.same item = true
  | [], _ => List.forall_mem_nil _
  | item :: items, data => by
    rw [allData, Bool.and_eq_true] at data
    exact List.forall_mem_cons.mpr ⟨fun _ => same_symm item data.1, forall_same_symm items data.2⟩
termination_by structural items => items

theorem forall_entry_same_symm : (entries : List (Value × Value)) → entriesData entries = true →
    ∀ entry ∈ entries, (∀ other : Value, entry.1.same other = true → other.same entry.1 = true) ∧
      ∀ other : Value, entry.2.same other = true → other.same entry.2 = true
  | [], _ => List.forall_mem_nil _
  | (key, value) :: entries, data => by
    rw [entriesData, Bool.and_eq_true, Bool.and_eq_true] at data
    exact List.forall_mem_cons.mpr ⟨⟨fun _ => same_symm key data.1.1, fun _ => same_symm value data.1.2⟩,
      forall_entry_same_symm entries data.2⟩
termination_by structural entries => entries

end

theorem isRecordFree_of_sameMember {a b : Value} (ofSame : a.same b = true → b.isRecordFree = true → a.isRecordFree = true)
    (same : a.sameMember b = true) (free : b.isRecordFree = true) : a.isRecordFree = true := by
  rcases sameMember_iff.mp same with one | same
  · exact eq_of_isIdentical one ▸ free
  · exact ofSame same free

mutual

theorem isRecordFree_of_same : (a : Value) → {b : Value} → a.same b = true → b.isRecordFree = true →
    a.isRecordFree = true
  | .list items, b, same, free => by
    obtain ⟨others, rfl, same⟩ := same_list_iff.mp same
    exact allRecordFree_of_sameItems items same free
  | .tuple items, b, same, free => by
    obtain ⟨others, rfl, same⟩ := same_tuple_iff.mp same
    exact allRecordFree_of_sameItems items same free
  | .set items _, b, same, free => by
    obtain ⟨others, _, rfl, _, all⟩ := same_set_iff.mp same
    exact allRecordFree_of_allIn items all free
  | .map entries, b, same, free => by
    obtain ⟨others, rfl, _, all⟩ := same_map_iff.mp same
    exact entriesRecordFree_of_allEntriesIn entries all free
  | .record r, b, same, free => by
    obtain ⟨s, rfl, _⟩ := same_record_iff.mp same
    cases free
  | .none, _, _, _ | .bool _, _, _, _ | .int _, _, _, _ | .float _, _, _, _ | .decimal _, _, _, _ | .text _, _, _, _
  | .uuid _, _, _, _ | .moment _, _, _, _ => rfl
termination_by structural a => a

theorem allRecordFree_of_sameItems : (items : List Value) → {others : List Value} → sameItems items others = true →
    allRecordFree others = true → allRecordFree items = true
  | [], _, _, _ => rfl
  | item :: items, others, same, free => by
    cases others with
    | nil => cases same
    | cons other others =>
      rw [sameItems_cons, Bool.and_eq_true] at same
      rw [allRecordFree, Bool.and_eq_true] at *
      exact ⟨isRecordFree_of_sameMember (isRecordFree_of_same item) same.1 free.1,
        allRecordFree_of_sameItems items same.2 free.2⟩
termination_by structural items => items

theorem allRecordFree_of_allIn : (items : List Value) → {others : List Value} → allIn items others = true →
    allRecordFree others = true → allRecordFree items = true
  | [], _, _, _ => rfl
  | item :: items, others, all, free => by
    rw [allIn, Bool.and_eq_true, List.any_eq_true] at all
    obtain ⟨⟨other, member, same⟩, rest⟩ := all
    have here := isRecordFree_of_sameMember (isRecordFree_of_same item) same (allRecordFree_iff.mp free other member)
    rw [allRecordFree, here, allRecordFree_of_allIn items rest free]
    rfl
termination_by structural items => items

theorem entriesRecordFree_of_allEntriesIn : (entries : List (Value × Value)) → {others : List (Value × Value)} →
    allEntriesIn entries others = true → entriesRecordFree others = true → entriesRecordFree entries = true
  | [], _, _, _ => rfl
  | (key, value) :: entries, others, all, free => by
    rw [allEntriesIn, Bool.and_eq_true, List.any_eq_true] at all
    obtain ⟨⟨other, member, same⟩, rest⟩ := all
    have here := isRecordFree_of_sameMember (isRecordFree_of_same value) (Bool.and_eq_true_iff.mp same).2
      (entriesRecordFree_iff.mp free other member)
    rw [entriesRecordFree, here, entriesRecordFree_of_allEntriesIn entries rest free]
    rfl
termination_by structural entries => entries

end

end Value

end TypedPath
