import TypedPath.Proofs.Value.Keyed

namespace TypedPath.Value

/-- Among these values, sameness goes both ways and carries over. A value may differ from itself. -/
structure IsLawful (among : Value → Prop) : Prop where
  symm {a b : Value} : among a → among b → a.same b = true → b.same a = true
  trans {a b c : Value} : among a → among b → among c → a.same b = true → b.same c = true → a.same c = true

def Distinct (values : List Value) : Prop := values.Pairwise fun a b => a.sameMember b = false

instance (values : List Value) : Decidable (Distinct values) :=
  inferInstanceAs (Decidable (values.Pairwise fun a b => a.sameMember b = false))

structure IsMapping (entries : List (Value × Value)) : Prop where
  distinct : (entries.map Prod.fst).Pairwise fun a b => a.sameMember b = false
  found : ∀ entry ∈ entries, entry.1.sameMember entry.1 = true

def KeysWithin (among : Value → Prop) (entries : List (Value × Value)) : Prop := ∀ entry ∈ entries, among entry.1

theorem IsMapping.tail {entry : Value × Value} {entries : List (Value × Value)}
    (mapping : IsMapping (entry :: entries)) : IsMapping entries :=
  ⟨mapping.distinct.tail, fun other member => mapping.found other (List.mem_cons_of_mem _ member)⟩

theorem IsMapping.head {entry : Value × Value} {entries : List (Value × Value)}
    (mapping : IsMapping (entry :: entries)) {other : Value × Value} (member : other ∈ entries) :
    entry.1.sameMember other.1 = false :=
  (List.pairwise_cons.mp mapping.distinct).1 other.1 (List.mem_map_of_mem member)

section Find

variable {key value other : Value} {entries : List (Value × Value)}

theorem find?_cons (entry : Value × Value) :
    find? key (entry :: entries) = if entry.1.sameMember key then some entry.2 else find? key entries := rfl

theorem put_cons (entry : Value × Value) :
    put key value (entry :: entries) =
      if entry.1.sameMember key then (entry.1, value) :: entries else entry :: put key value entries := rfl

theorem exists_mem_of_find? (held : find? key entries = some value) :
    ∃ entry ∈ entries, entry.1.sameMember key = true ∧ entry.2 = value := by
  induction entries with
  | nil => cases held
  | cons entry entries ih =>
    rw [find?_cons] at held
    split at held
    · rename_i same
      exact ⟨entry, List.mem_cons_self, same, Option.some.inj held⟩
    · obtain ⟨later, member, same⟩ := ih held
      exact ⟨later, List.mem_cons_of_mem _ member, same⟩

theorem find?_eq_none (apart : ∀ entry ∈ entries, entry.1.sameMember key = false) :
    find? key entries = Option.none := by
  cases held : find? key entries with
  | none => rfl
  | some value =>
    obtain ⟨entry, member, same, _⟩ := exists_mem_of_find? held
    rw [apart entry member] at same
    cases same

theorem map_fst_put : (put key value entries).map Prod.fst =
    if (entries.map Prod.fst).any (·.sameMember key) then entries.map Prod.fst else entries.map Prod.fst ++ [key] := by
  induction entries with
  | nil => rfl
  | cons entry entries ih =>
    rw [put_cons, List.map_cons, List.any_cons]
    cases same : entry.1.sameMember key with
    | true => rfl
    | false =>
      simp only [Bool.false_eq_true, ite_false, Bool.false_or, List.map_cons, ih]
      split <;> rfl

theorem KeysWithin.put {among : Value → Prop} (within : KeysWithin among entries) (inKey : among key) :
    KeysWithin among (put key value entries) := by
  induction entries with
  | nil => exact List.forall_mem_singleton.mpr inKey
  | cons entry entries ih =>
    obtain ⟨head, tail⟩ := List.forall_mem_cons.mp within
    rw [put_cons]
    split
    · exact List.forall_mem_cons.mpr ⟨head, tail⟩
    · exact List.forall_mem_cons.mpr ⟨head, ih tail⟩

theorem forall_put {P : Value → Prop} (each : ∀ entry ∈ entries, P entry.2) (new : P value) :
    ∀ entry ∈ put key value entries, P entry.2 := by
  induction entries with
  | nil => exact List.forall_mem_singleton.mpr new
  | cons entry entries ih =>
    obtain ⟨first, later⟩ := List.forall_mem_cons.mp each
    rw [put_cons]
    split
    · exact List.forall_mem_cons.mpr ⟨new, later⟩
    · exact List.forall_mem_cons.mpr ⟨first, ih later⟩

end Find

section Lawful

variable {among : Value → Prop} (lawful : IsLawful among) {key value other : Value}
  {entries : List (Value × Value)}

include lawful

theorem IsLawful.symmMember {a b : Value} (inA : among a) (inB : among b) (same : a.sameMember b = true) :
    b.sameMember a = true :=
  sameMember_symm (lawful.symm inA inB) same

theorem IsLawful.transMember {a b c : Value} (inA : among a) (inB : among b) (inC : among c)
    (first : a.sameMember b = true) (second : b.sameMember c = true) : a.sameMember c = true :=
  sameMember_trans (lawful.trans inA inB inC) first second

theorem IsLawful.comm {a b : Value} (inA : among a) (inB : among b) : a.sameMember b = b.sameMember a :=
  Bool.eq_iff_iff.mpr ⟨lawful.symmMember inA inB, lawful.symmMember inB inA⟩

theorem IsLawful.same_left {a b c : Value} (inA : among a) (inB : among b) (inC : among c)
    (same : a.sameMember b = true) : a.sameMember c = b.sameMember c := by
  apply Bool.eq_iff_iff.mpr
  constructor
  · exact fun left => lawful.transMember inB inA inC (lawful.symmMember inA inB same) left
  · exact fun right => lawful.transMember inA inB inC same right

theorem IsLawful.same_right {a b c : Value} (inA : among a) (inB : among b) (inC : among c)
    (same : a.sameMember b = true) : c.sameMember a = c.sameMember b := by
  rw [lawful.comm inC inA, lawful.comm inC inB, lawful.same_left inA inB inC same]

theorem find?_put (within : KeysWithin among entries) (inKey : among key) (inOther : among other) :
    find? other (put key value entries) = if key.sameMember other then some value else find? other entries := by
  induction entries with
  | nil => rfl
  | cons entry entries ih =>
    obtain ⟨inEntry, rest⟩ := List.forall_mem_cons.mp within
    rw [put_cons, find?_cons]
    cases same : entry.1.sameMember key with
    | true =>
      rw [if_pos rfl, find?_cons, lawful.same_left inEntry inKey inOther same]
      cases key.sameMember other <;> rfl
    | false =>
      rw [if_neg Bool.false_ne_true, find?_cons, ih rest]
      cases here : entry.1.sameMember other with
      | false => rfl
      | true =>
        have apart : key.sameMember other = false := by
          rw [lawful.comm inKey inOther, ← lawful.same_left inEntry inOther inKey here, same]
        simp [apart]

theorem IsMapping.find?_of_same (mapping : IsMapping entries) (within : KeysWithin among entries) (inKey : among key)
    {entry : Value × Value} (member : entry ∈ entries) (same : entry.1.sameMember key = true) :
    find? key entries = some entry.2 := by
  induction entries with
  | nil => cases member
  | cons first entries ih =>
    obtain ⟨inFirst, rest⟩ := List.forall_mem_cons.mp within
    rw [find?_cons]
    rcases List.mem_cons.mp member with rfl | later
    · rw [same, if_pos rfl]
    · have differs : first.1.sameMember key = false := by
        rw [← lawful.same_right (rest entry later) inKey inFirst same]
        exact mapping.head later
      rw [differs, if_neg Bool.false_ne_true]
      exact ih mapping.tail rest later

end Lawful

def firstKeys : List Value → List Value
  | [] => []
  | key :: keys => key :: (firstKeys keys).filter fun other => !key.sameMember other

def lastValue? (key : Value) : List (List (Value × Value)) → Option Value
  | [] => Option.none
  | entries :: later => (lastValue? key later).or (find? key entries)

section First

variable {keys left right : List Value}

theorem mem_of_mem_firstKeys {key : Value} (member : key ∈ firstKeys keys) : key ∈ keys := by
  induction keys with
  | nil => cases member
  | cons first keys ih =>
    rcases List.mem_cons.mp member with rfl | later
    · exact List.mem_cons_self
    · exact List.mem_cons_of_mem _ (ih (List.mem_filter.mp later).1)

theorem pairwise_firstKeys : (firstKeys keys).Pairwise fun a b => a.sameMember b = false := by
  induction keys with
  | nil => exact List.Pairwise.nil
  | cons first keys ih =>
    refine List.Pairwise.cons ?_ (ih.filter _)
    intro other member
    simpa using (List.mem_filter.mp member).2

theorem firstKeys_of_pairwise (distinct : keys.Pairwise fun a b => a.sameMember b = false) : firstKeys keys = keys := by
  induction keys with
  | nil => rfl
  | cons first keys ih =>
    obtain ⟨apart, distinct⟩ := List.pairwise_cons.mp distinct
    have all : ∀ other ∈ keys, (!first.sameMember other) = true := by
      intro other member
      rw [apart other member]
      rfl
    rw [firstKeys, ih distinct, List.filter_eq_self.mpr all]

theorem firstKeys_append : firstKeys (left ++ right) =
    firstKeys left ++ (firstKeys right).filter fun key => !left.any (·.sameMember key) := by
  induction left with
  | nil => exact (List.filter_eq_self.mpr fun _ _ => rfl).symm
  | cons first left ih =>
    have tests : ∀ key : Value,
        ((!first.sameMember key) && !left.any (·.sameMember key)) = !(first :: left).any (·.sameMember key) := by
      intro key
      rw [List.any_cons, Bool.not_or]
    rw [List.cons_append, firstKeys, ih, List.filter_append, List.filter_filter, firstKeys, List.cons_append]
    simp only [tests]

theorem any_firstKeys {among : Value → Prop} (lawful : IsLawful among) (within : ∀ key ∈ keys, among key)
    {key : Value} (inKey : among key) : (firstKeys keys).any (·.sameMember key) = keys.any (·.sameMember key) := by
  apply Bool.eq_iff_iff.mpr
  rw [List.any_eq_true, List.any_eq_true]
  constructor
  · rintro ⟨other, member, same⟩
    exact ⟨other, mem_of_mem_firstKeys member, same⟩
  · rintro ⟨other, member, same⟩
    induction keys with
    | nil => cases member
    | cons first keys ih =>
      obtain ⟨inFirst, rest⟩ := List.forall_mem_cons.mp within
      rcases List.mem_cons.mp member with rfl | later
      · exact ⟨other, List.mem_cons_self, same⟩
      · obtain ⟨kept, inKept, sameKept⟩ := ih rest later
        cases held : first.sameMember kept with
        | true =>
          exact ⟨first, List.mem_cons_self,
            lawful.transMember inFirst (rest kept (mem_of_mem_firstKeys inKept)) inKey held sameKept⟩
        | false =>
          exact ⟨kept, List.mem_cons_of_mem _ (List.mem_filter.mpr ⟨inKept, by rw [held]; rfl⟩), sameKept⟩

end First

section Last

variable {key value : Value} {outputs left right : List (List (Value × Value))}

theorem lastValue?_append : lastValue? key (left ++ right) = (lastValue? key right).or (lastValue? key left) := by
  induction left with
  | nil => simp [lastValue?]
  | cons entries left ih => rw [List.cons_append, lastValue?, ih, lastValue?, Option.or_assoc]

theorem exists_mem_of_lastValue? (held : lastValue? key outputs = some value) :
    ∃ entries ∈ outputs, ∃ entry ∈ entries, entry.1.sameMember key = true ∧ entry.2 = value := by
  induction outputs with
  | nil => cases held
  | cons entries outputs ih =>
    rcases Option.or_eq_some_iff.mp held with later | ⟨_, here⟩
    · obtain ⟨found, member, whose⟩ := ih later
      exact ⟨found, List.mem_cons_of_mem _ member, whose⟩
    · exact ⟨entries, List.mem_cons_self, exists_mem_of_find? here⟩

end Last

end TypedPath.Value
