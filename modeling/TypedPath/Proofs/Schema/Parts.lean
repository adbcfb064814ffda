import TypedPath.Proofs.Schema.Record
import TypedPath.Proofs.Value.Lookup

namespace TypedPath

namespace Limits

structure Admits (limits : Limits) (n : Nat) : Prop where
  least : ∀ least, limits.shortest = some least → least ≤ n
  most : ∀ most, limits.longest = some most → n ≤ most

variable {limits : Limits} {counted : Counted} {n : Nat} {found : Option Nat}

theorem tooFew?_eq_none_iff :
    limits.tooFew? counted n = none ↔ ∀ least, limits.shortest = some least → least ≤ n := by
  unfold tooFew?
  cases limits.shortest with
  | none => exact iff_of_true rfl nofun
  | some least => simp

theorem tooMany?_eq_none_iff :
    limits.tooMany? counted n found = none ↔ ∀ most, limits.longest = some most → n ≤ most := by
  unfold tooMany?
  cases limits.longest with
  | none => exact iff_of_true rfl nofun
  | some most => simp

end Limits

theorem validateItems_eq_ok_iff {validate : Value → Outcome Value} {items results : List Value} :
    validateItems validate items = .ok results ↔ items.map validate = results.map .ok := by
  rw [validateItems, Outcome.gather_eq_ok_iff]
  generalize 0 = start
  induction items generalizing results start with
  | nil => cases results <;> simp
  | cons item items ih =>
    cases results with
    | nil => simp
    | cons result results =>
      simp only [List.zipIdx_cons, List.map_cons, List.cons.injEq, ih, Outcome.within_eq_ok_iff]

section Items

variable {validate : Value → Outcome Value} {ofAnything : Bool} {limits : Limits} {value v : Value} {items : List Value}

theorem readItems_eq_ok_iff : readItems validate ofAnything limits value items = .ok v ↔
    ∃ results, items.map validate = results.map .ok ∧ limits.Admits items.length ∧ v = .list results := by
  constructor
  · intro read
    unfold readItems at read
    dsimp only at read
    split at read
    · cases read
    · cases read
    · cases read
    · rename_i _ _ results gathered unproblematic
      split at read
      · cases read
      · rename_i few
        cases read
        have many : limits.tooMany? .list items.length value.length? = none := by
          split at unproblematic
          · exact (Option.or_eq_none_iff.mp unproblematic).2
          · exact unproblematic
        have fits := Limits.tooMany?_eq_none_iff.mp many
        -- so no item was left unread
        have all : validateItems validate items = .ok results := by
          split at gathered
          · rename_i most longest
            rwa [List.take_of_length_le (Nat.le_succ_of_le (fits most longest))] at gathered
          · exact gathered
        exact ⟨results, validateItems_eq_ok_iff.mp all, ⟨Limits.tooFew?_eq_none_iff.mp few, fits⟩, rfl⟩
  · rintro ⟨results, each, admits, rfl⟩
    have all := validateItems_eq_ok_iff.mpr each
    have few : limits.tooFew? .list items.length = none := Limits.tooFew?_eq_none_iff.mpr admits.least
    have many : limits.tooMany? .list items.length value.length? = none := Limits.tooMany?_eq_none_iff.mpr admits.most
    have taken : ∀ most, limits.longest = some most → items.take (most + 1) = items :=
      fun most longest => List.take_of_length_le (Nat.le_succ_of_le (admits.most most longest))
    unfold readItems
    dsimp only
    rw [few, many]
    cases longest : limits.longest with
    | none =>
      dsimp only
      rw [all]
      cases takesWhole ofAnything value <;> rfl
    | some most =>
      dsimp only
      rw [taken most longest, all]
      cases takesWhole ofAnything value <;> rfl

end Items

namespace Value

theorem distinct_append_iff {values : List Value} {value : Value} :
    Distinct (values ++ [value]) ↔ Distinct values ∧ ∀ earlier ∈ values, earlier.sameMember value = false := by
  unfold Distinct
  rw [List.pairwise_append]
  simp

theorem distinct_put {key value : Value} {entries : List (Value × Value)}
    (distinct : Distinct (entries.map Prod.fst)) : Distinct ((put key value entries).map Prod.fst) := by
  rw [map_fst_put]
  split
  · exact distinct
  · rename_i fresh
    rw [Bool.not_eq_true, List.any_eq_false] at fresh
    exact distinct_append_iff.mpr ⟨distinct, fun earlier member => Bool.not_eq_true _ ▸ fresh earlier member⟩

theorem put_fresh {key value : Value} {entries : List (Value × Value)}
    (fresh : ∀ entry ∈ entries, entry.1.sameMember key = false) : put key value entries = entries ++ [(key, value)] := by
  induction entries with
  | nil => rfl
  | cons entry entries ih =>
    obtain ⟨first, later⟩ := List.forall_mem_cons.mp fresh
    rw [put_cons, first, ih later]
    rfl

end Value

section Entries

variable {limits : Limits} {whole v : Value} {built results : List (Value × Value)} {found : List Issue}
  {outcomes : List (Outcome (Value × Value))}

/-- What was put together from entries: no two keys are the same, and every key and every value comes from one. -/
structure PutTogether (limits : Limits) (keys values : Value → Prop) (built : List (Value × Value)) : Prop where
  distinct : Value.Distinct (built.map Prod.fst)
  key : ∀ entry ∈ built, entry.1.isHashable = true ∧ keys entry.1
  value : ∀ entry ∈ built, values entry.2
  most : ∀ most, limits.longest = some most → built.length ≤ most

theorem PutTogether.of_putEntries {keys values : Value → Prop} (start : PutTogether limits keys values built)
    (each : ∀ entry, .ok entry ∈ outcomes → keys entry.1 ∧ values entry.2)
    (put : putEntries limits whole built found outcomes = .ok results) : PutTogether limits keys values results := by
  fun_induction putEntries limits whole built found outcomes with
  | case1 =>
    cases put
    exact start
  | case2 => cases put
  | case3 => cases put
  | case4 _ _ _ _ ih => exact ih start (fun entry member => each entry (List.mem_cons_of_mem _ member)) put
  | case5 => cases put
  | case6 => cases put
  | case7 built _ key value rest hashable _ fits ih =>
    obtain ⟨isKey, isValue⟩ := each (key, value) List.mem_cons_self
    have hashes : key.isHashable = true := by rw [Value.isHashable, hashable]; rfl
    refine ih ⟨Value.distinct_put start.distinct, ?_, Value.forall_put start.value isValue, ?_⟩
      (fun entry member => each entry (List.mem_cons_of_mem _ member)) put
    · have within : Value.KeysWithin (fun key => key.isHashable = true ∧ keys key) built := start.key
      exact within.put ⟨hashes, isKey⟩
    · exact Limits.tooMany?_eq_none_iff.mp fits

/-- Entries under distinct keys are put together in their order. -/
theorem putEntries_of_distinct (distinct : Value.Distinct ((built ++ results).map Prod.fst))
    (hashable : ∀ entry ∈ results, entry.1.isHashable = true)
    (fits : ∀ most, limits.longest = some most → (built ++ results).length ≤ most) :
    putEntries limits whole built [] (results.map .ok) = .ok (built ++ results) := by
  induction results generalizing built with
  | nil => rw [List.append_nil]; rfl
  | cons entry results ih =>
    obtain ⟨key, value⟩ := entry
    obtain ⟨hashes, later⟩ := List.forall_mem_cons.mp hashable
    have unhashable : key.unhashable? = none := Option.isNone_iff_eq_none.mp hashes
    have fresh : ∀ entry ∈ built, entry.1.sameMember key = false := by
      intro earlier member
      rw [List.map_append, Value.Distinct, List.pairwise_append] at distinct
      exact distinct.2.2 earlier.1 (List.mem_map_of_mem member) key List.mem_cons_self
    have few : limits.tooMany? .mapping (built ++ [(key, value)]).length none = none := by
      refine Limits.tooMany?_eq_none_iff.mpr fun most longest => le_trans ?_ (fits most longest)
      simp only [List.length_append, List.length_cons, List.length_nil]
      omega
    have reassociated : built ++ (key, value) :: results = (built ++ [(key, value)]) ++ results := by
      rw [List.append_assoc, List.singleton_append]
    rw [reassociated] at distinct fits ⊢
    rw [List.map_cons, putEntries, unhashable]
    dsimp only
    rw [Value.put_fresh fresh, few]
    exact ih distinct later fits

variable {key item : Value → Outcome Value} {entries : List (Value × Value)}

theorem validateEntry_eq_ok_iff {entry result : Value × Value} :
    validateEntry key item entry = .ok result ↔ key entry.1 = .ok result.1 ∧ item entry.2 = .ok result.2 := by
  unfold validateEntry
  rw [Outcome.both_eq_ok_iff, Outcome.within_eq_ok_iff, Outcome.within_eq_ok_iff, Outcome.within_eq_ok_iff]

theorem exists_of_readEntries (read : readEntries key item limits whole entries = .ok v) :
    ∃ built, v = .map built ∧ limits.Admits built.length ∧
      PutTogether limits (fun k => ∃ entry ∈ entries, key entry.1 = .ok k)
        (fun w => ∃ entry ∈ entries, item entry.2 = .ok w) built := by
  unfold readEntries at read
  cases put : putEntries limits whole [] [] (entries.map (validateEntry key item)) with
  | error setback =>
    rw [put] at read
    cases read
  | ok built =>
    rw [put] at read
    dsimp only [Except.bind] at read
    split at read
    · cases read
    · rename_i few
      cases read
      have start : PutTogether limits (fun k => ∃ entry ∈ entries, key entry.1 = .ok k)
          (fun w => ∃ entry ∈ entries, item entry.2 = .ok w) [] :=
        ⟨List.Pairwise.nil, List.forall_mem_nil _, List.forall_mem_nil _, fun _ _ => Nat.zero_le _⟩
      have together := start.of_putEntries (fun entry member => by
        obtain ⟨original, inside, validates⟩ := List.mem_map.mp member
        obtain ⟨keyOk, itemOk⟩ := validateEntry_eq_ok_iff.mp validates
        exact ⟨⟨original, inside, keyOk⟩, ⟨original, inside, itemOk⟩⟩) put
      exact ⟨built, rfl, ⟨Limits.tooFew?_eq_none_iff.mp few, together.most⟩, together⟩

theorem readEntries_of_distinct (each : entries.map (validateEntry key item) = results.map .ok)
    (distinct : Value.Distinct (results.map Prod.fst)) (hashable : ∀ entry ∈ results, entry.1.isHashable = true)
    (admits : limits.Admits results.length) : readEntries key item limits whole entries = .ok (.map results) := by
  have put : putEntries limits whole [] [] (results.map .ok) = .ok results :=
    putEntries_of_distinct distinct hashable admits.most
  unfold readEntries
  rw [each, put]
  dsimp only [Except.bind]
  rw [Limits.tooFew?_eq_none_iff.mpr admits.least]

end Entries

end TypedPath
