import TypedPath.Proofs.Schema.Record

namespace TypedPath

namespace Numeral

theorem withoutTrailingZeros_value (n : Nat) (place : Int) (fuel : Nat) :
    place ≤ (withoutTrailingZeros n place fuel).2 ∧
      (withoutTrailingZeros n place fuel).1 * 10 ^ ((withoutTrailingZeros n place fuel).2 - place).toNat = n := by
  induction fuel generalizing n place with
  | zero => simp [withoutTrailingZeros]
  | succ fuel ih =>
    rw [withoutTrailingZeros]
    split
    · rename_i trailing
      obtain ⟨later, value⟩ := ih (n / 10) (place + 1)
      generalize withoutTrailingZeros (n / 10) (place + 1) fuel = result at later value
      have places : (result.2 - place).toNat = (result.2 - (place + 1)).toNat + 1 := by omega
      rw [places, pow_succ, ← mul_assoc, value]
      exact ⟨by omega, Nat.div_mul_cancel (Nat.dvd_of_mod_eq_zero trailing.2)⟩
    · simp

/-- An integer is told by the one form that all numerals for it share. -/
theorem eq_of_same_ofInt {n k : Int} (same : (ofInt n).same (ofInt k) = true) : n = k := by
  have reduced : (ofInt n).reduced = (ofInt k).reduced := of_decide_eq_true same
  have value (n : Int) : (ofInt n).reduced.coefficient * 10 ^ (ofInt n).reduced.exponent.toNat = n.natAbs := by
    unfold Numeral.reduced ofInt
    split
    · rename_i zero
      simpa using zero.symm
    · simpa using (withoutTrailingZeros_value n.natAbs 0 _).2
  have negative (n : Int) : (ofInt n).reduced.negative = decide (n < 0) := by
    unfold Numeral.reduced ofInt
    split
    · rename_i zero
      simp only at zero
      exact (decide_eq_false (by omega)).symm
    · rfl
  have size : n.natAbs = k.natAbs := by rw [← value n, ← value k, reduced]
  have sign : decide (n < 0) = decide (k < 0) := by rw [← negative n, ← negative k, reduced]
  rw [decide_eq_decide] at sign
  omega

end Numeral

namespace Reading

variable {choices : List Value} {value c : Value}

def isExact : Value → Bool
  | .bool _ => true
  | value => isPlain value

theorem eq_of_alike (exactly : isExact value = true) (alike : value.alike c = true) : c = value := by
  unfold Value.alike at alike
  rw [Bool.and_eq_true, decide_eq_true_eq] at alike
  obtain ⟨kinds, same⟩ := alike
  cases value with
  | text t => exact Value.same_text_left.mp same
  | bool b =>
    cases c with
    | bool b' => cases b <;> cases b' <;> first | rfl | exact absurd same (by decide)
    | int | float | decimal => cases kinds
    | _ => cases same
  | int n =>
    cases c with
    | int k => exact congrArg Value.int (Numeral.eq_of_same_ofInt same).symm
    | bool | float | decimal => cases kinds
    | _ => cases same
  | _ => cases exactly

theorem alike_self (exactly : isExact value = true) : value.alike value = true := by
  unfold Value.alike
  rw [Bool.and_eq_true]
  refine ⟨decide_eq_true rfl, ?_⟩
  cases value with
  | text t => exact Value.same_text_left.mpr rfl
  | bool b => exact decide_eq_true rfl
  | int n => exact decide_eq_true rfl
  | _ => cases exactly

theorem exactChoice?_eq : exactChoice? choices value = if isExact value then choices.find? value.alike else none := by
  cases value <;> rfl

theorem exactChoice?_self (exactly : isExact c = true) (member : c ∈ choices) : exactChoice? choices c = some c := by
  rw [exactChoice?_eq, if_pos exactly]
  cases found : choices.find? c.alike with
  | none => exact absurd (alike_self exactly) (by simpa using List.find?_eq_none.mp found c member)
  | some first => rw [eq_of_alike exactly (List.find?_some found)]

theorem latestSame?_eq_some_iff :
    latestSame? among value = some c ↔ value.isHashable = true ∧ among.reverse.find? value.same = some c := by
  unfold latestSame?
  split <;> simp [*]

theorem sameChoice?_eq : sameChoice? choices value =
    ((latestSame? ((choices.filter Value.isHashable).filter fun choice => !isPlain choice) value).or
      ((choices.filter fun choice => !choice.isHashable).find? value.same)).or
      (latestSame? ((choices.filter Value.isHashable).filter isPlain) value) := by
  unfold sameChoice?
  simp only [List.partition_eq_filter_filter]
  rfl

theorem literal_eq_ok_iff : literal choices value = .ok c ↔
    isBeyond choices value = false ∧ (exactChoice? choices value).or (sameChoice? choices value) = some c := by
  unfold literal
  cases isBeyond choices value with
  | true => exact iff_of_false nofun (fun both => nomatch both.1)
  | false => cases (exactChoice? choices value).or (sameChoice? choices value) <;> simp

theorem eq_of_exactChoice? (found : exactChoice? choices value = some c) : isExact value = true ∧ c = value := by
  rw [exactChoice?_eq] at found
  split at found
  · rename_i exactly
    exact ⟨exactly, eq_of_alike exactly (List.find?_some found)⟩
  · cases found

theorem same_of_sameChoice? (found : sameChoice? choices value = some c) : value.same c = true := by
  have ofLatest {among : List Value} (found : latestSame? among value = some c) : value.same c = true :=
    List.find?_some (latestSame?_eq_some_iff.mp found).2
  rw [sameChoice?_eq] at found
  rcases Option.or_eq_some_iff.mp found with found | ⟨_, plain⟩
  · rcases Option.or_eq_some_iff.mp found with others | ⟨_, mutable⟩
    · exact ofLatest others
    · exact List.find?_some mutable
  · exact ofLatest plain

theorem same_of_literal (read : literal choices value = .ok c) : value.same c = true := by
  rcases Option.or_eq_some_iff.mp (literal_eq_ok_iff.mp read).2 with exactly | ⟨_, same⟩
  · obtain ⟨exactly, rfl⟩ := eq_of_exactChoice? exactly
    exact (Bool.and_eq_true_iff.mp (alike_self exactly)).2
  · exact same_of_sameChoice? same

theorem mem_of_literal (read : literal choices value = .ok c) : c ∈ choices := by
  have ofLatest {among : List Value} (found : latestSame? among value = some c) : c ∈ among :=
    List.mem_reverse.mp (List.mem_of_find?_eq_some (latestSame?_eq_some_iff.mp found).2)
  rcases Option.or_eq_some_iff.mp (literal_eq_ok_iff.mp read).2 with exactly | ⟨_, same⟩
  · rw [exactChoice?_eq] at exactly
    split at exactly
    · exact List.mem_of_find?_eq_some exactly
    · cases exactly
  · rw [sameChoice?_eq] at same
    rcases Option.or_eq_some_iff.mp same with same | ⟨_, plain⟩
    · rcases Option.or_eq_some_iff.mp same with fixed | ⟨_, mutable⟩
      · exact List.mem_of_mem_filter (List.mem_of_mem_filter (ofLatest fixed))
      · exact List.mem_of_mem_filter (List.mem_of_find?_eq_some mutable)
    · exact List.mem_of_mem_filter (List.mem_of_mem_filter (ofLatest plain))

end Reading

end TypedPath
