import Mathlib.Algebra.Ring.Nat
import Mathlib.Data.List.TakeWhile
import TypedPath.Text.Blank

namespace TypedPath.Text

theorem ofNat_ne_nil (n : Nat) : ofNat n ≠ [] :=
  Nat.toDigits_ne_nil

theorem isDigit_of_mem_ofNat {n : Nat} {c : Char} (member : c ∈ ofNat n) : c.isDigit = true :=
  Nat.isDigit_of_mem_toDigits (by decide) (by decide) member

theorem head?_ofNat_ne_zero {n : Nat} (positive : 0 < n) : (ofNat n).head? ≠ some '0' := by
  unfold ofNat
  induction n using Nat.strongRecOn with
  | ind n ih =>
    by_cases small : n < 10
    · rw [Nat.toDigits_of_lt_base small]
      simp only [List.head?_cons, ne_eq, Option.some.injEq, Nat.digitChar_eq_zero]
      omega
    · have front := ih (n / 10) (by omega) (by omega)
      rw [Nat.toDigits_of_base_le (by decide) (by omega), List.head?_append]
      cases leading : (Nat.toDigits 10 (n / 10)).head? with
      | none => exact absurd (List.head?_eq_none_iff.mp leading) Nat.toDigits_ne_nil
      | some c => rwa [leading] at front

theorem ofNat_zero : ofNat 0 = ['0'] :=
  Nat.toDigits_zero 10

theorem length_ofNat_le {n width : Nat} (positive : 0 < width) (bound : n < 10 ^ width) :
    (ofNat n).length ≤ width :=
  (Nat.length_toDigits_le_iff (by decide) positive).mpr bound

theorem toNat?_of_digits {digits : Text} (filled : digits ≠ []) (plain : ∀ c ∈ digits, c.isDigit = true) :
    toNat? digits = some (Nat.ofDigitChars 10 digits 0) :=
  if_pos ⟨filled, List.all_eq_true.mpr plain⟩

theorem toNat?_ofNat (n : Nat) : toNat? (ofNat n) = some n := by
  rw [toNat?_of_digits (ofNat_ne_nil n) fun c => isDigit_of_mem_ofNat]
  exact congrArg some Nat.ofDigitChars_ten_toDigits

theorem toNat?_eq_some_iff {digits : Text} {n : Nat} :
    toNat? digits = some n ↔
      digits ≠ [] ∧ (∀ c ∈ digits, c.isDigit = true) ∧ Nat.ofDigitChars 10 digits 0 = n := by
  unfold toNat?
  split
  · rename_i run
    rw [Option.some.injEq]
    exact ⟨fun value => ⟨run.1, List.all_eq_true.mp run.2, value⟩, fun parts => parts.2.2⟩
  · rename_i other
    apply iff_of_false (by simp)
    intro h
    obtain ⟨filled, plain, _⟩ := h
    exact other ⟨filled, List.all_eq_true.mpr plain⟩

theorem toNat_of_isDigit {c : Char} (digit : c.isDigit = true) : 48 ≤ c.toNat ∧ c.toNat ≤ 57 := by
  simp only [Char.isDigit, Bool.and_eq_true, decide_eq_true_eq, UInt32.le_iff_toNat_le] at digit
  exact digit

theorem ofDigitChars_lt {digits : Text} (plain : ∀ c ∈ digits, c.isDigit = true) (start : Nat) :
    Nat.ofDigitChars 10 digits start < 10 ^ digits.length * (start + 1) := by
  induction digits generalizing start with
  | nil => simp [Nat.ofDigitChars_nil]
  | cons c rest ih =>
    have digit := toNat_of_isDigit (plain c List.mem_cons_self)
    have value : '0'.toNat = 48 := rfl
    rw [Nat.ofDigitChars_cons, List.length_cons, Nat.pow_succ, Nat.mul_assoc]
    apply Nat.lt_of_lt_of_le (ih (fun c member => plain c (List.mem_cons_of_mem _ member)) _)
    exact Nat.mul_le_mul_left _ (by omega)

theorem toNat?_lt {digits : Text} {n : Nat} (read : toNat? digits = some n) : n < 10 ^ digits.length := by
  obtain ⟨_, plain, rfl⟩ := toNat?_eq_some_iff.mp read
  simpa using ofDigitChars_lt plain 0

theorem length_padded {width n : Nat} (positive : 0 < width) (bound : n < 10 ^ width) :
    (padded width n).length = width := by
  have most := length_ofNat_le positive bound
  simp only [padded, List.length_append, List.length_replicate]
  omega

theorem isDigit_of_mem_padded {width n : Nat} {c : Char} (member : c ∈ padded width n) :
    c.isDigit = true := by
  unfold padded at member
  rcases List.mem_append.mp member with zero | digit
  · rw [List.eq_of_mem_replicate zero]
    decide
  · exact isDigit_of_mem_ofNat digit

theorem toNat?_replicate_append (zeros : Nat) {digits : Text} {n : Nat} (read : toNat? digits = some n) :
    toNat? (List.replicate zeros '0' ++ digits) = some n := by
  obtain ⟨filled, plain, value⟩ := toNat?_eq_some_iff.mp read
  refine toNat?_eq_some_iff.mpr ⟨List.append_ne_nil_of_right_ne_nil _ filled, ?_, ?_⟩
  · intro c member
    rcases List.mem_append.mp member with zero | digit
    · rw [List.eq_of_mem_replicate zero]
      decide
    · exact plain c digit
  · rw [Nat.ofDigitChars_append, Nat.ofDigitChars_replicate_zero, Nat.mul_zero, value]

theorem toNat?_padded (width n : Nat) : toNat? (padded width n) = some n :=
  toNat?_replicate_append _ (toNat?_ofNat n)

theorem takeWhile_digits_append {digits rest : Text} (plain : ∀ c ∈ digits, c.isDigit = true)
    (closed : rest.takeWhile Char.isDigit = []) : (digits ++ rest).takeWhile Char.isDigit = digits := by
  rw [List.takeWhile_append_of_pos plain, closed, List.append_nil]

theorem dropWhile_digits_append {digits rest : Text} (plain : ∀ c ∈ digits, c.isDigit = true)
    (closed : rest.takeWhile Char.isDigit = []) : (digits ++ rest).dropWhile Char.isDigit = rest := by
  have whole := List.takeWhile_append_dropWhile (p := Char.isDigit) (l := rest)
  rw [closed, List.nil_append] at whole
  rw [List.dropWhile_append_of_pos plain, whole]

theorem isSpacing_of_isDigit {c : Char} (digit : c.isDigit = true) : isSpacing c = false := by
  have code := toNat_of_isDigit digit
  simp only [isSpacing, isBlank, Bool.or_eq_false_iff, Bool.and_eq_false_iff, decide_eq_false_iff_not,
    beq_eq_false_iff_ne]
  omega

theorem dropWhile_eq_self {cls : Char → Bool} {text : Text} (outside : ∀ c ∈ text, cls c = false) :
    text.dropWhile cls = text :=
  List.dropWhile_eq_self_iff.mpr fun filled => by simp [outside _ (List.getElem_mem filled)]

theorem trim_eq_self {cls : Char → Bool} {text : Text} (outside : ∀ c ∈ text, cls c = false) :
    trim cls text = text := by
  unfold trim
  rw [dropWhile_eq_self outside, dropWhile_eq_self, List.reverse_reverse]
  intro c member
  exact outside c (List.mem_reverse.mp member)

end TypedPath.Text
