import TypedPath.Number.WholeNumber
import TypedPath.Proofs.Text.Digits

namespace TypedPath.WholeNumber

def IsReadable (n : Int) : Prop := n.natAbs < 10 ^ greatestLength

theorem isWritable_iff {n : Int} : isWritable n = true ↔ IsReadable n :=
  decide_eq_true_iff.trans (Nat.length_toDigits_le_iff (by decide) (by decide))

/-- The first number with one digit too many. -/
def leastLong : Int := .ofNat (Nat.pow 10 greatestLength)

theorem isWritable_leastLong : isWritable leastLong = false := by
  rw [← Bool.not_eq_true, isWritable_iff]
  unfold IsReadable leastLong
  generalize greatestLength = length
  exact Nat.lt_irrefl _

theorem plainLength_of_digits {digits : Text} (plain : ∀ c ∈ digits, c.isDigit = true) :
    plainLength digits = digits.length := by
  unfold plainLength
  rw [List.takeWhile_eq_self_iff.mpr plain]

theorem minus?_ofNat (n : Nat) : minus? (Text.ofNat n) = (false, Text.ofNat n) := by
  cases written : Text.ofNat n with
  | nil => rfl
  | cons c rest =>
    have digit : c.isDigit = true := Text.isDigit_of_mem_ofNat (n := n) (by rw [written]; exact List.mem_cons_self)
    unfold minus?
    split
    · rename_i heading
      obtain ⟨rfl, _⟩ := List.cons.inj heading
      exact absurd digit (by decide)
    · rfl

theorem readPlain_of_minus? {text : Text} {negative : Bool} {n : Nat} (size : n < 10 ^ greatestLength)
    (parted : minus? text = (negative, Text.ofNat n)) :
    readPlain text = .ok (if negative then -(n : Int) else n) := by
  simp only [readPlain, parted, Text.toNat?_ofNat]
  by_cases zero : n = 0
  · subst zero
    rw [Text.ofNat_zero]
    cases negative <;> rfl
  · have leading := Text.head?_ofNat_ne_zero (Nat.pos_of_ne_zero zero)
    have single : Text.ofNat n ≠ ['0'] := by
      intro only
      rw [only] at leading
      exact leading rfl
    have short : ¬ greatestLength < plainLength (Text.ofNat n) := by
      rw [plainLength_of_digits fun c => Text.isDigit_of_mem_ofNat]
      exact Nat.not_lt.mpr (Text.length_ofNat_le (by decide) size)
    rw [if_neg single, if_neg leading, if_neg short]

theorem readPlain_ofInt {n : Int} (readable : IsReadable n) : readPlain (Text.ofInt n) = .ok n := by
  unfold Text.ofInt
  by_cases negative : n < 0
  · have parted : minus? ('-' :: Text.ofNat n.natAbs) = (true, Text.ofNat n.natAbs) := rfl
    rw [if_pos negative, readPlain_of_minus? readable parted]
    simp only [ite_true, Except.ok.injEq]
    omega
  · rw [if_neg negative, readPlain_of_minus? readable (minus?_ofNat _)]
    simp only [Bool.false_eq_true, ite_false, Except.ok.injEq]
    omega

theorem mem_ofInt {n : Int} {c : Char} (member : c ∈ Text.ofInt n) : c = '-' ∨ c.isDigit = true := by
  unfold Text.ofInt at member
  split at member
  · rcases List.mem_cons.mp member with rfl | digit
    · exact .inl rfl
    · exact .inr (Text.isDigit_of_mem_ofNat digit)
  · exact .inr (Text.isDigit_of_mem_ofNat member)

theorem read_ofInt {n : Int} (readable : IsReadable n) : read (Text.ofInt n) = .ok n := by
  have bare : Text.trim Text.isBlank (Text.ofInt n) = Text.ofInt n := by
    apply Text.trim_eq_self
    intro c member
    rcases mem_ofInt member with rfl | digit
    · decide
    · exact (Bool.or_eq_false_iff.mp (Text.isSpacing_of_isDigit digit)).1
  simp only [read, bare, readPlain_ofInt readable]

theorem isReadable_of_readPlain {text : Text} {n : Int} (plain : readPlain text = .ok n) : IsReadable n := by
  unfold IsReadable
  simp only [readPlain] at plain
  split at plain
  · cases plain
    exact Nat.pow_pos (by decide)
  · split at plain
    · cases plain
    · split at plain
      · cases plain
      · rename_i short
        split at plain
        · rename_i size found
          have digits := (Text.toNat?_eq_some_iff.mp found).2.1
          rw [plainLength_of_digits digits] at short
          have bound : size < 10 ^ greatestLength :=
            Nat.lt_of_lt_of_le (Text.toNat?_lt found) (Nat.pow_le_pow_right (by decide) (Nat.not_lt.mp short))
          cases plain
          split <;> simpa using bound
        · cases plain

theorem isReadable_of_read {text : Text} {n : Int} (found : read text = .ok n) : IsReadable n := by
  simp only [read] at found
  split at found
  · split at found
    · rename_i plain
      obtain ⟨inner, _, plain⟩ := Option.map_eq_some_iff.mp plain
      cases found
      exact isReadable_of_readPlain plain
    · cases found
  · exact isReadable_of_readPlain found

end TypedPath.WholeNumber
