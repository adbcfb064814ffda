import Mathlib.Data.List.Basic
import TypedPath.Proofs.Text.Unescaping

namespace TypedPath.Percent

def safeCharacters : Text := "ABCDEFGHIJKLMNOPQRSTUVWXYZabcdefghijklmnopqrstuvwxyz0123456789-_.!~*'()"

def upperDigits : Text := "0123456789ABCDEF"

def isCanonical : Text → Bool
  | '%' :: high :: low :: rest =>
    upperDigits.contains high && upperDigits.contains low &&
      !safeCharacters.contains (Char.ofNat (16 * upperDigits.idxOf high + upperDigits.idxOf low)) && isCanonical rest
  | c :: rest => safeCharacters.contains c && isCanonical rest
  | [] => true
termination_by structural part => part

def writeByte (b : UInt8) : Text :=
  if isUnreserved (Char.ofNat b.toNat) then [Char.ofNat b.toNat] else escapeByte b

variable {b : UInt8} {bytes : List UInt8} {c : Char} {part text : Text}

theorem isUnreserved_eq (c : Char) : isUnreserved c = safeCharacters.contains c := by
  -- one evaluation for both facts, as reading the characters of the list is what takes its time
  obtain ⟨inside, table⟩ : safeCharacters.all (fun c => c.toNat < 0x80) = true ∧
      ∀ n : Fin 128, isUnreserved (Char.ofNat n.val) = safeCharacters.contains (Char.ofNat n.val) := by
    decide +kernel
  by_cases ascii : c.toNat < 0x80
  · have same := table ⟨c.toNat, ascii⟩
    rwa [Char.ofNat_toNat] at same
  · apply Bool.eq_iff_iff.mpr
    apply iff_of_false
    · exact fun unreserved => ascii (toNat_lt_of_isUnreserved unreserved)
    · exact fun safe => ascii (of_decide_eq_true (List.all_eq_true.mp inside c (List.contains_iff_mem.mp safe)))

theorem ne_percent_of_isUnreserved (unreserved : isUnreserved c = true) : c ≠ '%' := by
  rintro rfl
  exact absurd unreserved (by decide)

theorem isReserved_of_mem_utf8EncodeChar (reserved : isUnreserved c = false)
    (member : b ∈ String.utf8EncodeChar c) : isUnreserved (Char.ofNat b.toNat) = false := by
  by_cases ascii : c.toNat < 0x80
  · rw [Utf8.utf8EncodeChar_one ascii, List.mem_singleton] at member
    rw [member, Utf8.toNat_ofNat_byte (by omega), Char.ofNat_toNat, reserved]
  · have beyond := Utf8.le_of_mem_utf8EncodeChar (Nat.not_lt.mp ascii) member
    rw [← Bool.not_eq_true]
    intro unreserved
    have small := toNat_lt_of_isUnreserved unreserved
    rw [Utf8.toNat_ofNat_toNat] at small
    simp only [UInt8.le_iff_toNat_le, UInt8.reduceToNat] at beyond
    omega

theorem writeByte_of_isUnreserved (unreserved : isUnreserved c = true) : writeByte (UInt8.ofNat c.toNat) = [c] := by
  have small := toNat_lt_of_isUnreserved unreserved
  have same : Char.ofNat (UInt8.ofNat c.toNat).toNat = c := by
    rw [Utf8.toNat_ofNat_byte (by omega), Char.ofNat_toNat]
  rw [writeByte, same, if_pos unreserved]

theorem encodeChar_eq (c : Char) : encodeChar c = (String.utf8EncodeChar c).flatMap writeByte := by
  unfold encodeChar
  split
  · rename_i unreserved
    rw [utf8EncodeChar_of_isUnreserved unreserved, List.flatMap_singleton, writeByte_of_isUnreserved unreserved]
  · rename_i reserved
    rw [Bool.not_eq_true] at reserved
    refine List.flatMap_congr fun b member => ?_
    rw [writeByte, isReserved_of_mem_utf8EncodeChar reserved member, if_neg Bool.false_ne_true]

/-- Encoding writes byte by byte. -/
theorem encode_eq (text : Text) : encode text = (Utf8.encode text).flatMap writeByte := by
  rw [encode, Utf8.encode, List.flatMap_assoc]
  exact List.flatMap_congr fun c _ => encodeChar_eq c

theorem pieces_writeByte (b : UInt8) (rest : Text) : pieces (writeByte b ++ rest) = .byte b :: pieces rest := by
  unfold writeByte
  split
  · rename_i unreserved
    have small := toNat_lt_of_isUnreserved unreserved
    rw [List.singleton_append, pieces_cons (ne_percent_of_isUnreserved unreserved), Piece.ofChar, if_pos small,
      Utf8.toNat_ofNat_toNat, UInt8.ofNat_toNat]
  · exact pieces_escapeByte b rest

theorem decode?_writeBytes (bytes : List UInt8) : decode? (bytes.flatMap writeByte) = Utf8.decode? bytes := by
  have whole : pieces (bytes.flatMap writeByte) = bytes.map .byte := by
    induction bytes with
    | nil => rfl
    | cons b bytes ih => rw [List.flatMap_cons, pieces_writeByte, ih, List.map_cons]
  rw [decode?, whole, assemble_map_byte]

theorem upperDigit_hexDigit {n : Nat} (bound : n < 16) :
    upperDigits.contains (Text.hexDigit n) = true ∧ upperDigits.idxOf (Text.hexDigit n) = n := by
  have digits : ∀ digit : Fin 16, upperDigits.contains (Text.hexDigit digit.val) = true ∧
      upperDigits.idxOf (Text.hexDigit digit.val) = digit.val := by decide
  exact digits ⟨n, bound⟩

theorem hexDigit_upperDigit (upper : c ∈ upperDigits) : ∃ n < 16, c = Text.hexDigit n := by
  have digits : upperDigits.all (fun c => Text.hexDigit (upperDigits.idxOf c) = c) = true := by decide
  exact ⟨_, List.idxOf_lt_length_of_mem upper, (of_decide_eq_true (List.all_eq_true.mp digits c upper)).symm⟩

theorem isCanonical_writeByte (b : UInt8) (rest : Text) : isCanonical (writeByte b ++ rest) = isCanonical rest := by
  unfold writeByte
  split
  · rename_i unreserved
    rw [List.singleton_append, isCanonical, ← isUnreserved_eq, unreserved, Bool.true_and]
    intro high low rest' same
    exact absurd same (ne_percent_of_isUnreserved unreserved)
  · rename_i reserved
    have bound := b.toNat_lt
    obtain ⟨first, high⟩ := upperDigit_hexDigit (show b.toNat / 16 < 16 by omega)
    obtain ⟨second, low⟩ := upperDigit_hexDigit (show b.toNat % 16 < 16 by omega)
    have whole : 16 * (b.toNat / 16) + b.toNat % 16 = b.toNat := Nat.div_add_mod ..
    simp only [escapeByte, List.cons_append, List.nil_append, isCanonical, first, second, high, low, whole,
      ← isUnreserved_eq, reserved, Bool.not_false, Bool.true_and]

/-- Canonical components are the bytes that are written, whether or not they are those of a text. -/
theorem isCanonical_iff : isCanonical part = true ↔ ∃ bytes : List UInt8, part = bytes.flatMap writeByte := by
  constructor
  · intro canonical
    fun_induction isCanonical part with
    | case1 high low rest ih =>
      simp only [Bool.and_eq_true, List.contains_iff_mem, Bool.not_eq_true', ← isUnreserved_eq] at canonical
      obtain ⟨⟨⟨upper, upper'⟩, reserved⟩, later⟩ := canonical
      obtain ⟨bytes, rfl⟩ := ih later
      obtain ⟨h, first, rfl⟩ := hexDigit_upperDigit upper
      obtain ⟨l, second, rfl⟩ := hexDigit_upperDigit upper'
      rw [(upperDigit_hexDigit first).2, (upperDigit_hexDigit second).2] at reserved
      have point : (UInt8.ofNat (16 * h + l)).toNat = 16 * h + l := Utf8.toNat_ofNat_byte (by omega)
      refine ⟨UInt8.ofNat (16 * h + l) :: bytes, ?_⟩
      rw [List.flatMap_cons, writeByte, point, reserved, if_neg Bool.false_ne_true, escapeByte, point,
        show (16 * h + l) / 16 = h by omega, show (16 * h + l) % 16 = l by omega]
      rfl
    | case2 c rest _ ih =>
      obtain ⟨safe, later⟩ := Bool.and_eq_true_iff.mp canonical
      have unreserved : isUnreserved c = true := (isUnreserved_eq c).trans safe
      obtain ⟨bytes, rfl⟩ := ih later
      refine ⟨UInt8.ofNat c.toNat :: bytes, ?_⟩
      rw [List.flatMap_cons, writeByte_of_isUnreserved unreserved]
      rfl
    | case3 => exact ⟨[], rfl⟩
  · rintro ⟨bytes, rfl⟩
    induction bytes with
    | nil => rfl
    | cons b bytes ih => rw [List.flatMap_cons, isCanonical_writeByte, ih]

/-- A text is encoded to a canonical component that is decoded to it, and of all components that are decoded to
    it this is the only one that is canonical. A text has no lone surrogates, so it always has its bytes. -/
theorem canonical_coding (text : Text) :
    isCanonical (encode text) = true ∧ (∀ c ∈ ['/', '?', ':'], c ∉ encode text) ∧
      decode? (encode text) = some text ∧
      ∀ part, decode? part = some text → (encode text = part ↔ isCanonical part = true) := by
  refine ⟨isCanonical_iff.mpr ⟨_, encode_eq text⟩, fun c member => ?_, decode?_encode text, fun part decoded => ?_⟩
  · have reserved : isUnreserved c = false ∧ c ≠ '%' := by
      simp only [List.mem_cons, List.not_mem_nil, or_false] at member
      rcases member with rfl | rfl | rfl <;> decide
    exact not_mem_encode reserved.1 reserved.2 text
  · constructor
    · rintro rfl
      exact isCanonical_iff.mpr ⟨_, encode_eq text⟩
    · intro canonical
      obtain ⟨bytes, rfl⟩ := isCanonical_iff.mp canonical
      rw [decode?_writeBytes, Utf8.decode?_eq_some_iff] at decoded
      rw [encode_eq, decoded]

theorem canonical_coding_euro :
    decode? "a%2f%E2%82%AC" = some "a/€" ∧ isCanonical (encode "a/€") = true ∧
      (∀ c ∈ ['/', '?', ':'], c ∉ encode "a/€") ∧ decode? (encode "a/€") = some "a/€" ∧
      (encode "a/€" = "a%2f%E2%82%AC" ↔ isCanonical "a%2f%E2%82%AC" = true) := by
  have decoded : decode? "a%2f%E2%82%AC" = some "a/€" := by decide +kernel
  obtain ⟨canonical, enclosed, read, only⟩ := canonical_coding "a/€"
  exact ⟨decoded, canonical, enclosed, read, only _ decoded⟩

end TypedPath.Percent
