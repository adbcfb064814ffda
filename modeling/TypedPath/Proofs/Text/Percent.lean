import TypedPath.Proofs.Text.Utf8
import TypedPath.Text.Percent

namespace TypedPath.Percent

theorem hexValue?_hexDigit {n : Nat} (bound : n < 16) : Text.hexValue? (Text.hexDigit n) = some n := by
  have digits : ∀ digit : Fin 16, Text.hexValue? (Text.hexDigit digit.val) = some digit.val := by decide
  exact digits ⟨n, bound⟩

theorem isUnreserved_hexDigit {n : Nat} (bound : n < 16) : isUnreserved (Text.hexDigit n) = true := by
  have digits : ∀ digit : Fin 16, isUnreserved (Text.hexDigit digit.val) = true := by decide
  exact digits ⟨n, bound⟩

theorem toNat_lt_of_isUnreserved {c : Char} (unreserved : isUnreserved c = true) : c.toNat < 0x80 := by
  have classes : (c.isUpper || c.isLower || c.isDigit || "_.-~!*'()".toList.contains c) = true := unreserved
  rw [Bool.or_eq_true, Bool.or_eq_true, Bool.or_eq_true] at classes
  rcases classes with ((upper | lower) | digit) | mark
  · have most : c.toNat ≤ 'Z'.toNat := (of_decide_eq_true upper).2
    exact Nat.lt_of_le_of_lt most (by decide)
  · have most : c.toNat ≤ 'z'.toNat := of_decide_eq_true (Bool.and_eq_true_iff.mp lower).2
    exact Nat.lt_of_le_of_lt most (by decide)
  · have most : c.toNat ≤ '9'.toNat := of_decide_eq_true (Bool.and_eq_true_iff.mp digit).2
    exact Nat.lt_of_le_of_lt most (by decide)
  · have marks : ("_.-~!*'()".toList.all fun c => c.toNat < 0x80) = true := by decide
    exact of_decide_eq_true (List.all_eq_true.mp marks c (List.contains_iff_mem.mp mark))

theorem utf8EncodeChar_of_isUnreserved {c : Char} (unreserved : isUnreserved c = true) :
    String.utf8EncodeChar c = [UInt8.ofNat c.toNat] := by
  have size : c.val.toNat ≤ 0x7F := Nat.le_of_lt_succ (toNat_lt_of_isUnreserved unreserved)
  simp only [String.utf8EncodeChar, size, ite_true]
  rfl

theorem escapedByte?_hexDigits (b : UInt8) :
    escapedByte? (Text.hexDigit (b.toNat / 16)) (Text.hexDigit (b.toNat % 16)) = some b := by
  have bound := b.toNat_lt
  have high : b.toNat / 16 < 16 := by omega
  have low : b.toNat % 16 < 16 := Nat.mod_lt _ (by decide)
  have whole : b.toNat / 16 * 16 + b.toNat % 16 = b.toNat := by omega
  simp only [escapedByte?, hexValue?_hexDigit high, hexValue?_hexDigit low, whole, UInt8.ofNat_toNat]

theorem pieces_escapeByte (b : UInt8) (rest : Text) :
    pieces (escapeByte b ++ rest) = .byte b :: pieces rest := by
  simp only [escapeByte, List.cons_append, List.nil_append, pieces, escapedByte?_hexDigits]

theorem pieces_cons {c : Char} (plain : c ≠ '%') (rest : Text) :
    pieces (c :: rest) = Piece.ofChar c :: pieces rest := by
  rw [pieces]
  intro high low rest' same
  exact absurd same plain

theorem pieces_encodeChar (c : Char) (rest : Text) :
    pieces (encodeChar c ++ rest) = (String.utf8EncodeChar c).map .byte ++ pieces rest := by
  unfold encodeChar
  split
  · rename_i unreserved
    have plain : c ≠ '%' := by
      intro same
      subst same
      exact absurd unreserved (by decide)
    have size := toNat_lt_of_isUnreserved unreserved
    rw [utf8EncodeChar_of_isUnreserved unreserved, List.singleton_append, pieces_cons plain]
    simp only [Piece.ofChar, size, ite_true, List.map_cons, List.map_nil, List.singleton_append]
  · generalize String.utf8EncodeChar c = bytes
    induction bytes with
    | nil => rfl
    | cons b bytes ih =>
      rw [List.flatMap_cons, List.append_assoc, pieces_escapeByte, ih]
      rfl

theorem pieces_encode (text : Text) : pieces (encode text) = (Utf8.encode text).map .byte := by
  induction text with
  | nil => rfl
  | cons c text ih =>
    have step := pieces_encodeChar c (encode text)
    rw [ih, ← List.map_append] at step
    exact step

theorem runs_map_byte (bytes : List UInt8) : runs (bytes.map .byte) = (bytes, []) := by
  induction bytes with
  | nil => rfl
  | cons b bytes ih => rw [List.map_cons, runs, ih]

theorem assemble_map_byte (bytes : List UInt8) : assemble (bytes.map .byte) = Utf8.decode? bytes := by
  rw [assemble, runs_map_byte]
  cases Utf8.decode? bytes <;> simp [decodeRuns?]

theorem decode?_encode (text : Text) : decode? (encode text) = some text := by
  rw [decode?, pieces_encode, assemble_map_byte, Utf8.decode?_encode]

theorem mem_escapeByte {b : UInt8} {c : Char} (member : c ∈ escapeByte b) :
    c = '%' ∨ isUnreserved c = true := by
  have bound := b.toNat_lt
  simp only [escapeByte, List.mem_cons, List.not_mem_nil, or_false] at member
  rcases member with rfl | rfl | rfl
  · exact .inl rfl
  · exact .inr (isUnreserved_hexDigit (by omega))
  · exact .inr (isUnreserved_hexDigit (Nat.mod_lt _ (by decide)))

theorem mem_encode {text : Text} {c : Char} (member : c ∈ encode text) :
    c = '%' ∨ isUnreserved c = true := by
  obtain ⟨source, _, written⟩ := List.mem_flatMap.mp member
  unfold encodeChar at written
  split at written
  · rename_i unreserved
    rw [List.mem_singleton.mp written]
    exact .inr unreserved
  · obtain ⟨b, _, escaped⟩ := List.mem_flatMap.mp written
    exact mem_escapeByte escaped

theorem not_mem_encode {c : Char} (reserved : isUnreserved c = false) (other : c ≠ '%') (text : Text) :
    c ∉ encode text := by
  intro member
  rcases mem_encode member with same | unreserved
  · exact other same
  · rw [reserved] at unreserved
    cases unreserved

end TypedPath.Percent
