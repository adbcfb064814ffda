import TypedPath.Text.Utf8

namespace TypedPath.Utf8

theorem toNat_ofNat_byte {n : Nat} (bound : n < 256) : (UInt8.ofNat n).toNat = n := by
  rw [UInt8.toNat_ofNat']
  exact Nat.mod_eq_of_lt bound

theorem byte_lt_iff {n : Nat} (bound : n < 256) (m : UInt8) : UInt8.ofNat n < m ↔ n < m.toNat := by
  rw [UInt8.lt_iff_toNat_lt, toNat_ofNat_byte bound]

theorem isTail_payload {n : Nat} (bound : n < 64) : isTail (UInt8.ofNat (n + 0x80)) = true := by
  have least : ¬ UInt8.ofNat (n + 0x80) < 0x80 := by
    rw [byte_lt_iff (by omega)]
    simp
  have most : UInt8.ofNat (n + 0x80) < 0xC0 := by
    rw [byte_lt_iff (by omega)]
    simp only [UInt8.reduceToNat]
    omega
  simp only [isTail, UInt8.not_lt.mp least, most, decide_true, Bool.and_self]

theorem tailBits_payload {n : Nat} (bound : n < 64) : tailBits (UInt8.ofNat (n + 0x80)) = n := by
  have byte : n + 0x80 < 256 := by omega
  unfold tailBits
  rw [toNat_ofNat_byte byte]
  exact Nat.add_sub_cancel ..

theorem charAtLeast?_toNat (c : Char) {least : Nat} (reached : least ≤ c.toNat) :
    charAtLeast? least c.toNat = some c := by
  have valid : c.toNat.isValidChar := c.valid
  unfold charAtLeast?
  rw [dif_pos valid, if_pos reached]
  rfl

theorem decode?_ascii (c : Char) (rest : List UInt8) (size : c.toNat < 0x80) :
    decode? (UInt8.ofNat c.toNat :: rest) = (decode? rest).map (c :: ·) := by
  have lead : UInt8.ofNat c.toNat < 0x80 := by
    rw [byte_lt_iff (by omega)]
    exact size
  cases rest <;>
    simp only [decode?, lead, ite_true, toNat_ofNat_byte (show c.toNat < 256 by omega),
      Char.ofNat_toNat]

theorem decode?_two (c : Char) (rest : List UInt8) (least : 0x80 ≤ c.toNat) (most : c.toNat < 0x800) :
    decode? (UInt8.ofNat (c.toNat / 64 + 0xC0) :: UInt8.ofNat (c.toNat % 64 + 0x80) :: rest) =
      (decode? rest).map (c :: ·) := by
  have bound : c.toNat / 64 + 0xC0 < 256 := by omega
  have tail : c.toNat % 64 < 64 := Nat.mod_lt _ (by decide)
  have point : (c.toNat / 64 + 0xC0 - 0xC0) * 64 + c.toNat % 64 = c.toNat := by omega
  have notAscii : ¬ c.toNat / 64 + 0xC0 < 0x80 := by omega
  have notTail : ¬ c.toNat / 64 + 0xC0 < 0xC2 := by omega
  have lead : c.toNat / 64 + 0xC0 < 0xE0 := by omega
  have found : two? (UInt8.ofNat (c.toNat / 64 + 0xC0)) (UInt8.ofNat (c.toNat % 64 + 0x80)) = some c := by
    simp only [two?, isTail_payload tail, tailBits_payload tail, toNat_ofNat_byte bound, point,
      charAtLeast?_toNat c least, ite_true]
  simp only [decode?, byte_lt_iff bound, UInt8.reduceToNat, notAscii, notTail, lead, ite_true,
    ite_false, found]

theorem decode?_three (c : Char) (rest : List UInt8) (least : 0x800 ≤ c.toNat)
    (most : c.toNat < 0x10000) :
    decode? (UInt8.ofNat (c.toNat / 4096 + 0xE0) :: UInt8.ofNat (c.toNat / 64 % 64 + 0x80) ::
        UInt8.ofNat (c.toNat % 64 + 0x80) :: rest) =
      (decode? rest).map (c :: ·) := by
  have bound : c.toNat / 4096 + 0xE0 < 256 := by omega
  have middle : c.toNat / 64 % 64 < 64 := Nat.mod_lt _ (by decide)
  have tail : c.toNat % 64 < 64 := Nat.mod_lt _ (by decide)
  have point : (c.toNat / 4096 + 0xE0 - 0xE0) * 4096 + c.toNat / 64 % 64 * 64 + c.toNat % 64 =
      c.toNat := by omega
  have notAscii : ¬ c.toNat / 4096 + 0xE0 < 0x80 := by omega
  have notTail : ¬ c.toNat / 4096 + 0xE0 < 0xC2 := by omega
  have notTwo : ¬ c.toNat / 4096 + 0xE0 < 0xE0 := by omega
  have lead : c.toNat / 4096 + 0xE0 < 0xF0 := by omega
  have found : three? (UInt8.ofNat (c.toNat / 4096 + 0xE0)) (UInt8.ofNat (c.toNat / 64 % 64 + 0x80))
      (UInt8.ofNat (c.toNat % 64 + 0x80)) = some c := by
    simp only [three?, isTail_payload middle, isTail_payload tail, Bool.and_self, ite_true,
      tailBits_payload middle, tailBits_payload tail, toNat_ofNat_byte bound, point,
      charAtLeast?_toNat c least]
  simp only [decode?, byte_lt_iff bound, UInt8.reduceToNat, notAscii, notTail, notTwo, lead,
    ite_true, ite_false, found]

theorem toNat_lt_limit (c : Char) : c.toNat < 0x110000 := by
  have valid : c.toNat.isValidChar := c.valid
  rcases valid with low | high <;> omega

theorem decode?_four (c : Char) (rest : List UInt8) (least : 0x10000 ≤ c.toNat) :
    decode? (UInt8.ofNat (c.toNat / 262144 + 0xF0) :: UInt8.ofNat (c.toNat / 4096 % 64 + 0x80) ::
        UInt8.ofNat (c.toNat / 64 % 64 + 0x80) :: UInt8.ofNat (c.toNat % 64 + 0x80) :: rest) =
      (decode? rest).map (c :: ·) := by
  have most := toNat_lt_limit c
  have bound : c.toNat / 262144 + 0xF0 < 256 := by omega
  have second : c.toNat / 4096 % 64 < 64 := Nat.mod_lt _ (by decide)
  have third : c.toNat / 64 % 64 < 64 := Nat.mod_lt _ (by decide)
  have tail : c.toNat % 64 < 64 := Nat.mod_lt _ (by decide)
  have point : (c.toNat / 262144 + 0xF0 - 0xF0) * 262144 + c.toNat / 4096 % 64 * 4096 +
      c.toNat / 64 % 64 * 64 + c.toNat % 64 = c.toNat := by omega
  have notAscii : ¬ c.toNat / 262144 + 0xF0 < 0x80 := by omega
  have notTail : ¬ c.toNat / 262144 + 0xF0 < 0xC2 := by omega
  have notTwo : ¬ c.toNat / 262144 + 0xF0 < 0xE0 := by omega
  have notThree : ¬ c.toNat / 262144 + 0xF0 < 0xF0 := by omega
  have lead : c.toNat / 262144 + 0xF0 < 0xF5 := by omega
  have found : four? (UInt8.ofNat (c.toNat / 262144 + 0xF0))
      (UInt8.ofNat (c.toNat / 4096 % 64 + 0x80)) (UInt8.ofNat (c.toNat / 64 % 64 + 0x80))
      (UInt8.ofNat (c.toNat % 64 + 0x80)) = some c := by
    simp only [four?, isTail_payload second, isTail_payload third, isTail_payload tail,
      Bool.and_self, ite_true, tailBits_payload second, tailBits_payload third,
      tailBits_payload tail, toNat_ofNat_byte bound, point, charAtLeast?_toNat c least]
  simp only [decode?, byte_lt_iff bound, UInt8.reduceToNat, notAscii, notTail, notTwo, notThree,
    lead, ite_true, ite_false, found]

theorem decode?_utf8EncodeChar (c : Char) (rest : List UInt8) :
    decode? (String.utf8EncodeChar c ++ rest) = (decode? rest).map (c :: ·) := by
  have most := toNat_lt_limit c
  have point : c.val.toNat = c.toNat := rfl
  simp only [String.utf8EncodeChar, point]
  split
  · exact decode?_ascii c rest (by omega)
  · split
    · have lead : c.toNat / 64 % 0x20 = c.toNat / 64 := Nat.mod_eq_of_lt (by omega)
      rw [lead]
      exact decode?_two c rest (by omega) (by omega)
    · split
      · have lead : c.toNat / 4096 % 0x10 = c.toNat / 4096 := Nat.mod_eq_of_lt (by omega)
        rw [lead]
        exact decode?_three c rest (by omega) (by omega)
      · have lead : c.toNat / 262144 % 0x08 = c.toNat / 262144 := Nat.mod_eq_of_lt (by omega)
        rw [lead]
        exact decode?_four c rest (by omega)

theorem decode?_encode (text : Text) : decode? (encode text) = some text := by
  induction text with
  | nil => rfl
  | cons c text ih =>
    rw [encode, List.flatMap_cons, decode?_utf8EncodeChar]
    change (decode? (encode text)).map (c :: ·) = some (c :: text)
    rw [ih]
    rfl

theorem length_le_length_encode (text : Text) : text.length ≤ (encode text).length := by
  induction text with
  | nil => exact Nat.le_refl 0
  | cons c rest ih =>
    have size := Char.utf8Size_pos c
    unfold encode at ih ⊢
    rw [List.flatMap_cons, List.length_append, String.length_utf8EncodeChar, List.length_cons]
    omega

end TypedPath.Utf8
