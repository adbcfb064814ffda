import TypedPath.Proofs.Text.Utf8

namespace TypedPath.Utf8

/-- The bytes of one character, as few as it needs. No character is half of a surrogate pair. -/
inductive IsCharacter : List UInt8 → Prop
  | one {a : UInt8} (ascii : a < 0x80) : IsCharacter [a]
  | two {a b : UInt8} (least : 0xC2 ≤ a) (most : a < 0xE0) (tail : isTail b = true) : IsCharacter [a, b]
  | three {a b c : UInt8} (least : 0xE0 ≤ a) (most : a < 0xF0) (second : isTail b = true) (third : isTail c = true)
      (shortest : a = 0xE0 → 0xA0 ≤ b) (single : a = 0xED → b < 0xA0) : IsCharacter [a, b, c]
  | four {a b c d : UInt8} (least : 0xF0 ≤ a) (most : a < 0xF5) (second : isTail b = true)
      (third : isTail c = true) (fourth : isTail d = true) (shortest : a = 0xF0 → 0x90 ≤ b)
      (inside : a = 0xF4 → b < 0x90) : IsCharacter [a, b, c, d]

inductive IsValid : List UInt8 → Prop
  | nil : IsValid []
  | cons {first rest : List UInt8} (character : IsCharacter first) (valid : IsValid rest) : IsValid (first ++ rest)

variable {a b c d : UInt8} {found : Char} {bytes left right : List UInt8} {text : Text}

theorem isTail_iff : isTail b = true ↔ 0x80 ≤ b.toNat ∧ b.toNat < 0xC0 := by
  simp only [isTail, Bool.and_eq_true, decide_eq_true_eq, UInt8.le_iff_toNat_le, UInt8.lt_iff_toNat_lt,
    UInt8.reduceToNat]

theorem ofNat_eq_iff {n : Nat} (bound : n < 256) : UInt8.ofNat n = b ↔ n = b.toNat := by
  rw [← UInt8.toNat_inj, toNat_ofNat_byte bound]

theorem le_byte_iff {n : Nat} (bound : n < 256) : b ≤ UInt8.ofNat n ↔ b.toNat ≤ n := by
  rw [UInt8.le_iff_toNat_le, toNat_ofNat_byte bound]

theorem exists_char {n : Nat} (valid : n < 0xD800 ∨ 0xDFFF < n ∧ n < 0x110000) : ∃ c : Char, c.toNat = n :=
  ⟨Char.ofNatAux n valid, rfl⟩

theorem charAtLeast?_eq_some_iff {least n : Nat} :
    charAtLeast? least n = some found ↔ found.toNat = n ∧ least ≤ n := by
  constructor
  · intro read
    obtain ⟨valid, read⟩ := Option.dite_none_right_eq_some.mp read
    obtain ⟨reached, same⟩ := Option.ite_none_right_eq_some.mp read
    cases same
    exact ⟨rfl, reached⟩
  · rintro ⟨rfl, reached⟩
    exact charAtLeast?_toNat found reached

theorem two?_eq_some_iff : two? a b = some found ↔ isTail b = true ∧
    found.toNat = (a.toNat - 0xC0) * 64 + tailBits b ∧ 0x80 ≤ found.toNat := by
  unfold two?
  split
  · rename_i tail
    rw [charAtLeast?_eq_some_iff]
    grind
  · grind

theorem three?_eq_some_iff : three? a b c = some found ↔ (isTail b = true ∧ isTail c = true) ∧
    found.toNat = (a.toNat - 0xE0) * 4096 + tailBits b * 64 + tailBits c ∧ 0x800 ≤ found.toNat := by
  unfold three?
  split
  · rename_i tail
    rw [charAtLeast?_eq_some_iff]
    grind
  · grind

theorem four?_eq_some_iff : four? a b c d = some found ↔ (isTail b = true ∧ isTail c = true ∧ isTail d = true) ∧
    found.toNat = (a.toNat - 0xF0) * 262144 + tailBits b * 4096 + tailBits c * 64 + tailBits d ∧
      0x10000 ≤ found.toNat := by
  unfold four?
  split
  · rename_i tail
    rw [charAtLeast?_eq_some_iff]
    grind
  · grind

theorem utf8EncodeChar_one (ascii : found.toNat < 0x80) :
    String.utf8EncodeChar found = [UInt8.ofNat found.toNat] := by
  have size : found.val.toNat ≤ 0x7F := Nat.le_of_lt_succ ascii
  simp only [String.utf8EncodeChar, size, ite_true]
  rfl

theorem utf8EncodeChar_two (least : 0x80 ≤ found.toNat) (most : found.toNat < 0x800) :
    String.utf8EncodeChar found =
      [UInt8.ofNat (found.toNat / 64 + 0xC0), UInt8.ofNat (found.toNat % 64 + 0x80)] := by
  have point : found.val.toNat = found.toNat := rfl
  have lead : found.toNat / 64 % 0x20 = found.toNat / 64 := Nat.mod_eq_of_lt (by omega)
  simp only [String.utf8EncodeChar, point, lead, show ¬ found.toNat ≤ 0x7F by omega,
    show found.toNat ≤ 0x7FF by omega, ite_false, ite_true]

theorem utf8EncodeChar_three (least : 0x800 ≤ found.toNat) (most : found.toNat < 0x10000) :
    String.utf8EncodeChar found =
      [UInt8.ofNat (found.toNat / 4096 + 0xE0), UInt8.ofNat (found.toNat / 64 % 64 + 0x80),
        UInt8.ofNat (found.toNat % 64 + 0x80)] := by
  have point : found.val.toNat = found.toNat := rfl
  have lead : found.toNat / 4096 % 0x10 = found.toNat / 4096 := Nat.mod_eq_of_lt (by omega)
  simp only [String.utf8EncodeChar, point, lead, show ¬ found.toNat ≤ 0x7F by omega,
    show ¬ found.toNat ≤ 0x7FF by omega, show found.toNat ≤ 0xFFFF by omega, ite_false, ite_true]

theorem utf8EncodeChar_four (least : 0x10000 ≤ found.toNat) :
    String.utf8EncodeChar found =
      [UInt8.ofNat (found.toNat / 262144 + 0xF0), UInt8.ofNat (found.toNat / 4096 % 64 + 0x80),
        UInt8.ofNat (found.toNat / 64 % 64 + 0x80), UInt8.ofNat (found.toNat % 64 + 0x80)] := by
  have most := toNat_lt_limit found
  have point : found.val.toNat = found.toNat := rfl
  have lead : found.toNat / 262144 % 0x08 = found.toNat / 262144 := Nat.mod_eq_of_lt (by omega)
  simp only [String.utf8EncodeChar, point, lead, show ¬ found.toNat ≤ 0x7F by omega,
    show ¬ found.toNat ≤ 0x7FF by omega, show ¬ found.toNat ≤ 0xFFFF by omega, ite_false]

theorem utf8EncodeChar_of_two? (least : 0xC2 ≤ a) (most : a < 0xE0) (read : two? a b = some found) :
    String.utf8EncodeChar found = [a, b] := by
  obtain ⟨tail, point, reached⟩ := two?_eq_some_iff.mp read
  rw [isTail_iff] at tail
  unfold tailBits at point
  simp only [UInt8.le_iff_toNat_le, UInt8.lt_iff_toNat_lt, UInt8.reduceToNat] at least most
  rw [utf8EncodeChar_two reached (by omega), (ofNat_eq_iff (by omega)).mpr (show _ = a.toNat by omega),
    (ofNat_eq_iff (by omega)).mpr (show _ = b.toNat by omega)]

theorem utf8EncodeChar_of_three? (least : 0xE0 ≤ a) (most : a < 0xF0) (read : three? a b c = some found) :
    String.utf8EncodeChar found = [a, b, c] := by
  obtain ⟨⟨second, third⟩, point, reached⟩ := three?_eq_some_iff.mp read
  rw [isTail_iff] at second third
  unfold tailBits at point
  simp only [UInt8.le_iff_toNat_le, UInt8.lt_iff_toNat_lt, UInt8.reduceToNat] at least most
  rw [utf8EncodeChar_three reached (by omega), (ofNat_eq_iff (by omega)).mpr (show _ = a.toNat by omega),
    (ofNat_eq_iff (by omega)).mpr (show _ = b.toNat by omega), (ofNat_eq_iff (by omega)).mpr (show _ = c.toNat by omega)]

theorem utf8EncodeChar_of_four? (least : 0xF0 ≤ a) (most : a < 0xF5) (read : four? a b c d = some found) :
    String.utf8EncodeChar found = [a, b, c, d] := by
  obtain ⟨⟨second, third, fourth⟩, point, reached⟩ := four?_eq_some_iff.mp read
  rw [isTail_iff] at second third fourth
  unfold tailBits at point
  simp only [UInt8.le_iff_toNat_le, UInt8.lt_iff_toNat_lt, UInt8.reduceToNat] at least most
  rw [utf8EncodeChar_four reached, (ofNat_eq_iff (by omega)).mpr (show _ = a.toNat by omega),
    (ofNat_eq_iff (by omega)).mpr (show _ = b.toNat by omega), (ofNat_eq_iff (by omega)).mpr (show _ = c.toNat by omega),
    (ofNat_eq_iff (by omega)).mpr (show _ = d.toNat by omega)]

theorem encode_cons (first : Char) (rest : Text) :
    encode (first :: rest) = String.utf8EncodeChar first ++ encode rest := rfl

theorem encode_append (left right : Text) : encode (left ++ right) = encode left ++ encode right :=
  List.flatMap_append

theorem encode_of_map_cons {rest : List UInt8} (written : String.utf8EncodeChar found = left)
    (later : ∀ t, decode? rest = some t → encode t = rest)
    (read : (decode? rest).map (found :: ·) = some text) : encode text = left ++ rest := by
  obtain ⟨t, held, rfl⟩ := Option.map_eq_some_iff.mp read
  rw [encode_cons, written, later t held]

theorem toNat_ofNat_toNat (b : UInt8) : (Char.ofNat b.toNat).toNat = b.toNat := by
  have valid : b.toNat.isValidChar := .inl (Nat.lt_trans b.toNat_lt (by decide))
  rw [Char.ofNat, dif_pos valid]
  rfl

theorem utf8EncodeChar_ofNat (ascii : a < 0x80) : String.utf8EncodeChar (Char.ofNat a.toNat) = [a] := by
  have bound := UInt8.lt_iff_toNat_lt.mp ascii
  rw [← toNat_ofNat_toNat a] at bound
  rw [utf8EncodeChar_one bound, toNat_ofNat_toNat, UInt8.ofNat_toNat]

/-- What is read is read from the bytes of the text alone. -/
theorem encode_of_decode? (read : decode? bytes = some text) : encode text = bytes := by
  fun_induction decode? bytes generalizing text with
  | case1 =>
    cases read
    rfl
  | case2 a rest ascii ih => exact encode_of_map_cons (utf8EncodeChar_ofNat ascii) (fun t => ih) read
  | case4 a _ least most b rest found two ih =>
    exact encode_of_map_cons (utf8EncodeChar_of_two? (UInt8.not_lt.mp least) most two) (fun t => ih) read
  | case7 a _ _ least most b c rest found three ih =>
    exact encode_of_map_cons (utf8EncodeChar_of_three? (UInt8.not_lt.mp least) most three) (fun t => ih) read
  | case10 a _ _ _ least most b c d rest found four ih =>
    exact encode_of_map_cons (utf8EncodeChar_of_four? (UInt8.not_lt.mp least) most four) (fun t => ih) read
  | case3 | case5 | case6 | case8 | case9 | case11 | case12 | case13 => cases read

theorem decode?_eq_some_iff : decode? bytes = some text ↔ encode text = bytes :=
  ⟨encode_of_decode?, fun written => written ▸ decode?_encode text⟩

theorem isCharacter_utf8EncodeChar (c : Char) : IsCharacter (String.utf8EncodeChar c) := by
  have tail (n : Nat) : isTail (UInt8.ofNat (n % 64 + 0x80)) = true := isTail_payload (Nat.mod_lt n (by decide))
  have valid : c.toNat < 0xD800 ∨ 0xDFFF < c.toNat ∧ c.toNat < 0x110000 := c.valid
  by_cases one : c.toNat < 0x80
  · rw [utf8EncodeChar_one one]
    exact .one ((byte_lt_iff (by omega) _).mpr one)
  by_cases two : c.toNat < 0x800
  · rw [utf8EncodeChar_two (by omega) two]
    refine .two ?_ ?_ (tail _)
    all_goals
      simp (disch := omega) only [le_byte_iff, byte_lt_iff, UInt8.reduceToNat]
      omega
  by_cases three : c.toNat < 0x10000
  · rw [utf8EncodeChar_three (by omega) three]
    refine .three ?_ ?_ (tail _) (tail _) ?_ ?_
    all_goals
      simp (disch := omega) only [le_byte_iff, byte_lt_iff, ofNat_eq_iff, UInt8.reduceToNat]
      omega
  · rw [utf8EncodeChar_four (by omega)]
    refine .four ?_ ?_ (tail _) (tail _) (tail _) ?_ ?_
    all_goals
      simp (disch := omega) only [le_byte_iff, byte_lt_iff, ofNat_eq_iff, UInt8.reduceToNat]
      omega

theorem exists_utf8EncodeChar (character : IsCharacter bytes) : ∃ c, String.utf8EncodeChar c = bytes := by
  cases character with
  | one ascii => exact ⟨_, utf8EncodeChar_ofNat ascii⟩
  | @two a b least most second =>
    have first := least
    have limit := most
    have tail := isTail_iff.mp second
    simp only [UInt8.le_iff_toNat_le, UInt8.lt_iff_toNat_lt, UInt8.reduceToNat] at first limit
    obtain ⟨found, point⟩ := exists_char (n := (a.toNat - 0xC0) * 64 + tailBits b) (by unfold tailBits; omega)
    have reached : 0x80 ≤ found.toNat := by
      unfold tailBits at point
      omega
    exact ⟨found, utf8EncodeChar_of_two? least most (two?_eq_some_iff.mpr ⟨second, point, reached⟩)⟩
  | @three a b c least most second third shortest single =>
    have first := least
    have limit := most
    have tail := isTail_iff.mp second
    have last := isTail_iff.mp third
    simp only [UInt8.le_iff_toNat_le, UInt8.lt_iff_toNat_lt, ← UInt8.toNat_inj, UInt8.reduceToNat] at first limit shortest single
    obtain ⟨found, point⟩ := exists_char (n := (a.toNat - 0xE0) * 4096 + tailBits b * 64 + tailBits c)
      (by unfold tailBits; omega)
    have reached : 0x800 ≤ found.toNat := by
      unfold tailBits at point
      omega
    exact ⟨found, utf8EncodeChar_of_three? least most (three?_eq_some_iff.mpr ⟨⟨second, third⟩, point, reached⟩)⟩
  | @four a b c d least most second third fourth shortest inside =>
    have first := least
    have limit := most
    have tail := isTail_iff.mp second
    have next := isTail_iff.mp third
    have last := isTail_iff.mp fourth
    simp only [UInt8.le_iff_toNat_le, UInt8.lt_iff_toNat_lt, ← UInt8.toNat_inj, UInt8.reduceToNat] at first limit shortest inside
    obtain ⟨found, point⟩ := exists_char
      (n := (a.toNat - 0xF0) * 262144 + tailBits b * 4096 + tailBits c * 64 + tailBits d) (by unfold tailBits; omega)
    have reached : 0x10000 ≤ found.toNat := by
      unfold tailBits at point
      omega
    exact ⟨found, utf8EncodeChar_of_four? least most
      (four?_eq_some_iff.mpr ⟨⟨second, third, fourth⟩, point, reached⟩)⟩

theorem isValid_iff : IsValid bytes ↔ ∃ text, encode text = bytes := by
  constructor
  · intro valid
    induction valid with
    | nil => exact ⟨[], rfl⟩
    | cons character _ ih =>
      obtain ⟨c, rfl⟩ := exists_utf8EncodeChar character
      obtain ⟨text, rfl⟩ := ih
      exact ⟨c :: text, rfl⟩
  · rintro ⟨text, rfl⟩
    induction text with
    | nil => exact .nil
    | cons c text ih => exact .cons (isCharacter_utf8EncodeChar c) ih

theorem decode?_eq_none_iff : decode? bytes = none ↔ ¬ IsValid bytes := by
  rw [isValid_iff, Option.eq_none_iff_forall_ne_some, not_exists]
  simp only [ne_eq, decode?_eq_some_iff]

theorem IsCharacter.exists_tails (character : IsCharacter bytes) :
    ∃ first tails, bytes = first :: tails ∧ isTail first = false ∧ (∀ b ∈ tails, isTail b = true) ∧
      (first < 0x80 → tails = []) := by
  have starts {a : UInt8} (outside : a < 0x80 ∨ 0xC0 ≤ a) : isTail a = false := by
    rw [← Bool.not_eq_true, isTail_iff]
    simp only [UInt8.le_iff_toNat_le, UInt8.lt_iff_toNat_lt, UInt8.reduceToNat] at outside
    omega
  have beyond {a least : UInt8} (reached : least ≤ a) (outside : 0xC0 ≤ least) : 0xC0 ≤ a ∧ ¬ a < 0x80 := by
    simp only [UInt8.le_iff_toNat_le, UInt8.lt_iff_toNat_lt, UInt8.reduceToNat] at reached outside ⊢
    omega
  cases character with
  | @one a ascii => exact ⟨a, [], rfl, starts (.inl ascii), by simp, fun _ => rfl⟩
  | @two a b least _ tail =>
    obtain ⟨lead, large⟩ := beyond least (by decide)
    exact ⟨a, [b], rfl, starts (.inr lead), by simp [tail], fun small => absurd small large⟩
  | @three a b c least _ second third =>
    obtain ⟨lead, large⟩ := beyond least (by decide)
    exact ⟨a, [b, c], rfl, starts (.inr lead), by simp [second, third], fun small => absurd small large⟩
  | @four a b c d least _ second third fourth =>
    obtain ⟨lead, large⟩ := beyond least (by decide)
    exact ⟨a, [b, c, d], rfl, starts (.inr lead), by simp [second, third, fourth], fun small => absurd small large⟩

/-- No byte of a character outside ASCII is one of a character inside it. -/
theorem le_of_mem_utf8EncodeChar (outside : 0x80 ≤ found.toNat) (member : b ∈ String.utf8EncodeChar found) :
    0x80 ≤ b := by
  obtain ⟨first, tails, written, _, continues, alone⟩ := (isCharacter_utf8EncodeChar found).exists_tails
  rw [written, List.mem_cons] at member
  rcases member with rfl | member
  · apply UInt8.not_lt.mp
    intro ascii
    have whole : encode [found] = encode [Char.ofNat b.toNat] := by
      rw [encode_cons, encode_cons, written, alone ascii, utf8EncodeChar_ofNat ascii]
    have same : [found] = [Char.ofNat b.toNat] :=
      Option.some.inj ((decode?_encode _).symm.trans (whole ▸ decode?_encode _))
    rw [(List.cons.inj same).1, toNat_ofNat_toNat] at outside
    exact absurd (UInt8.lt_iff_toNat_lt.mp ascii) (Nat.not_lt.mpr outside)
  · rw [UInt8.le_iff_toNat_le]
    exact (isTail_iff.mp (continues b member)).1

def StartsCharacter (bytes : List UInt8) : Prop := ∀ b ∈ bytes.head?, isTail b = false

theorem startsCharacter_utf8EncodeChar (c : Char) (rest : List UInt8) :
    StartsCharacter (String.utf8EncodeChar c ++ rest) := by
  obtain ⟨first, tails, written, starts, _, _⟩ := (isCharacter_utf8EncodeChar c).exists_tails
  rw [written]
  simpa [StartsCharacter] using starts

/-- Bytes of a text that are cut where a character starts are the bytes of two texts. -/
theorem exists_append_of_encode (starts : StartsCharacter right) (written : encode text = left ++ right) :
    ∃ front back, text = front ++ back ∧ encode front = left ∧ encode back = right := by
  induction text generalizing left with
  | nil =>
    obtain ⟨rfl, rfl⟩ := List.append_eq_nil_iff.mp written.symm
    exact ⟨[], [], rfl, rfl, rfl⟩
  | cons c text ih =>
    obtain ⟨first, tails, character, _, continues, _⟩ := (isCharacter_utf8EncodeChar c).exists_tails
    cases left with
    | nil => exact ⟨[], c :: text, rfl, rfl, written⟩
    | cons other left =>
      rw [encode_cons, character, List.cons_append, List.cons_append, List.cons.injEq] at written
      obtain ⟨rfl, written⟩ := written
      rcases List.append_eq_append_iff.mp written with ⟨more, rfl, rest⟩ | ⟨more, rfl, rest⟩
      · obtain ⟨front, back, rfl, rfl, rfl⟩ := ih rest
        exact ⟨c :: front, back, rfl, by rw [encode_cons, character]; rfl, rfl⟩
      · cases more with
        | nil =>
          refine ⟨[c], text, rfl, ?_, rest.symm⟩
          rw [encode_cons, character, List.append_nil]
          exact List.append_nil _
        | cons b more =>
          have inside := continues b (by simp)
          rw [starts b (by rw [rest]; rfl)] at inside
          cases inside

/-- Wherever a character starts, the bytes before it and those from there on can be read by themselves. -/
theorem decode?_append (starts : StartsCharacter right) (left : List UInt8) :
    decode? (left ++ right) = (decode? left).bind fun front => (decode? right).map (front ++ ·) := by
  apply Option.ext
  intro text
  simp only [decode?_eq_some_iff, Option.bind_eq_some_iff, Option.map_eq_some_iff]
  constructor
  · intro written
    obtain ⟨front, back, rfl, rfl, rfl⟩ := exists_append_of_encode starts written
    exact ⟨front, rfl, back, rfl, rfl⟩
  · rintro ⟨front, rfl, back, rfl, rfl⟩
    exact encode_append front back

end TypedPath.Utf8
