import TypedPath.Proofs.Text.Percent
import TypedPath.Proofs.Text.StrictUtf8

namespace TypedPath.Percent

def hexDigit? (b : UInt8) : Option UInt8 :=
  if 0x30 ≤ b ∧ b ≤ 0x39 then some (b - 0x30)
  else if 0x41 ≤ b ∧ b ≤ 0x46 then some (b - 0x37)
  else if 0x61 ≤ b ∧ b ≤ 0x66 then some (b - 0x57)
  else none

/-- Bytes with every `%` and the two digits after it replaced by the byte that they stand for. -/
def unescape : List UInt8 → List UInt8
  | 0x25 :: high :: low :: rest =>
    match hexDigit? high, hexDigit? low with
    | some h, some l => (16 * h + l) :: unescape rest
    | _, _ => 0x25 :: unescape (high :: low :: rest)
  | b :: rest => b :: unescape rest
  | [] => []
termination_by structural bytes => bytes

def Piece.bytes : Piece → List UInt8
  | .byte b => [b]
  | .raw c => String.utf8EncodeChar c

theorem Piece.bytes_ofChar (c : Char) : (Piece.ofChar c).bytes = String.utf8EncodeChar c := by
  unfold Piece.ofChar
  split
  · exact (Utf8.utf8EncodeChar_one ‹_›).symm
  · rfl

theorem hexDigit?_ofNat (n : Fin 128) :
    hexDigit? (UInt8.ofNat n.val) = (Text.hexValue? (Char.ofNat n.val)).map UInt8.ofNat := by
  revert n
  decide +kernel

theorem hexDigit?_of_ascii {c : Char} (ascii : c.toNat < 0x80) :
    hexDigit? (UInt8.ofNat c.toNat) = (Text.hexValue? c).map UInt8.ofNat := by
  have digit := hexDigit?_ofNat ⟨c.toNat, ascii⟩
  rwa [Char.ofNat_toNat] at digit

theorem hexDigit?_eq_none {b : UInt8} (beyond : 0x80 ≤ b) : hexDigit? b = none := by
  simp only [UInt8.le_iff_toNat_le, UInt8.reduceToNat] at beyond
  simp only [hexDigit?, UInt8.le_iff_toNat_le, UInt8.reduceToNat]
  grind

theorem hexValue?_eq_none {c : Char} (beyond : 0x80 ≤ c.toNat) : Text.hexValue? c = none := by
  have size (m : Char) (small : m.toNat < 0x80) : ¬ c ≤ m := by
    intro le
    have : c.toNat ≤ m.toNat := le
    omega
  simp only [Text.hexValue?, size '9' (by decide), size 'f' (by decide), size 'F' (by decide), and_false, ite_false]

variable {b high low h l : UInt8} {bytes more : List UInt8}

theorem unescape_cons (plain : b ≠ 0x25) (more : List UInt8) : unescape (b :: more) = b :: unescape more := by
  rw [unescape]
  intro high low rest same
  exact absurd same plain

theorem unescape_append (plain : ∀ b ∈ bytes, b ≠ 0x25) (more : List UInt8) :
    unescape (bytes ++ more) = bytes ++ unescape more := by
  induction bytes with
  | nil => rfl
  | cons b bytes ih =>
    obtain ⟨first, rest⟩ := List.forall_mem_cons.mp plain
    rw [List.cons_append, unescape_cons first, ih rest]
    rfl

theorem unescape_digits (first : hexDigit? high = some h) (second : hexDigit? low = some l) (more : List UInt8) :
    unescape (0x25 :: high :: low :: more) = (16 * h + l) :: unescape more := by
  simp only [unescape, first, second]

theorem unescape_percent (apart : ∀ high low rest h l, more = high :: low :: rest → hexDigit? high = some h →
    hexDigit? low ≠ some l) : unescape (0x25 :: more) = 0x25 :: unescape more := by
  match more with
  | [] | [_] => rfl
  | high :: low :: rest =>
    rw [unescape]
    split
    · rename_i h l first second
      exact absurd second (apart high low rest h l rfl first)
    · rfl

theorem exists_digit {rest : Text} (written : Utf8.encode rest = b :: more) (digit : hexDigit? b = some h) :
    ∃ c n after, rest = c :: after ∧ Text.hexValue? c = some n ∧ h = UInt8.ofNat n ∧ Utf8.encode after = more := by
  cases rest with
  | nil => cases written
  | cons c after =>
    rw [Utf8.encode_cons] at written
    by_cases ascii : c.toNat < 0x80
    · rw [Utf8.utf8EncodeChar_one ascii, List.singleton_append, List.cons.injEq] at written
      obtain ⟨rfl, rfl⟩ := written
      rw [hexDigit?_of_ascii ascii, Option.map_eq_some_iff] at digit
      obtain ⟨n, value, rfl⟩ := digit
      exact ⟨c, n, after, rfl, value, rfl, rfl⟩
    · have first : b ∈ String.utf8EncodeChar c := by
        obtain ⟨lead, tails, bytes, _⟩ := (Utf8.isCharacter_utf8EncodeChar c).exists_tails
        rw [bytes, List.cons_append, List.cons.injEq] at written
        rw [bytes, written.1]
        exact List.mem_cons_self
      rw [hexDigit?_eq_none (Utf8.le_of_mem_utf8EncodeChar (Nat.not_lt.mp ascii) first)] at digit
      cases digit

theorem hexDigit?_of_hexValue? {c : Char} {n : Nat} (value : Text.hexValue? c = some n) :
    String.utf8EncodeChar c = [UInt8.ofNat c.toNat] ∧ hexDigit? (UInt8.ofNat c.toNat) = some (UInt8.ofNat n) := by
  by_cases ascii : c.toNat < 0x80
  · rw [hexDigit?_of_ascii ascii, value]
    exact ⟨Utf8.utf8EncodeChar_one ascii, rfl⟩
  · rw [hexValue?_eq_none (Nat.not_lt.mp ascii)] at value
    cases value

theorem unescape_encode_percent (rest : Text) (unread : ∀ c d after, rest = c :: d :: after → escapedByte? c d = none) :
    unescape (0x25 :: Utf8.encode rest) = 0x25 :: unescape (Utf8.encode rest) := by
  apply unescape_percent
  intro high low more h l written first second
  obtain ⟨c, n, after, rfl, value, _, written⟩ := exists_digit written first
  obtain ⟨d, m, after, rfl, other, _, _⟩ := exists_digit written second
  have read := unread c d after rfl
  simp only [escapedByte?, value, other] at read
  cases read

/-- The pieces of a component stand for its bytes, where an escape stands for the byte that it denotes. -/
theorem bytes_pieces (part : Text) : (pieces part).flatMap Piece.bytes = unescape (Utf8.encode part) := by
  fun_induction pieces part with
  | case1 high low rest b read ih =>
    unfold escapedByte? at read
    split at read
    · rename_i h l first second
      cases read
      obtain ⟨firstByte, firstDigit⟩ := hexDigit?_of_hexValue? first
      obtain ⟨secondByte, secondDigit⟩ := hexDigit?_of_hexValue? second
      have percent : String.utf8EncodeChar '%' = [0x25] := rfl
      rw [Utf8.encode_cons, Utf8.encode_cons, Utf8.encode_cons, firstByte, secondByte, percent]
      have denoted : 16 * UInt8.ofNat h + UInt8.ofNat l = UInt8.ofNat (h * 16 + l) := by
        rw [UInt8.ofNat_add, UInt8.ofNat_mul, UInt8.mul_comm]
        rfl
      simp only [List.singleton_append]
      rw [unescape_digits firstDigit secondDigit, denoted, ← ih]
      rfl
    · cases read
  | case2 high low rest unread ih =>
    have whole := unescape_encode_percent (high :: low :: rest) (fun c d after same => by
      cases same
      exact unread)
    rw [List.flatMap_cons, ih]
    exact whole.symm
  | case3 c rest other ih =>
    rw [List.flatMap_cons, ih, Piece.bytes_ofChar, Utf8.encode_cons]
    by_cases percent : c = '%'
    · subst percent
      have whole := unescape_encode_percent rest (fun high low after same => (other high low after rfl same).elim)
      exact whole.symm
    · refine (unescape_append (fun b member same => percent ?_) _).symm
      subst same
      by_cases ascii : c.toNat < 0x80
      · rw [Utf8.utf8EncodeChar_one ascii, List.mem_singleton] at member
        have point := (Utf8.ofNat_eq_iff (by omega)).mp member.symm
        exact Char.toNat_inj.mp point
      · exact absurd (Utf8.le_of_mem_utf8EncodeChar (Nat.not_lt.mp ascii) member) (by decide)
  | case4 => rfl

def runBytes (run : Char × List UInt8) : List UInt8 := String.utf8EncodeChar run.1 ++ run.2

theorem bytes_runs (found : List Piece) :
    (runs found).1 ++ (runs found).2.flatMap runBytes = found.flatMap Piece.bytes := by
  induction found with
  | nil => rfl
  | cons piece rest ih =>
    cases piece with
    | byte b =>
      rw [runs, List.flatMap_cons, ← ih]
      rfl
    | raw c =>
      rw [runs, List.flatMap_cons, List.flatMap_cons, ← ih]
      simp only [runBytes, List.nil_append, List.append_assoc]
      rfl

theorem startsCharacter_runBytes (rest : List (Char × List UInt8)) : Utf8.StartsCharacter (rest.flatMap runBytes) := by
  cases rest with
  | nil => exact nofun
  | cons run rest =>
    rw [List.flatMap_cons, runBytes, List.append_assoc]
    exact Utf8.startsCharacter_utf8EncodeChar run.1 _

theorem decodeRuns?_eq (rest : List (Char × List UInt8)) : decodeRuns? rest = Utf8.decode? (rest.flatMap runBytes) := by
  induction rest with
  | nil => rfl
  | cons run rest ih =>
    obtain ⟨c, run⟩ := run
    rw [decodeRuns?, ih, List.flatMap_cons, runBytes, List.append_assoc, Utf8.decode?_utf8EncodeChar,
      Utf8.decode?_append (startsCharacter_runBytes rest)]
    cases Utf8.decode? run <;> cases Utf8.decode? (rest.flatMap runBytes) <;> rfl

/-- Reading run by run comes to the same as reading all bytes at once. -/
theorem assemble_eq (found : List Piece) : assemble found = Utf8.decode? (found.flatMap Piece.bytes) := by
  rw [← bytes_runs, Utf8.decode?_append (startsCharacter_runBytes _), assemble, decodeRuns?_eq]
  cases Utf8.decode? (runs found).1 <;> cases Utf8.decode? ((runs found).2.flatMap runBytes) <;> rfl

theorem decode?_eq_decode?_unescape (part : Text) : decode? part = Utf8.decode? (unescape (Utf8.encode part)) := by
  rw [decode?, assemble_eq, bytes_pieces]

/-- A component is decoded to the text whose bytes are its own with all escapes replaced, and to nothing
    exactly when these are not valid. -/
theorem strict_decoding (part : Text) :
    (∀ text, decode? part = some text ↔ Utf8.encode text = unescape (Utf8.encode part)) ∧
      (decode? part = none ↔ ¬ Utf8.IsValid (unescape (Utf8.encode part))) := by
  rw [decode?_eq_decode?_unescape]
  exact ⟨fun text => Utf8.decode?_eq_some_iff, Utf8.decode?_eq_none_iff⟩

-- What stands before an escape is not read again together with what it denotes.
example : decode? "%4%41" = some "%4A" := by decide +kernel

end TypedPath.Percent
