import Mathlib.Data.List.Basic
import TypedPath.Proofs.Text.Digits
import TypedPath.Proofs.Text.Utf8
import TypedPath.Scalar.Moment

namespace TypedPath.Moment

structure IsWritable (m : Moment) : Prop where
  year : m.year < 10000
  month : 1 ≤ m.month ∧ m.month ≤ 12
  day : 1 ≤ m.day ∧ m.day ≤ daysInMonth m.year m.month
  hour : m.hour < 24
  minute : m.minute < 60
  second : m.second < 60
  microsecond : m.microsecond < 1000000
  offset : ∀ minutes, m.offset = some minutes → minutes.natAbs < 1440

theorem daysInMonth_le (year month : Nat) : daysInMonth year month ≤ 31 := by
  unfold daysInMonth
  split
  · split <;> decide
  · split <;> decide

section Writing

theorem exists_two_digits {n : Nat} (bound : n < 100) :
    ∃ a b, Text.padded 2 n = [a, b] ∧ Text.toNat? [a, b] = some n := by
  obtain ⟨a, b, digits⟩ := List.length_eq_two.mp (Text.length_padded (by decide : 0 < 2) bound)
  exact ⟨a, b, digits, digits ▸ Text.toNat?_padded 2 n⟩

theorem exists_four_digits {n : Nat} (bound : n < 10000) :
    ∃ a b c d, Text.padded 4 n = [a, b, c, d] ∧ Text.toNat? [a, b, c, d] = some n := by
  obtain ⟨a, b, c, d, digits⟩ := List.length_eq_four.mp (Text.length_padded (by decide : 0 < 4) bound)
  exact ⟨a, b, c, d, digits, digits ▸ Text.toNat?_padded 4 n⟩

theorem twoDigits?_padded {n bound : Nat} (inside : n < bound) (most : bound ≤ 100) (rest : Text) :
    twoDigits? bound (Text.padded 2 n ++ rest) = some (n, rest) := by
  obtain ⟨a, b, digits, value⟩ := exists_two_digits (Nat.lt_of_lt_of_le inside most)
  rw [digits]
  simp only [List.cons_append, List.nil_append, twoDigits?, value, inside, ite_true]

theorem takeWhile_offsetText (offset : Option Int) : (offsetText offset).takeWhile Char.isDigit = [] := by
  cases offset with
  | none => rfl
  | some minutes =>
    simp only [offsetText]
    split <;> rfl

theorem fraction?_offsetText (offset : Option Int) :
    fraction? (offsetText offset) = some (0, offsetText offset) := by
  cases offset with
  | none => rfl
  | some minutes =>
    simp only [offsetText]
    split <;> rfl

theorem offsetSize?_padded {size : Nat} (bound : size < 1440) :
    offsetSize? (Text.padded 2 (size / 60) ++ ':' :: Text.padded 2 (size % 60)) = some size := by
  have hours := twoDigits?_padded (n := size / 60) (by omega) (by decide : 24 ≤ 100)
    (':' :: Text.padded 2 (size % 60))
  have minutes := twoDigits?_padded (n := size % 60) (by omega) (by decide : 60 ≤ 100) []
  rw [List.append_nil] at minutes
  have whole : size / 60 * 60 + size % 60 = size := by omega
  unfold offsetSize?
  simp only [hours, Option.bind_eq_bind, Option.bind_some, mark?, ite_true, Option.getD_some, minutes, whole]

theorem offset?_offsetText {offset : Option Int} (bound : ∀ minutes, offset = some minutes → minutes.natAbs < 1440) :
    offset? (offsetText offset) = some offset := by
  cases offset with
  | none => rfl
  | some minutes =>
    have size := offsetSize?_padded (bound minutes rfl)
    by_cases negative : minutes < 0
    · have value : -(minutes.natAbs : Int) = minutes := by omega
      simp only [offsetText, negative, ite_true, List.cons_append, offset?, size]
      show some (some (-(minutes.natAbs : Int))) = some (some minutes)
      rw [value]
    · have value : (minutes.natAbs : Int) = minutes := by omega
      simp only [offsetText, negative, ite_false, List.cons_append, offset?, size]
      show some (some (minutes.natAbs : Int)) = some (some minutes)
      rw [value]

end Writing

variable {m : Moment}

theorem fraction?_fractionText (bound : m.microsecond < 1000000) :
    fraction? (m.fractionText ++ offsetText m.offset) = some (m.microsecond, offsetText m.offset) := by
  unfold fractionText
  split
  · rename_i zero
    rw [List.nil_append, fraction?_offsetText, zero]
  · have width : (Text.padded 6 m.microsecond).length = 6 := Text.length_padded (by decide) bound
    have plain : ∀ c ∈ Text.padded 6 m.microsecond, c.isDigit = true := fun c => Text.isDigit_of_mem_padded
    have digits := Text.takeWhile_digits_append plain (takeWhile_offsetText m.offset)
    simp only [List.cons_append, fraction?, true_or, ite_true, digits]
    rw [List.take_of_length_le (Nat.le_of_eq width), List.drop_left, Text.toNat?_padded, width]
    simp

theorem readClock?_clockText (writable : m.IsWritable) (date : Moment) :
    readClock? date (m.clockText ++ m.fractionText ++ offsetText m.offset) =
      some { date with
        hour := m.hour, minute := m.minute, second := m.second
        microsecond := m.microsecond, offset := m.offset } := by
  have hour := twoDigits?_padded writable.hour (by decide)
  have minute := twoDigits?_padded writable.minute (by decide)
  have second := twoDigits?_padded writable.second (by decide)
  unfold readClock? clockText
  simp only [List.append_assoc, List.cons_append, hour, Option.bind_eq_bind, Option.bind_some, mark?, ite_true,
    minute, seconds?, second, fraction?_fractionText writable.microsecond, Option.pure_def,
    offset?_offsetText writable.offset]

theorem readDate_dateText (writable : m.IsWritable) (zone : ZoneForm) (rest : Text) :
    readDate zone (m.dateText ++ rest) = .ok (ofDate zone m.year m.month m.day) := by
  have most := daysInMonth_le m.year m.month
  have lastDay := writable.day
  have lastMonth := writable.month
  obtain ⟨a, b, c, d, year, yearValue⟩ := exists_four_digits writable.year
  obtain ⟨e, f, month, monthValue⟩ := exists_two_digits (n := m.month) (by omega)
  obtain ⟨g, h, day, dayValue⟩ := exists_two_digits (n := m.day) (by omega)
  have monthInside : ¬ (m.month = 0 ∨ 12 < m.month) := by omega
  have dayInside : ¬ (m.day = 0 ∨ daysInMonth m.year m.month < m.day) := by omega
  unfold readDate dateText
  rw [year, month, day]
  simp only [List.cons_append, List.nil_append, List.take_succ_cons, List.take_zero, List.drop_succ_cons,
    List.drop_zero, number, yearValue, monthValue, dayValue]
  simp [bind, Except.bind, pure, Except.pure]
  rw [if_neg monthInside, if_neg dayInside]

theorem length_dateText (writable : m.IsWritable) : m.dateText.length = 10 := by
  have most := daysInMonth_le m.year m.month
  have lastDay := writable.day
  have lastMonth := writable.month
  have year : (Text.padded 4 m.year).length = 4 := Text.length_padded (by decide) writable.year
  have month : (Text.padded 2 m.month).length = 2 := Text.length_padded (by decide) (by omega)
  have day : (Text.padded 2 m.day).length = 2 := Text.length_padded (by decide) (by omega)
  simp only [dateText, List.length_append, List.length_cons, year, month, day]

theorem readCalendar_toText (writable : m.IsWritable) :
    readCalendar m.zone (m.toText ' ') = .ok m := by
  have size := length_dateText writable
  have shape : m.toText ' ' = m.dateText ++ ' ' :: (m.clockText ++ m.fractionText ++ offsetText m.offset) := by
    simp only [toText, List.append_assoc, List.cons_append]
  have long : ¬ (Utf8.encode (m.toText ' ')).length < 10 := by
    have least := Utf8.length_le_length_encode (m.toText ' ')
    have parts : (m.toText ' ').length = 10 + (m.clockText ++ m.fractionText ++ offsetText m.offset).length + 1 := by
      rw [shape, List.length_append, List.length_cons, size]
      omega
    omega
  have tail : (m.dateText ++ ' ' :: (m.clockText ++ m.fractionText ++ offsetText m.offset)).drop 10 =
      ' ' :: (m.clockText ++ m.fractionText ++ offsetText m.offset) := by
    rw [← size, List.drop_left]
  unfold readCalendar
  rw [if_neg long, shape, readDate_dateText writable]
  simp only [tail, isSeparator, decide_true, Bool.or_true, ite_true, readClock?_clockText writable]
  rfl

section Reading

theorem twoDigits?_lt {n bound : Nat} {text rest : Text} (found : twoDigits? bound text = some (n, rest)) :
    n < bound := by
  unfold twoDigits? at found
  split at found
  · split at found
    · split at found
      · rename_i inside
        cases found
        exact inside
      · cases found
    · cases found
  · cases found

theorem fraction?_lt {n : Nat} {text rest : Text} (found : fraction? text = some (n, rest)) : n < 1000000 := by
  unfold fraction? at found
  split at found
  · split at found
    · obtain ⟨value, read, pair⟩ := Option.map_eq_some_iff.mp found
      cases pair
      have bound := Text.toNat?_lt read
      have width := List.length_take_le 6 (List.takeWhile Char.isDigit ‹Text›)
      have power := Nat.pow_le_pow_right (by decide : 0 < 10) width
      calc
        value * 10 ^ (6 - (List.take 6 (List.takeWhile Char.isDigit _)).length)
          < 10 ^ (List.take 6 (List.takeWhile Char.isDigit _)).length *
              10 ^ (6 - (List.take 6 (List.takeWhile Char.isDigit _)).length) :=
          Nat.mul_lt_mul_of_pos_right bound (Nat.pow_pos (by decide))
        _ = 10 ^ 6 := by rw [← Nat.pow_add, Nat.add_sub_cancel' width]
    · cases found
      decide
  · cases found
    decide

theorem seconds?_lt {second microsecond : Nat} {text rest : Text}
    (found : seconds? text = some (second, microsecond, rest)) : second < 60 ∧ microsecond < 1000000 := by
  unfold seconds? at found
  split at found
  · simp only [Option.bind_eq_bind, Option.bind_eq_some_iff, Option.pure_def, Option.some.injEq, Prod.mk.injEq,
      Prod.exists] at found
    obtain ⟨second', others, digits, fraction, last, point, rfl, rfl, rfl⟩ := found
    exact ⟨twoDigits?_lt digits, fraction?_lt point⟩
  · cases found
    decide

theorem offsetSize?_lt {size : Nat} {text : Text} (found : offsetSize? text = some size) : size < 1440 := by
  simp only [offsetSize?, Option.bind_eq_bind, Option.bind_eq_some_iff, Prod.exists] at found
  obtain ⟨hours, others, hourDigits, minutes, last, minuteDigits, found⟩ := found
  have hourBound := twoDigits?_lt hourDigits
  have minuteBound := twoDigits?_lt minuteDigits
  split at found
  · cases found
    omega
  · cases found

theorem offset?_lt {offset : Option Int} {text : Text} (found : offset? text = some offset) {minutes : Int}
    (given : offset = some minutes) : minutes.natAbs < 1440 := by
  subst given
  unfold offset? at found
  split at found
  · cases found
  · split at found
    · split at found
      · cases found
        decide
      · cases found
    · rename_i c rest unzoned
      cases size : offsetSize? rest with
      | none =>
        rw [size] at found
        split at found
        · cases found
        · split at found <;> cases found
      | some n =>
        have bound := offsetSize?_lt size
        rw [size] at found
        split at found
        · cases found
          omega
        · split at found
          · cases found
            omega
          · cases found

theorem readClock?_isWritable {date : Moment} {text : Text} (dated : date.IsWritable)
    (found : readClock? date text = some m) : m.IsWritable ∧ m.zone = date.zone := by
  simp only [readClock?, Option.bind_eq_bind, Option.bind_eq_some_iff, Option.pure_def, Option.some.injEq,
    Prod.exists] at found
  obtain ⟨hour, afterHour, hourDigits, marked, _, minute, afterMinute, minuteDigits, second, microsecond,
    afterSecond, seconds, offset, zone, rfl⟩ := found
  obtain ⟨secondBound, microsecondBound⟩ := seconds?_lt seconds
  exact ⟨⟨dated.year, dated.month, dated.day, twoDigits?_lt hourDigits, twoDigits?_lt minuteDigits, secondBound,
    microsecondBound, fun minutes => offset?_lt zone⟩, rfl⟩

theorem number_eq_ok {fault : Fault} {digits : Text} {n : Nat} (found : number fault digits = .ok n) :
    Text.toNat? digits = some n := by
  unfold number at found
  split at found
  · cases found
    assumption
  · cases found

theorem isWritable_ofDate {year month day : Nat} (zone : ZoneForm) (yearBound : year < 10000)
    (monthBound : 1 ≤ month ∧ month ≤ 12) (dayBound : 1 ≤ day ∧ day ≤ daysInMonth year month) :
    (ofDate zone year month day).IsWritable :=
  ⟨yearBound, monthBound, dayBound, Nat.zero_lt_succ _, Nat.zero_lt_succ _, Nat.zero_lt_succ _,
    Nat.zero_lt_succ _, nofun⟩

theorem readDate_isWritable {zone : ZoneForm} {text : Text} (found : readDate zone text = .ok m) :
    m.IsWritable ∧ m.zone = zone := by
  simp only [readDate, bind, Except.bind, pure, Except.pure] at found
  split at found
  · cases found
  · rename_i year yearRead
    have width := List.length_take_le 4 text
    have bound : year < 10000 :=
      Nat.lt_of_lt_of_le (Text.toNat?_lt (number_eq_ok yearRead)) (Nat.pow_le_pow_right (by decide) width)
    grind [isWritable_ofDate, ofDate]

theorem readCalendar_isWritable {zone : ZoneForm} {text : Text} (found : readCalendar zone text = .ok m) :
    m.IsWritable ∧ m.zone = zone := by
  unfold readCalendar at found
  split at found
  · cases found
  · split at found
    · cases found
    · rename_i date dateRead
      obtain ⟨dated, zoned⟩ := readDate_isWritable dateRead
      split at found
      · cases found
        exact ⟨dated, zoned⟩
      · split at found
        · split at found
          · rename_i read clockRead
            cases found
            obtain ⟨writable, kept⟩ := readClock?_isWritable dated clockRead
            exact ⟨writable, kept.trans zoned⟩
          · cases found
        · cases found

end Reading

end TypedPath.Moment
