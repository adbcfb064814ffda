import TypedPath.Proofs.Number.Decimal
import TypedPath.Proofs.Scalar.Moment
import TypedPath.Scalar.Timestamp

namespace TypedPath.Moment

theorem sum_daysInMonth (year : Nat) :
    (([1, 2, 3, 4, 5, 6, 7, 8, 9, 10, 11, 12] : List Nat).map (daysInMonth year)).sum =
      if isLeap year then 366 else 365 := by
  cases leap : isLeap year <;> simp [daysInMonth, leap]

theorem monthAndDay_inside {year day : Nat} {months : List Nat}
    (room : day < (months.map (daysInMonth year)).sum) :
    (monthAndDay year months day).1 ∈ months ∧ 1 ≤ (monthAndDay year months day).2 ∧
      (monthAndDay year months day).2 ≤ daysInMonth year (monthAndDay year months day).1 := by
  induction months generalizing day with
  | nil => exact absurd room (Nat.not_lt_zero day)
  | cons month rest ih =>
    rw [List.map_cons, List.sum_cons] at room
    unfold monthAndDay
    split
    · rename_i inside
      exact ⟨List.mem_cons_self, Nat.succ_le_succ (Nat.zero_le day), inside⟩
    · rename_i outside
      have inRest : day - daysInMonth year month < (rest.map (daysInMonth year)).sum := by omega
      have later := ih inRest
      exact ⟨List.mem_cons_of_mem _ later.1, later.2⟩

theorem isLeap_last {ages centuries leaps : Nat} (short : leaps < 24 ∨ centuries = 3 ∧ leaps = 24) :
    isLeap (ages * 400 + centuries * 100 + leaps * 4 + 3 + 1) = true := by
  simp only [isLeap, Bool.and_eq_true, Bool.or_eq_true, decide_eq_true_eq]
  omega

theorem dayOfYear_lt (ages : Nat) {rest centuries leaps years : Nat} (inAge : rest < 146097)
    (wholeCenturies : centuries = min 3 (rest / 36524)) (wholeLeaps : leaps = (rest - centuries * 36524) / 1461)
    (wholeYears : years = min 3 ((rest - centuries * 36524) % 1461 / 365)) :
    (rest - centuries * 36524) % 1461 - years * 365 <
      if isLeap (ages * 400 + centuries * 100 + leaps * 4 + years + 1) then 366 else 365 := by
  have inCentury : rest - centuries * 36524 < 36524 ∨ centuries = 3 ∧ rest - centuries * 36524 = 36524 := by
    omega
  by_cases last : (rest - centuries * 36524) % 1461 = 1460
  · have end_of_four : years = 3 := by omega
    have short : leaps < 24 ∨ centuries = 3 ∧ leaps = 24 := by omega
    subst end_of_four
    rw [isLeap_last short]
    simp only [ite_true]
    omega
  · have fewer : (rest - centuries * 36524) % 1461 - years * 365 < 365 := by omega
    split <;> omega

theorem exists_ofDayNumber (zone : ZoneForm) (days : Nat) :
    ∃ centuries leaps years, centuries = min 3 (days % 146097 / 36524) ∧
      leaps = (days % 146097 - centuries * 36524) / 1461 ∧
      years = min 3 ((days % 146097 - centuries * 36524) % 1461 / 365) ∧
      ∃ year found, year = days / 146097 * 400 + centuries * 100 + leaps * 4 + years + 1 ∧
        found = monthAndDay year [1, 2, 3, 4, 5, 6, 7, 8, 9, 10, 11, 12]
          ((days % 146097 - centuries * 36524) % 1461 - years * 365) ∧
        ofDayNumber zone days = ofDate zone year found.1 found.2 := by
  unfold ofDayNumber
  exact ⟨_, _, _, rfl, rfl, rfl, _, _, rfl, rfl, rfl⟩

theorem ofDayNumber_year (zone : ZoneForm) (days : Nat) (inAge : days < 146097) :
    (ofDayNumber zone days).year ≤ 400 := by
  obtain ⟨_, _, _, _, _, _, year, _, isYear, _, same⟩ := exists_ofDayNumber zone days
  rw [same]
  show year ≤ 400
  omega

theorem ofDayNumber_isWritable (zone : ZoneForm) {days : Nat} (bound : days ≤ 3652058) :
    (ofDayNumber zone days).IsWritable := by
  obtain ⟨_, _, _, wholeCenturies, wholeLeaps, wholeYears, year, _, isYear, isFound, same⟩ :=
    exists_ofDayNumber zone days
  have late : year < 10000 := by omega
  have fits := dayOfYear_lt (days / 146097) (Nat.mod_lt days (by decide)) wholeCenturies wholeLeaps wholeYears
  rw [← isYear, ← sum_daysInMonth] at fits
  obtain ⟨monthInside, dayInside⟩ := monthAndDay_inside fits
  have month_bounds : ∀ month ∈ ([1, 2, 3, 4, 5, 6, 7, 8, 9, 10, 11, 12] : List Nat), 1 ≤ month ∧ month ≤ 12 := by
    decide
  rw [← isFound] at monthInside dayInside
  rw [same]
  exact isWritable_ofDate zone late (month_bounds _ monthInside) dayInside

theorem epoch_eq : epoch = 719162 := by
  decide

theorem ofSignedDay_isWritable (zone : ZoneForm) {days : Int} (bound : days ≤ 3652058)
    (dated : (ofSignedDay zone days).year ≠ 0) : (ofSignedDay zone days).IsWritable := by
  unfold ofSignedDay at dated ⊢
  split
  · exact ofDayNumber_isWritable zone (by omega)
  · rename_i negative
    rw [if_neg negative] at dated
    have early := ofDayNumber_year zone (days + 146097).toNat (by omega)
    exact absurd (Nat.sub_eq_zero_of_le early) dated

theorem ofSignedDay_zone (zone : ZoneForm) (days : Int) : (ofSignedDay zone days).zone = zone := by
  unfold ofSignedDay
  split
  · obtain ⟨_, _, _, _, _, _, _, _, _, _, same⟩ := exists_ofDayNumber zone days.toNat
    rw [same]
    rfl
  · obtain ⟨_, _, _, _, _, _, _, _, _, _, same⟩ := exists_ofDayNumber zone (days + 146097).toNat
    rw [same]
    rfl

variable {m : Moment}

theorem ofSeconds_isWritable {seconds : Int} {microsecond : Nat} (inSecond : microsecond < 1000000)
    (found : ofSeconds seconds microsecond = .ok m) (dated : m.year ≠ 0) :
    m.IsWritable ∧ m.zone = .seconds := by
  unfold ofSeconds at found
  split at found
  · cases found
  · split at found
    · cases found
    · rename_i late
      have last : greatestSecond = 253402300799 := rfl
      have day := epoch_eq
      cases found
      have inCalendar : epoch + seconds / 86400 ≤ 3652058 := by omega
      have date := ofSignedDay_isWritable .seconds inCalendar dated
      refine ⟨⟨date.year, date.month, date.day, ?_, ?_, ?_, inSecond, ?_⟩, ofSignedDay_zone _ _⟩
      · show (seconds % 86400).toNat / 3600 < 24
        omega
      · show (seconds % 86400).toNat / 60 % 60 < 60
        omega
      · show (seconds % 86400).toNat % 60 < 60
        omega
      · intro minutes given
        cases given
        decide

theorem ofMicroseconds_isWritable {count : Int} (found : ofMicroseconds count = .ok m) (dated : m.year ≠ 0) :
    m.IsWritable ∧ m.zone = .seconds :=
  ofSeconds_isWritable (by omega) found dated

theorem ofBinary64_isWritable {x : Binary64} (found : ofBinary64 x = .ok m) (dated : m.year ≠ 0) :
    m.IsWritable ∧ m.zone = .seconds := by
  unfold ofBinary64 at found
  split at found
  · exact ofMicroseconds_isWritable found dated
  · cases found
  · cases found
  · cases found

theorem read_isWritable {text : Text} (found : read .seconds text = .ok m) (dated : m.year ≠ 0) :
    m.IsWritable ∧ m.zone = .seconds := by
  unfold read at found
  split at found
  · exact ofMicroseconds_isWritable found dated
  · split at found
    · rename_i number
      cases found
      exact ofBinary64_isWritable number dated
    · exact readCalendar_isWritable found
  · exact readCalendar_isWritable found

theorem toText_eq_cons (writable : m.IsWritable) :
    ∃ a b c d rest, m.toText ' ' = a :: b :: c :: d :: '-' :: rest ∧ ∀ x ∈ [a, b, c, d], x.isDigit = true := by
  obtain ⟨a, b, c, d, year, value⟩ := exists_four_digits writable.year
  refine ⟨a, b, c, d, Text.padded 2 m.month ++ '-' :: (Text.padded 2 m.day ++
    ' ' :: (m.clockText ++ (m.fractionText ++ offsetText m.offset))), ?_, (Text.toNat?_eq_some_iff.mp value).2.1⟩
  simp only [toText, dateText, year, List.cons_append, List.nil_append, List.append_assoc]

/-- The text of a moment is no number: a hyphen follows its year. -/
theorem read_toText (writable : m.IsWritable) (zoned : m.zone = .seconds) :
    read .seconds (m.toText ' ') = .ok m := by
  have calendar := readCalendar_toText writable
  obtain ⟨a, b, c, d, rest, shape, digits⟩ := toText_eq_cons writable
  have first : a.isDigit = true := digits a List.mem_cons_self
  have hyphen : ('-' :: rest).takeWhile Char.isDigit = [] := rfl
  have uncounted : count? (m.toText ' ') = none := by
    have other : Text.toNat? (a :: b :: c :: d :: '-' :: rest) = none := by
      apply if_neg
      intro run
      have plain := List.all_eq_true.mp run.2 '-' (by simp)
      exact absurd plain (by decide)
    rw [shape, count?, Numeral.signed?_of_isDigit first]
    simp only [other, Option.bind_none]
  have whole : fractional? (m.toText ' ') = none := by
    have taken := Text.takeWhile_digits_append digits hyphen
    have dropped := Text.dropWhile_digits_append digits hyphen
    simp only [List.cons_append, List.nil_append] at taken dropped
    rw [shape, fractional?, Numeral.read?, Numeral.signed?_of_isDigit first]
    simp only [dropped]
    split
    · cases Text.toNat? _ <;> rfl
    · rfl
  rw [read, uncounted, whole, ← zoned]
  exact calendar

end TypedPath.Moment
