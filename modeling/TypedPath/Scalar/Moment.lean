import TypedPath.Text.Utf8

namespace TypedPath

/-- How an offset is shown: as a zone of the calendar, or as a bare number of seconds. -/
inductive ZoneForm
  | calendar
  | seconds
deriving DecidableEq, Repr

/-- The offset is in minutes. -/
structure Moment where
  year : Nat
  month : Nat
  day : Nat
  hour : Nat
  minute : Nat
  second : Nat
  microsecond : Nat
  offset : Option Int
  zone : ZoneForm
deriving DecidableEq, Repr

namespace Moment

def isLeap (year : Nat) : Bool := year % 4 = 0 && (year % 100 ≠ 0 || year % 400 = 0)

def daysInMonth (year month : Nat) : Nat :=
  if month = 2 then (if isLeap year then 29 else 28)
  else if [4, 6, 9, 11].contains month then 30 else 31

def dateText (m : Moment) : Text :=
  Text.padded 4 m.year ++ '-' :: Text.padded 2 m.month ++ '-' :: Text.padded 2 m.day

def clockText (m : Moment) : Text :=
  Text.padded 2 m.hour ++ ':' :: Text.padded 2 m.minute ++ ':' :: Text.padded 2 m.second

def fractionText (m : Moment) : Text :=
  if m.microsecond = 0 then [] else '.' :: Text.padded 6 m.microsecond

def offsetText : Option Int → Text
  | none => []
  | some minutes =>
    (if minutes < 0 then '-' else '+') :: Text.padded 2 (minutes.natAbs / 60) ++
      ':' :: Text.padded 2 (minutes.natAbs % 60)

def toText (separator : Char) (m : Moment) : Text :=
  m.dateText ++ separator :: m.clockText ++ m.fractionText ++ offsetText m.offset

def dayNumber (year month day : Nat) : Int :=
  let past : Int := year - 1
  let months := (List.range (month - 1)).foldl (fun days i => days + daysInMonth year (i + 1)) 0
  past * 365 + past / 4 - past / 100 + past / 400 + months + day - 1

def clock (m : Moment) : Int :=
  let minutes := (dayNumber m.year m.month m.day * 24 + m.hour) * 60 + m.minute
  (minutes * 60 + m.second) * 1000000 + m.microsecond

def instant (m : Moment) : Int := m.clock - m.offset.getD 0 * 60000000

def comparable (left right : Moment) : Bool := left.offset.isSome = right.offset.isSome

def same (left right : Moment) : Bool :=
  left.comparable right && left.instant = right.instant

def scaled (left right : Moment) : Int × Int :=
  if left.offset.isSome && right.offset.isSome then (left.instant, right.instant)
  else (left.clock, right.clock)

def zoneText (offset : Option Int) : Text :=
  if offset = some 0 then ['Z'] else offsetText offset

def boundText (m : Moment) : Text :=
  m.dateText ++ 'T' :: m.clockText ++ m.fractionText ++ zoneText m.offset

def nextDay (m : Moment) : Moment :=
  if m.day < daysInMonth m.year m.month then { m with day := m.day + 1 }
  else if m.month < 12 then { m with month := m.month + 1, day := 1 }
  else { m with year := m.year + 1, month := 1, day := 1 }

def previousDay (m : Moment) : Moment :=
  if 1 < m.day then { m with day := m.day - 1 }
  else if 1 < m.month then
    { m with month := m.month - 1, day := daysInMonth m.year (m.month - 1) }
  else { m with year := m.year - 1, month := 12, day := 31 }

def universal (m : Moment) : Moment :=
  let minutes : Int := (m.hour * 60 + m.minute : Nat) - m.offset.getD 0
  let shifted := if minutes < 0 then m.previousDay else if minutes < 1440 then m else m.nextDay
  let ofDay := (minutes % 1440).toNat
  { shifted with hour := ofDay / 60, minute := ofDay % 60, offset := some 0 }

def milliText (m : Moment) : Text :=
  let u := m.universal
  u.dateText ++ 'T' :: u.clockText ++ '.' :: Text.padded 3 (u.microsecond / 1000) ++ ['Z']

def ofDate (zone : ZoneForm) (year month day : Nat) : Moment :=
  ⟨year, month, day, 0, 0, 0, 0, none, zone⟩

def monthAndDay (year : Nat) : (months : List Nat) → (day : Nat) → Nat × Nat
  | [], day => (12, day + 1)
  | month :: rest, day =>
    if day < daysInMonth year month then (month, day + 1)
    else monthAndDay year rest (day - daysInMonth year month)

/-- The date so many days after the first day of year 1. Leap days come at the end of four years, of
    a hundred and of four hundred, so the last year of each may be the longer one. -/
def ofDayNumber (zone : ZoneForm) (days : Nat) : Moment :=
  let ages := days / 146097
  let rest := days % 146097
  let centuries := min 3 (rest / 36524)
  let rest := rest - centuries * 36524
  let leaps := rest / 1461
  let rest := rest % 1461
  let years := min 3 (rest / 365)
  let year := ages * 400 + centuries * 100 + leaps * 4 + years + 1
  let (month, day) :=
    monthAndDay year [1, 2, 3, 4, 5, 6, 7, 8, 9, 10, 11, 12] (rest - years * 365)
  ofDate zone year month day

/-- As many days before or after the first day of year 1, but not before year 0. The calendar is the
    same after 400 years. -/
def ofSignedDay (zone : ZoneForm) (days : Int) : Moment :=
  if 0 ≤ days then ofDayNumber zone days.toNat
  else
    let later := ofDayNumber zone (days + 146097).toNat
    { later with year := later.year - 400 }

inductive Fault
  | tooShort
  | yearCharacter
  | monthCharacter
  | dayCharacter
  | separator
  | monthRange
  | dayRange
  | trailing
  | tooEarly
  | tooLate
  | undefined
  | yearZero
deriving DecidableEq, Repr

def Fault.message : Fault → Text
  | .tooShort => "input is too short"
  | .yearCharacter => "invalid character in year"
  | .monthCharacter => "invalid character in month"
  | .dayCharacter => "invalid character in day"
  | .separator => "invalid date separator, expected `-`"
  | .monthRange => "month value is outside expected range of 1-12"
  | .dayRange => "day value is outside expected range"
  | .trailing => "unexpected extra characters at the end of the input"
  | .tooEarly => "dates before 0000 are not supported as unix timestamps"
  | .tooLate => "dates after 9999 are not supported as unix timestamps"
  | .undefined => "NaN values not permitted"
  | .yearZero => "year 0 is out of range"

def number (fault : Fault) (digits : Text) : Except Fault Nat :=
  match Text.toNat? digits with
  | some n => .ok n
  | none => .error fault

/-- The date at the start of a text of at least ten bytes, at midnight. A character of more than
    one byte is never part of a date, so positions can be counted in characters. -/
def readDate (zone : ZoneForm) (text : Text) : Except Fault Moment := do
  let year ← number .yearCharacter (text.take 4)
  if text[4]? ≠ some '-' then .error .separator
  let month ← number .monthCharacter ((text.drop 5).take 2)
  if text[7]? ≠ some '-' then .error .separator
  let day ← number .dayCharacter ((text.drop 8).take 2)
  if month < 1 ∨ 12 < month then .error .monthRange
  if day < 1 ∨ daysInMonth year month < day then .error .dayRange
  return ofDate zone year month day

def twoDigits? (bound : Nat) (text : Text) : Option (Nat × Text) :=
  match text with
  | a :: b :: rest =>
    match Text.toNat? [a, b] with
    | some n => if n < bound then some (n, rest) else none
    | none => none
  | _ => none

def mark? (mark : Char) : Text → Option Text
  | c :: rest => if c = mark then some rest else none
  | [] => none

def fraction? (text : Text) : Option (Nat × Text) :=
  match text with
  | c :: rest =>
    if c = '.' ∨ c = ',' then
      let digits := rest.takeWhile Char.isDigit
      let counted := digits.take 6
      (Text.toNat? counted).map fun n =>
        (n * Nat.pow 10 (6 - counted.length), rest.drop digits.length)
    else some (0, text)
  | [] => some (0, [])

def seconds? (text : Text) : Option (Nat × Nat × Text) :=
  match text with
  | ':' :: rest => do
    let (second, rest) ← twoDigits? 60 rest
    let (microsecond, rest) ← fraction? rest
    return (second, microsecond, rest)
  | rest => some (0, 0, rest)

def offsetSize? (text : Text) : Option Nat := do
  let (hours, rest) ← twoDigits? 24 text
  let (minutes, rest) ← twoDigits? 60 ((mark? ':' rest).getD rest)
  if rest = [] then some (hours * 60 + minutes) else none

def offset? (text : Text) : Option (Option Int) :=
  match text with
  | [] => some none
  | c :: rest =>
    if c = 'Z' ∨ c = 'z' then (if rest = [] then some (some 0) else none)
    else if c = '+' then (offsetSize? rest).map fun size => some (size : Int)
    else if c = '-' ∨ c.toNat = 0x2212 then
      (offsetSize? rest).map fun size => some (-(size : Int))
    else none

def readClock? (date : Moment) (text : Text) : Option Moment := do
  let (hour, rest) ← twoDigits? 24 text
  let rest ← mark? ':' rest
  let (minute, rest) ← twoDigits? 60 rest
  let (second, microsecond, rest) ← seconds? rest
  let offset ← offset? rest
  return { date with hour, minute, second, microsecond, offset }

def isSeparator (c : Char) : Bool := c = 'T' || c = 't' || c = '_' || c = ' '

def readCalendar (zone : ZoneForm) (text : Text) : Except Fault Moment :=
  if (Utf8.encode text).length < 10 then .error .tooShort
  else
    match readDate zone text with
    | .error fault => .error fault
    | .ok date =>
      match text.drop 10 with
      | [] => .ok date
      | c :: rest =>
        if isSeparator c then
          match readClock? date rest with
          | some m => .ok m
          | none => .error .trailing
        else .error .trailing

end Moment

end TypedPath
