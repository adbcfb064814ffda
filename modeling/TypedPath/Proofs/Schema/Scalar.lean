import TypedPath.Proofs.Number.Decimal
import TypedPath.Proofs.Number.WholeNumber
import TypedPath.Proofs.Scalar.Timestamp
import TypedPath.Proofs.Scalar.Uuid
import TypedPath.Proofs.Schema.Telling
import TypedPath.Schema.Validation
import TypedPath.Validator.Basic

namespace TypedPath

namespace Outcome

theorem ofLimits_eq_ok_iff {limits : List Limit} {input value v : Value} :
    ofLimits limits input value = .ok v ↔ value = v ∧ Limit.checkAll v limits = .ok none := by
  unfold ofLimits
  constructor
  · intro h
    split at h
    · rename_i kept
      cases h
      exact ⟨rfl, kept⟩
    · cases h
    · cases h
  · intro h
    obtain ⟨rfl, kept⟩ := h
    rw [kept]

theorem keeping_eq_ok_iff {limits : List Limit} {input v : Value} {outcome : Outcome Value} :
    keeping limits input outcome = .ok v ↔ outcome = .ok v ∧ Limit.checkAll v limits = .ok none := by
  unfold keeping
  cases outcome with
  | error setback => exact iff_of_false nofun (fun h => nomatch h.1)
  | ok value =>
    show ofLimits limits input value = .ok v ↔ _
    rw [ofLimits_eq_ok_iff, Except.ok.injEq]

theorem ofReading_eq_ok_iff {α : Type} {wrap : α → Value} {input v : Value} {reading : Except Problem α} :
    ofReading wrap input reading = .ok v ↔ reading.map wrap = .ok v := by
  cases reading with
  | error problem => exact iff_of_false nofun nofun
  | ok a => constructor <;> (intro h; cases h; rfl)

end Outcome

theorem readBounded_eq_ok_iff {limits : Limits} {input v : Value} {reading : Except Problem Value} :
    readBounded limits input reading = .ok v ↔ reading = .ok v ∧ Bound.broken? limits v = none := by
  unfold readBounded
  cases reading with
  | error problem => exact iff_of_false nofun (fun h => nomatch h.1)
  | ok value =>
    rw [Except.ok.injEq]
    constructor
    · intro h
      simp only at h
      split at h
      · cases h
      · rename_i kept
        cases h
        exact ⟨rfl, kept⟩
    · intro h
      obtain ⟨rfl, kept⟩ := h
      simp only [kept]

theorem readMoment_eq_ok_iff {limits : Limits} {input v : Value} :
    readMoment limits input = .ok v ↔
      (((Reading.moment input).bind Reading.dated).map Value.moment = .ok v) ∧ Bound.broken? limits v = none := by
  unfold readMoment
  cases Reading.moment input with
  | error problem => exact iff_of_false nofun (fun h => nomatch h.1)
  | ok m =>
    have bounded : ((Reading.dated m).map Value.moment = .ok v) ↔ m.year ≠ 0 ∧ .moment m = v := by
      unfold Reading.dated
      by_cases zero : m.year = 0 <;> simp [Except.map, zero]
    simp only [Except.bind, bounded]
    cases kept : Bound.broken? limits (.moment m) with
    | none =>
      have read : readBounded limits input ((Except.ok m).map Value.moment) = .ok (.moment m) :=
        readBounded_eq_ok_iff.mpr ⟨rfl, kept⟩
      rw [read]
      show Outcome.ofReading Value.moment input (Reading.dated m) = .ok v ↔ _
      rw [Outcome.ofReading_eq_ok_iff, bounded]
      constructor
      · intro h
        obtain ⟨dated, rfl⟩ := h
        exact ⟨⟨dated, rfl⟩, kept⟩
      · exact And.left
    | some problem =>
      have read : readBounded limits input ((Except.ok m).map Value.moment) = .fail problem input := by
        simp only [Except.map, readBounded, kept]
      rw [read]
      apply iff_of_false nofun
      intro h
      obtain ⟨⟨_, rfl⟩, unbroken⟩ := h
      rw [kept] at unbroken
      cases unbroken

namespace Value

def isScalar : Value → Bool
  | .text _ | .int _ | .bool _ | .uuid _ | .decimal _ | .moment _ => true
  | _ => false

variable {v : Value}

theorem isNone_of_isScalar (scalar : v.isScalar = true) : v.isNone = false := by
  cases v <;> first | rfl | cases scalar

theorem isContainer_of_isScalar (scalar : v.isScalar = true) : v.isContainer = false := by
  cases v <;> first | rfl | cases scalar

theorem dump_of_isScalar (scalar : v.isScalar = true) (suppliedOnly : Bool) : v.dump suppliedOnly = v := by
  cases v <;> first | rfl | cases scalar

end Value

namespace Shape

def isScalar : Shape → Bool
  | .text | .int | .bool | .uuid | .decimal | .moment => true
  | _ => false

def reading : Shape → Value → Except Problem Value
  | .text, input => (Reading.text input).map .text
  | .int, input => (Reading.int input).map .int
  | .bool, input => (Reading.bool input).map .bool
  | .uuid, input => (Reading.uuid input).map .uuid
  | .decimal, input => (Reading.decimal input).map .decimal
  | .moment, input => ((Reading.moment input).bind Reading.dated).map .moment
  | _, input => .ok input

def Keeps (limits : Limits) : Shape → Value → Prop
  | .text, v => (∀ t, v = .text t → limits.ofCounted.1.ofText? t = none) ∧
      Limit.checkAll v limits.ofCounted.2 = .ok none
  | .int, v | .decimal, v | .moment, v => Bound.broken? limits v = none ∧
      Limit.checkAll v limits.lengths = .ok none
  | _, v => Limit.checkAll v limits.all = .ok none

/-- The limits see what was read and not the input. -/
theorem validateIn_scalar {shape : Shape} (scalar : shape.isScalar = true) (extra : ExtraPolicy) (limits : Limits)
    {input v : Value} :
    shape.validateIn extra limits input = .ok v ↔ shape.reading input = .ok v ∧ shape.Keeps limits v := by
  cases shape with
  | int | decimal =>
    simp only [validateIn, Outcome.keeping_eq_ok_iff, readBounded_eq_ok_iff, reading, Keeps, and_assoc]
  | moment =>
    simp only [validateIn, Outcome.keeping_eq_ok_iff, readMoment_eq_ok_iff, reading, Keeps, and_assoc]
  | bool | uuid =>
    simp only [validateIn, Outcome.keeping_eq_ok_iff, Outcome.ofReading_eq_ok_iff, reading, Keeps]
  | text =>
    simp only [validateIn, readText, reading, Keeps]
    cases Reading.text input with
    | error problem => exact iff_of_false nofun (fun h => nomatch h.1)
    | ok t =>
      simp only [Except.map, Except.ok.injEq]
      cases own : limits.ofCounted.1.ofText? t with
      | none =>
        simp only [Outcome.ofLimits_eq_ok_iff]
        constructor
        · intro h
          obtain ⟨rfl, kept⟩ := h
          exact ⟨rfl, fun t' same => by cases same; exact own, kept⟩
        · intro h
          obtain ⟨rfl, _, kept⟩ := h
          exact ⟨rfl, kept⟩
      | some problem =>
        apply iff_of_false nofun
        intro h
        obtain ⟨rfl, kept, _⟩ := h
        rw [kept t rfl] at own
        cases own
  | float | any | list | optional | mapping | literal | fixedKeys | model => cases scalar

theorem reading_int_scalarText {t : Text} {v : Value} (read : Shape.int.reading (.text t) = .ok v) :
    Shape.int.reading (.text (Stringify.scalarText v)) = .ok v := by
  simp only [reading, Reading.int, Reading.ofIntText] at read
  cases found : WholeNumber.read t with
  | error fault =>
    rw [found] at read
    cases read
  | ok n =>
    rw [found] at read
    cases read
    have again := WholeNumber.read_ofInt (WholeNumber.isReadable_of_read found)
    show ((WholeNumber.read (Text.ofInt n)).mapError _).map Value.int = .ok (.int n)
    rw [again]
    rfl

theorem reading_bool_scalarText {t : Text} {v : Value} (read : Shape.bool.reading (.text t) = .ok v) :
    Shape.bool.reading (.text (Stringify.scalarText v)) = .ok v := by
  simp only [reading, Reading.bool] at read
  split at read
  · rename_i b _
    cases read
    cases b <;> rfl
  · cases read

theorem reading_uuid_scalarText {t : Text} {v : Value} (read : Shape.uuid.reading (.text t) = .ok v) :
    Shape.uuid.reading (.text (Stringify.scalarText v)) = .ok v := by
  simp only [reading, Reading.uuid] at read
  cases found : Uuid.read t with
  | error fault =>
    rw [found] at read
    cases read
  | ok u =>
    rw [found] at read
    cases read
    show ((Uuid.read u.toText).mapError _).map Value.uuid = .ok (.uuid u)
    rw [Uuid.read_toText]
    rfl

theorem reading_decimal_scalarText {t : Text} {v : Value} (read : Shape.decimal.reading (.text t) = .ok v) :
    Shape.decimal.reading (.text (Stringify.scalarText v)) = .ok v := by
  simp only [reading, Reading.decimal, Reading.anyDecimal, Reading.decimalText] at read
  split at read
  · rename_i d found
    cases d with
    | finite numeral =>
      cases read
      have again := Decimal.read?_toText (Decimal.isInRange_of_read? found)
      show ((Reading.decimalText (Decimal.toText (.finite numeral))).bind Reading.finite).map Value.decimal =
        .ok (.decimal (.finite numeral))
      unfold Reading.decimalText
      rw [again]
      rfl
    | infinite negative => cases read
    | undefined negative signalling tag mark => cases read
  · cases read

theorem reading_moment_scalarText {t : Text} {v : Value} (read : Shape.moment.reading (.text t) = .ok v) :
    Shape.moment.reading (.text (Stringify.scalarText v)) = .ok v := by
  simp only [reading, Reading.moment] at read
  cases found : Moment.read .seconds t with
  | error fault =>
    rw [found] at read
    cases read
  | ok m =>
    rw [found] at read
    have dated : m.year ≠ 0 ∧ v = .moment m := by
      simp only [Except.mapError, Except.bind, Reading.dated] at read
      by_cases zero : m.year = 0
      · rw [if_pos zero] at read
        cases read
      · rw [if_neg zero] at read
        cases read
        exact ⟨zero, rfl⟩
    obtain ⟨dated, rfl⟩ := dated
    obtain ⟨writable, zoned⟩ := Moment.read_isWritable found dated
    show (((Moment.read .seconds (m.toText ' ')).mapError _).bind Reading.dated).map Value.moment = .ok (.moment m)
    rw [Moment.read_toText writable zoned]
    simp only [Except.mapError, Except.bind, Reading.dated, if_neg dated, Except.map]

/-- What was read from a text is read again from the text that it is written with. -/
theorem reading_scalarText {shape : Shape} (scalar : shape.isScalar = true) {t : Text} {v : Value}
    (read : shape.reading (.text t) = .ok v) : shape.reading (.text (Stringify.scalarText v)) = .ok v := by
  cases shape with
  | text =>
    cases read
    rfl
  | int => exact reading_int_scalarText read
  | bool => exact reading_bool_scalarText read
  | uuid => exact reading_uuid_scalarText read
  | decimal => exact reading_decimal_scalarText read
  | moment => exact reading_moment_scalarText read
  | float | any | list | optional | mapping | literal | fixedKeys | model => cases scalar

theorem isScalar_of_reading {shape : Shape} (scalar : shape.isScalar = true) {input v : Value}
    (read : shape.reading input = .ok v) : v.isScalar = true := by
  have wrapped {α : Type} {wrap : α → Value} (single : ∀ a, (wrap a).isScalar = true) {result : Except Problem α}
      (read : result.map wrap = .ok v) : v.isScalar = true := by
    cases result with
    | error problem => cases read
    | ok a =>
      cases read
      exact single a
  cases shape with
  | text | int | bool | uuid | decimal | moment => exact wrapped (fun _ => rfl) read
  | float | any | list | optional | mapping | literal | fixedKeys | model => cases scalar

theorem isWritable_of_reading {shape : Shape} (scalar : shape.isScalar = true) {t : Text} {v : Value}
    (read : shape.reading (.text t) = .ok v) : v.isWritable = true := by
  have wrapped {α : Type} {wrap : α → Value} (short : ∀ a, (wrap a).isWritable = true) {result : Except Problem α}
      (read : result.map wrap = .ok v) : v.isWritable = true := by
    cases result with
    | error problem => cases read
    | ok a =>
      cases read
      exact short a
  cases shape with
  | int =>
    simp only [reading, Reading.int, Reading.ofIntText] at read
    cases found : WholeNumber.read t with
    | error fault =>
      rw [found] at read
      cases read
    | ok n =>
      rw [found] at read
      cases read
      exact WholeNumber.isWritable_iff.mpr (WholeNumber.isReadable_of_read found)
  | text =>
    cases read
    rfl
  | bool | uuid | decimal | moment => exact wrapped (fun _ => rfl) read
  | float | any | list | optional | mapping | literal | fixedKeys | model => cases scalar

def isSingle : Shape → Bool
  | .optional inner => inner.isScalar
  | shape => shape.isScalar

theorem exists_scalar {shape : Shape} (single : shape.isSingle = true) :
    ∃ scalar : Shape, scalar.isScalar = true ∧
      (∀ extra limits t, shape.validateIn extra limits (.text t) = scalar.validateIn extra limits (.text t)) ∧
      ∀ suppliedOnly extra v, shape.dump suppliedOnly extra v = scalar.dump suppliedOnly extra v := by
  cases shape with
  | optional inner => exact ⟨inner, single, fun _ _ _ => rfl, fun _ _ _ => rfl⟩
  | text | int | bool | uuid | decimal | moment =>
    exact ⟨_, by exact single, fun _ _ _ => rfl, fun _ _ _ => rfl⟩
  | float | any | list | mapping | literal | fixedKeys | model => cases single

variable {shape : Shape} {extra : ExtraPolicy} {limits : Limits} {t : Text} {v : Value}

theorem isScalar_of_validateIn (single : shape.isSingle = true)
    (accepted : shape.validateIn extra limits (.text t) = .ok v) : v.isScalar = true := by
  obtain ⟨scalar, isScalar, validates, _⟩ := exists_scalar single
  rw [validates] at accepted
  exact isScalar_of_reading isScalar ((validateIn_scalar isScalar extra limits).mp accepted).1

theorem isWritable_of_validateIn (single : shape.isSingle = true)
    (accepted : shape.validateIn extra limits (.text t) = .ok v) : v.isWritable = true := by
  obtain ⟨scalar, isScalar, validates, _⟩ := exists_scalar single
  rw [validates] at accepted
  exact isWritable_of_reading isScalar ((validateIn_scalar isScalar extra limits).mp accepted).1

/-- A shape accepts the text of what it made of a text, and makes the same of it. -/
theorem validateIn_scalarText (single : shape.isSingle = true)
    (accepted : shape.validateIn extra limits (.text t) = .ok v) :
    shape.validateIn extra limits (.text (Stringify.scalarText v)) = .ok v := by
  obtain ⟨scalar, isScalar, validates, _⟩ := exists_scalar single
  rw [validates] at accepted ⊢
  obtain ⟨read, kept⟩ := (validateIn_scalar isScalar extra limits).mp accepted
  exact (validateIn_scalar isScalar extra limits).mpr ⟨reading_scalarText isScalar read, kept⟩

theorem dump_of_isSingle (single : shape.isSingle = true) (suppliedOnly : Bool) (extra : ExtraPolicy) (v : Value) :
    shape.dump suppliedOnly extra v = v.dump suppliedOnly := by
  obtain ⟨scalar, isScalar, _, dumps⟩ := exists_scalar single
  rw [dumps]
  cases scalar with
  | text | int | bool | uuid | decimal | moment => rfl
  | float | any | list | optional | mapping | literal | fixedKeys | model => cases isScalar

end Shape

end TypedPath
