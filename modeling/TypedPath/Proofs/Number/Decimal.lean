import TypedPath.Number.Decimal
import TypedPath.Proofs.Text.Digits

namespace TypedPath

theorem Numeral.signed?_of_isDigit {c : Char} (digit : c.isDigit = true) (rest : Text) :
    signed? (c :: rest) = (false, c :: rest) := by
  unfold signed?
  split
  · rename_i heading
    cases heading
    exact absurd digit (by decide)
  · rename_i heading
    cases heading
    exact absurd digit (by decide)
  · rfl

namespace Decimal

theorem signed?_signText (negative : Bool) {c : Char} (digit : c.isDigit = true) (rest : Text) :
    Numeral.signed? (signText negative ++ c :: rest) = (negative, c :: rest) := by
  cases negative with
  | true => rfl
  | false => exact Numeral.signed?_of_isDigit digit rest

theorem readExponent?_exponentText (n : Int) : Numeral.readExponent? ('E' :: exponentText n) = some n := by
  have sign : Numeral.signed? (exponentText n) = (decide (n < 0), Text.ofNat n.natAbs) := by
    unfold exponentText
    by_cases negative : n < 0
    · rw [if_pos negative, decide_eq_true negative]
      rfl
    · rw [if_neg negative, decide_eq_false negative]
      rfl
  simp only [Numeral.readExponent?, or_true, ite_true, sign, Text.toNat?_ofNat, decide_eq_true_eq]
  show some (if n < 0 then -(n.natAbs : Int) else n.natAbs) = some n
  apply congrArg some
  split <;> omega

section Parts

variable {whole fraction : Text} {n : Nat} {exponent : Int}

theorem read?_whole (negative : Bool) (rest : Text) (plain : ∀ c ∈ whole, c.isDigit = true)
    (value : Text.toNat? whole = some n) (closed : rest.takeWhile Char.isDigit = [])
    (unpointed : Numeral.readFraction rest = ([], rest)) (scaled : Numeral.readExponent? rest = some exponent) :
    Numeral.read? (signText negative ++ (whole ++ rest)) = some ⟨negative, n, exponent⟩ := by
  have filled := (Text.toNat?_eq_some_iff.mp value).1
  obtain ⟨c, others, rfl⟩ := List.exists_cons_of_ne_nil filled
  have sign := signed?_signText negative (plain c List.mem_cons_self) (others ++ rest)
  rw [← List.cons_append] at sign
  simp only [Numeral.read?, sign, Text.takeWhile_digits_append plain closed,
    Text.dropWhile_digits_append plain closed, unpointed, List.append_nil, value, scaled, List.length_nil]
  simp

theorem read?_fraction (negative : Bool) (rest : Text) (leading : whole ≠ []) (plain : ∀ c ∈ whole, c.isDigit = true)
    (others : ∀ c ∈ fraction, c.isDigit = true) (value : Text.toNat? (whole ++ fraction) = some n)
    (closed : rest.takeWhile Char.isDigit = []) (scaled : Numeral.readExponent? rest = some exponent) :
    Numeral.read? (signText negative ++ (whole ++ '.' :: (fraction ++ rest))) =
      some ⟨negative, n, exponent - fraction.length⟩ := by
  obtain ⟨c, front, rfl⟩ := List.exists_cons_of_ne_nil leading
  have sign := signed?_signText negative (plain c List.mem_cons_self) (front ++ '.' :: (fraction ++ rest))
  rw [← List.cons_append] at sign
  have point : ('.' :: (fraction ++ rest)).takeWhile Char.isDigit = [] := rfl
  simp only [Numeral.read?, sign, Text.takeWhile_digits_append plain point,
    Text.dropWhile_digits_append plain point, Numeral.readFraction, Text.takeWhile_digits_append others closed,
    Text.dropWhile_digits_append others closed, value, scaled]

theorem read?_pointed (negative : Bool) (rest : Text) {digits : Text} {place : Int}
    (value : Text.toNat? digits = some n) (inside : place ≤ digits.length) (closed : rest.takeWhile Char.isDigit = [])
    (unpointed : Numeral.readFraction rest = ([], rest)) (scaled : Numeral.readExponent? rest = some exponent) :
    Numeral.read? (signText negative ++ (pointed digits place ++ rest)) =
      some ⟨negative, n, exponent - (digits.length - place)⟩ := by
  have plain := (Text.toNat?_eq_some_iff.mp value).2.1
  unfold pointed
  by_cases before : place ≤ 0
  · have zeros := Text.toNat?_replicate_append (place.natAbs + 1) value
    rw [List.replicate_succ, List.cons_append] at zeros
    have others := (Text.toNat?_eq_some_iff.mp (Text.toNat?_replicate_append place.natAbs value)).2.1
    have leading : (['0'] : Text) ≠ [] := by decide
    have zero : ∀ c ∈ (['0'] : Text), c.isDigit = true := List.forall_mem_singleton.mpr rfl
    have found := read?_fraction negative rest leading zero others zeros closed scaled
    have count : ((List.replicate place.natAbs '0' ++ digits).length : Int) = digits.length - place := by
      simp only [List.length_append, List.length_replicate]
      omega
    rw [if_pos before, ← count]
    exact found
  · rw [if_neg before]
    by_cases within : place.toNat < digits.length
    · have leading : digits.take place.toNat ≠ [] := by
        rw [ne_eq, List.take_eq_nil_iff]
        intro h
        rcases h with none | none
        · omega
        · rw [none] at within
          exact absurd within (Nat.not_lt_zero _)
      have parted : Text.toNat? (digits.take place.toNat ++ digits.drop place.toNat) = some n := by
        rw [List.take_append_drop, value]
      have found := read?_fraction negative rest leading (fun c member => plain c (List.mem_of_mem_take member))
        (fun c member => plain c (List.mem_of_mem_drop member)) parted closed scaled
      have count : ((digits.drop place.toNat).length : Int) = digits.length - place := by
        rw [List.length_drop]
        omega
      rw [if_pos within, ← count, List.append_assoc]
      exact found
    · have all : place.toNat - digits.length = 0 := by omega
      have count : exponent - (digits.length - place) = exponent := by omega
      rw [if_neg within, all, List.replicate_zero, List.append_nil, count]
      exact read?_whole negative rest plain value closed unpointed scaled

end Parts

theorem read?_numeralText (numeral : Numeral) : Numeral.read? (numeralText numeral) = some numeral := by
  have value : Text.toNat? numeral.digits = some numeral.coefficient := Text.toNat?_ofNat _
  have filled : 0 < numeral.digits.length := List.length_pos_iff.mpr (Text.ofNat_ne_nil _)
  unfold numeralText
  split
  · rename_i positional
    have inside : numeral.size ≤ numeral.digits.length := by
      unfold Numeral.size
      omega
    have found := read?_pointed numeral.negative [] value inside rfl rfl rfl
    have exponent : 0 - (numeral.digits.length - numeral.size) = numeral.exponent := by
      unfold Numeral.size
      omega
    rw [List.append_nil, exponent] at found
    exact found
  · have inside : (1 : Int) ≤ numeral.digits.length := by omega
    have found := read?_pointed numeral.negative ('E' :: exponentText (numeral.size - 1)) value inside rfl rfl
      (readExponent?_exponentText _)
    have exponent : numeral.size - 1 - (numeral.digits.length - 1) = numeral.exponent := by
      unfold Numeral.size
      omega
    rw [exponent] at found
    exact found

def IsWritten (c : Char) : Prop := c.isDigit = true ∨ c ∈ ['-', '+', '.', 'E']

theorem isWritten_of_mem_digits {numeral : Numeral} {c : Char} (member : c ∈ numeral.digits) : IsWritten c :=
  .inl (Text.isDigit_of_mem_ofNat member)

theorem isWritten_of_mem_replicate {n : Nat} {c : Char} (member : c ∈ List.replicate n '0') : IsWritten c := by
  rw [List.eq_of_mem_replicate member]
  exact .inl (by decide)

theorem isWritten_of_mem_pointed {numeral : Numeral} {place : Int} {c : Char}
    (member : c ∈ pointed numeral.digits place) : IsWritten c := by
  unfold pointed at member
  split at member
  · simp only [List.mem_cons, List.mem_append] at member
    rcases member with rfl | rfl | zero | digit
    · exact .inl (by decide)
    · exact .inr (by decide)
    · exact isWritten_of_mem_replicate zero
    · exact isWritten_of_mem_digits digit
  · split at member
    · simp only [List.mem_cons, List.mem_append] at member
      rcases member with digit | rfl | digit
      · exact isWritten_of_mem_digits (List.mem_of_mem_take digit)
      · exact .inr (by decide)
      · exact isWritten_of_mem_digits (List.mem_of_mem_drop digit)
    · rcases List.mem_append.mp member with digit | zero
      · exact isWritten_of_mem_digits digit
      · exact isWritten_of_mem_replicate zero

theorem isWritten_of_mem_exponentText {n : Int} {c : Char} (member : c ∈ exponentText n) : IsWritten c := by
  unfold exponentText at member
  rcases List.mem_cons.mp member with rfl | digit
  · exact .inr (by split <;> decide)
  · exact .inl (Text.isDigit_of_mem_ofNat digit)

theorem isWritten_of_mem_numeralText {numeral : Numeral} {c : Char} (member : c ∈ numeralText numeral) :
    IsWritten c := by
  unfold numeralText at member
  rcases List.mem_append.mp member with sign | body
  · cases negative : numeral.negative with
    | true =>
      rw [negative] at sign
      rw [List.mem_singleton.mp sign]
      exact .inr (by decide)
    | false =>
      rw [negative] at sign
      cases sign
  · split at body
    · exact isWritten_of_mem_pointed body
    · rcases List.mem_append.mp body with point | power
      · exact isWritten_of_mem_pointed point
      · rcases List.mem_cons.mp power with rfl | digit
        · exact .inr (by decide)
        · exact isWritten_of_mem_exponentText digit

theorem plainDigit_of_isWritten {c : Char} (written : IsWritten c) : plainDigit c = c := by
  rcases written with digit | mark
  · have code := Text.toNat_of_isDigit digit
    have found : zeroDigits.find? (fun first => first ≤ c.toNat && c.toNat < first + 10) = some 0x30 := by
      refine List.find?_cons_of_pos ?_
      simp only [Bool.and_eq_true, decide_eq_true_eq]
      omega
    have value : '0'.toNat + (c.toNat - 0x30) = c.toNat := by
      show 48 + (c.toNat - 48) = c.toNat
      omega
    simp only [plainDigit, found, value, Char.ofNat_toNat]
  · have marks : (['-', '+', '.', 'E'].all fun c => plainDigit c == c) = true := by decide +kernel
    exact beq_iff_eq.mp (List.all_eq_true.mp marks c mark)

theorem isSpacing_of_isWritten {c : Char} (written : IsWritten c) : Text.isSpacing c = false := by
  rcases written with digit | mark
  · exact Text.isSpacing_of_isDigit digit
  · have marks : (['-', '+', '.', 'E'].all fun c => Text.isSpacing c == false) = true := by decide
    exact beq_iff_eq.mp (List.all_eq_true.mp marks c mark)

theorem ne_underscore_of_isWritten {c : Char} (written : IsWritten c) : c ≠ '_' := by
  intro same
  subst same
  rcases written with digit | mark
  · exact absurd digit (by decide)
  · exact absurd mark (by decide)

theorem plain_numeralText (numeral : Numeral) :
    ((Text.trim Text.isSpacing (numeralText numeral)).filter (· ≠ '_')).map plainDigit = numeralText numeral := by
  rw [Text.trim_eq_self fun c member => isSpacing_of_isWritten (isWritten_of_mem_numeralText member)]
  rw [List.filter_eq_self.mpr fun c member =>
    decide_eq_true (ne_underscore_of_isWritten (isWritten_of_mem_numeralText member))]
  have digits : (numeralText numeral).map plainDigit = (numeralText numeral).map id :=
    List.map_congr_left fun c member => plainDigit_of_isWritten (isWritten_of_mem_numeralText member)
  rw [digits, List.map_id]

theorem read?_toText {numeral : Numeral} (inRange : isInRange numeral = true) :
    read? (toText (.finite numeral)) = some (.finite numeral) := by
  simp only [read?, toText, plain_numeralText, read?_numeralText, inRange, ite_true]

theorem readSpecial?_ne_finite (text : Text) (numeral : Numeral) : readSpecial? text ≠ some (.finite numeral) := by
  intro found
  simp only [readSpecial?] at found
  split at found
  · cases found
  · unfold readUndefined? at found
    split at found
    · obtain ⟨_, _, special⟩ := Option.map_eq_some_iff.mp found
      cases special
    · obtain ⟨_, _, special⟩ := Option.map_eq_some_iff.mp found
      cases special
    · cases found

theorem isInRange_of_read? {text : Text} {numeral : Numeral} (found : read? text = some (.finite numeral)) :
    isInRange numeral = true := by
  simp only [read?] at found
  split at found
  · split at found
    · cases found
      assumption
    · cases found
  · exact absurd found (readSpecial?_ne_finite _ numeral)

end Decimal

end TypedPath
