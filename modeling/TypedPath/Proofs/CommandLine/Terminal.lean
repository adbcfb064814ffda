import Mathlib.Data.List.Infix
import TypedPath.CommandLine.Run
import TypedPath.Proofs.Text.Digits

namespace TypedPath

namespace Terminal

/-- An escape, `[`, parameters and a letter. -/
def IsSequence (text : Text) : Prop :=
  ∃ (parameters : Text) (letter : Char), text = escape :: '[' :: (parameters ++ [letter]) ∧
    (∀ c ∈ parameters, isParameter c = true) ∧ letter.isAlpha = true

/-- No control sequence stands in the text. -/
def IsFree (text : Text) : Prop := ∀ sequence, IsSequence sequence → ¬ sequence <:+: text

theorem IsFree.of_infix {text part : Text} (free : IsFree text) (inside : part <:+: text) : IsFree part :=
  fun sequence is found => free sequence is (found.trans inside)

inductive IsOpening : Text → Prop
  | none : IsOpening []
  | escape : IsOpening [escape]
  | bracket {parameters : Text} (all : ∀ c ∈ parameters, isParameter c = true) :
    IsOpening (parameters ++ ['[', Terminal.escape])

variable {pending : Text} {c : Char}

theorem plainFrom_escape (pending rest : Text) :
    plainFrom pending (escape :: rest) = pending.reverse ++ plainFrom [escape] rest := by
  rcases pending with _ | ⟨last, _ | ⟨more, pending⟩⟩ <;> rfl

theorem plainFrom_inside (other : c ≠ escape) (parameters rest : Text) :
    plainFrom (parameters ++ ['[', escape]) (c :: rest) =
      if isParameter c then plainFrom (c :: parameters ++ ['[', escape]) rest
      else if c.isAlpha then plainFrom [] rest
      else (parameters ++ ['[', escape]).reverse ++ c :: plainFrom [] rest := by
  rcases parameters with _ | ⟨first, _ | ⟨second, parameters⟩⟩ <;> exact if_neg other

/-- What a character does: it starts a sequence, goes on with one, ends one, or shows that there was
    none. -/
theorem plainFrom_cons (opening : IsOpening pending) (c : Char) (rest : Text) :
    (c = escape ∧ plainFrom pending (c :: rest) = pending.reverse ++ plainFrom [escape] rest) ∨
      (IsOpening (c :: pending) ∧ plainFrom pending (c :: rest) = plainFrom (c :: pending) rest) ∨
      (IsSequence (pending.reverse ++ [c]) ∧ plainFrom pending (c :: rest) = plainFrom [] rest) ∨
      plainFrom pending (c :: rest) = pending.reverse ++ c :: plainFrom [] rest := by
  by_cases start : c = escape
  · subst start
    exact .inl ⟨rfl, plainFrom_escape pending rest⟩
  · right
    cases opening with
    | none => exact .inr (.inr (if_neg start))
    | escape =>
      by_cases bracket : c = '['
      · subst bracket
        exact .inl ⟨@IsOpening.bracket [] (by simp), rfl⟩
      · refine .inr (.inr ?_)
        rw [plainFrom, if_neg start, if_neg bracket]
    | @bracket parameters all =>
      rw [plainFrom_inside start]
      split
      · rename_i parameter
        exact .inl ⟨.bracket (List.forall_mem_cons.mpr ⟨parameter, all⟩), rfl⟩
      · split
        · rename_i letter
          refine .inr (.inl ⟨⟨parameters.reverse, c, by simp, ?_, letter⟩, rfl⟩)
          exact fun other member => all other (List.mem_reverse.mp member)
        · exact .inr (.inr rfl)

/-- Without a control sequence, what was held back is given out in the end. -/
theorem plainFrom_eq_self (opening : IsOpening pending) {text : Text} (free : IsFree (pending.reverse ++ text)) :
    plainFrom pending text = pending.reverse ++ text := by
  -- what was held back and what is still to be read make up one text, and that stays free
  induction text generalizing pending with
  | nil => rw [plainFrom, List.append_nil]
  | cons c rest ih =>
    rcases plainFrom_cons opening c rest with ⟨rfl, step⟩ | ⟨more, step⟩ | ⟨sequence, step⟩ | step
    · rw [step, @ih [escape] .escape (free.of_infix ⟨pending.reverse, [], by simp⟩)]
      rfl
    · rw [step, ih more (free.of_infix ⟨[], [], by simp⟩)]
      simp
    · exact absurd ⟨[], rest, by simp⟩ (free _ sequence)
    · rw [step, @ih [] .none (free.of_infix ⟨pending.reverse ++ [c], [], by simp⟩)]
      rfl

theorem exists_plainFrom_cons (opening : IsOpening pending) (c : Char) (rest : Text) :
    ∃ front later, IsOpening later ∧ plainFrom pending (c :: rest) = front ++ plainFrom later rest ∧
      front.length + later.length ≤ pending.length + 1 := by
  rcases plainFrom_cons opening c rest with ⟨_, step⟩ | ⟨more, step⟩ | ⟨_, step⟩ | step
  · exact ⟨pending.reverse, [escape], .escape, step, by simp⟩
  · exact ⟨[], c :: pending, more, step, by simp⟩
  · exact ⟨[], [], .none, step, by simp⟩
  · exact ⟨pending.reverse ++ [c], [], .none, by rw [step, List.append_assoc, List.singleton_append], by simp⟩

theorem length_plainFrom_le (opening : IsOpening pending) (text : Text) :
    (plainFrom pending text).length ≤ pending.length + text.length := by
  induction text generalizing pending with
  | nil => simp [plainFrom]
  | cons c rest ih =>
    obtain ⟨front, later, goesOn, step, few⟩ := exists_plainFrom_cons opening c rest
    have most := ih goesOn
    rw [step, List.length_append, List.length_cons]
    omega

theorem plainFrom_parameters {more parameters : Text} (all : ∀ c ∈ more, isParameter c = true) (rest : Text) :
    plainFrom (parameters ++ ['[', escape]) (more ++ rest) =
      plainFrom (more.reverse ++ parameters ++ ['[', escape]) rest := by
  induction more generalizing parameters with
  | nil => rfl
  | cons c more ih =>
    rw [List.forall_mem_cons] at all
    have other : c ≠ escape := by
      intro same
      rw [same] at all
      exact absurd all.1 (by decide)
    rw [List.cons_append, plainFrom_inside other, if_pos all.1, ih all.2]
    simp

theorem not_isParameter_of_isAlpha (alpha : c.isAlpha = true) : isParameter c = false := by
  have letter : 'A'.toNat ≤ c.toNat ∧ c.toNat ≠ '?'.toNat := by
    rcases Bool.or_eq_true_iff.mp alpha with upper | lower
    · have least : 'A'.toNat ≤ c.toNat := (of_decide_eq_true upper).1
      exact ⟨least, Nat.ne_of_gt (Nat.lt_of_lt_of_le (by decide) least)⟩
    · have least : 'a'.toNat ≤ c.toNat := of_decide_eq_true (Bool.and_eq_true_iff.mp lower).1
      exact ⟨Nat.le_trans (by decide) least, Nat.ne_of_gt (Nat.lt_of_lt_of_le (by decide) least)⟩
  by_contra parameter
  rw [Bool.not_eq_false, isParameter, Bool.or_eq_true, Bool.or_eq_true, decide_eq_true_eq,
    decide_eq_true_eq] at parameter
  rcases parameter with (digit | rfl) | rfl
  · exact absurd (Text.toNat_of_isDigit digit).2 (Nat.not_le_of_lt (Nat.lt_of_lt_of_le (by decide) letter.1))
  · exact absurd letter.1 (by decide)
  · exact letter.2 rfl

theorem plainFrom_sequence {sequence : Text} (is : IsSequence sequence) (pending rest : Text) :
    plainFrom pending (sequence ++ rest) = pending.reverse ++ plainFrom [] rest := by
  obtain ⟨parameters, letter, rfl, all, alpha⟩ := is
  have other : letter ≠ escape := by
    intro same
    rw [same] at alpha
    exact absurd alpha (by decide)
  have bracket : plainFrom [escape] ('[' :: (parameters ++ [letter]) ++ rest) =
      plainFrom ([] ++ ['[', escape]) (parameters ++ (letter :: rest)) := by
    rw [List.cons_append, List.append_assoc]
    rfl
  rw [List.cons_append, plainFrom_escape, bracket, plainFrom_parameters all, plainFrom_inside other,
    not_isParameter_of_isAlpha alpha, if_neg nofun, if_pos alpha]

/-- A control sequence is left out. -/
theorem length_plainFrom_lt (opening : IsOpening pending) {sequence : Text} (is : IsSequence sequence)
    (front back : Text) :
    (plainFrom pending (front ++ (sequence ++ back))).length <
      pending.length + (front ++ (sequence ++ back)).length := by
  induction front generalizing pending with
  | nil =>
    have rest := length_plainFrom_le .none back
    have some : sequence.length ≠ 0 := by
      obtain ⟨parameters, letter, rfl, _⟩ := is
      exact Nat.succ_ne_zero _
    rw [List.nil_append, plainFrom_sequence is]
    simp only [List.length_append, List.length_reverse, List.length_nil] at rest ⊢
    omega
  | cons c front ih =>
    obtain ⟨out, later, goesOn, step, few⟩ := exists_plainFrom_cons opening c (front ++ (sequence ++ back))
    have less := ih goesOn
    rw [List.cons_append, step, List.length_append, List.length_cons]
    omega

theorem length_plain_eq_iff {text : Text} : (plain text).length = text.length ↔ IsFree text := by
  constructor
  · intro same sequence is found
    obtain ⟨front, back, rfl⟩ := found
    have less := length_plainFrom_lt .none is front back
    rw [List.append_assoc] at same
    unfold plain at same
    rw [same, List.length_nil, Nat.zero_add] at less
    exact Nat.lt_irrefl _ less
  · intro free
    exact congrArg List.length (plainFrom_eq_self .none free)

end Terminal

namespace CommandLine

open Terminal

/-- Exactly a text without control sequences is printed as it is. -/
theorem printed_eq_line_iff {text : Text} : printed text = line text ↔ IsFree text := by
  constructor
  · intro same
    exact length_plain_eq_iff.mp (congrArg List.length (List.append_cancel_right same))
  · intro free
    exact congrArg line (plainFrom_eq_self .none free)

end CommandLine

end TypedPath
