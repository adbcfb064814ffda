import Mathlib.Algebra.Ring.Nat
import Mathlib.Data.List.Perm.Basic
import TypedPath.CommandLine.Json
import TypedPath.Proofs.Text.Utf8

namespace TypedPath

namespace Sorting

variable {α : Type} (before : α → α → Bool)

theorem insert_perm (a : α) (rest : List α) : (insert before a rest).Perm (a :: rest) := by
  induction rest with
  | nil => exact List.Perm.refl _
  | cons b rest ih =>
    rw [insert]
    split
    · exact List.Perm.refl _
    · exact (ih.cons b).trans (List.Perm.swap a b rest)

theorem sorted_perm (items : List α) : (sorted before items).Perm items := by
  induction items with
  | nil => exact List.Perm.refl _
  | cons a rest ih => exact (insert_perm before a _).trans (ih.cons a)

end Sorting

namespace Text

theorem hexPadded_succ {width : Nat} (positive : 0 < width) (n : Nat) :
    hexPadded (width + 1) n = hexPadded width (n / 16) ++ [Nat.digitChar (n % 16)] := by
  unfold hexPadded
  by_cases small : n < 16
  · obtain ⟨more, rfl⟩ := Nat.exists_eq_succ_of_ne_zero (Nat.ne_of_gt positive)
    rw [Nat.toDigits_of_lt_base small, Nat.div_eq_of_lt small, Nat.mod_eq_of_lt small, Nat.toDigits_zero]
    simp only [List.length_cons, List.length_nil, Nat.zero_add, Nat.succ_eq_add_one, Nat.add_sub_cancel]
    rw [List.replicate_succ']
  · rw [Nat.toDigits_of_base_le (by decide) (Nat.le_of_not_lt small)]
    simp only [List.length_append, List.length_cons, List.length_nil, Nat.zero_add, Nat.add_sub_add_right,
      List.append_assoc]

theorem hexPadded_eq_map {width n : Nat} (bound : n < 16 ^ (width + 1)) :
    ∃ digits : List (Fin 16), hexPadded (width + 1) n = digits.map (fun digit => Nat.digitChar digit.val) ∧
      digits.length = width + 1 ∧ digits.foldl (fun n digit => 16 * n + digit.val) 0 = n := by
  induction width generalizing n with
  | zero =>
    have small : n < 16 := bound
    refine ⟨[⟨n, small⟩], ?_, rfl, Nat.zero_add n⟩
    unfold hexPadded
    rw [Nat.toDigits_of_lt_base small]
    rfl
  | succ width ih =>
    have front : n / 16 < 16 ^ (width + 1) := Nat.div_lt_of_lt_mul (by rwa [Nat.pow_succ, Nat.mul_comm] at bound)
    obtain ⟨digits, written, size, value⟩ := ih front
    refine ⟨digits ++ [⟨n % 16, Nat.mod_lt _ (by decide)⟩], ?_, ?_, ?_⟩
    · rw [hexPadded_succ (Nat.succ_pos width), written, List.map_append]
      rfl
    · rw [List.length_append, size]
      rfl
    · rw [List.foldl_append, value]
      exact Nat.div_add_mod n 16

end Text

namespace Json

inductive Token
  | string (text : Text)
  | mark (c : Char)
deriving DecidableEq, Repr

def shortEscape? (c : Char) : Option Char :=
  if c = '"' ∨ c = '\\' ∨ c = '/' then some c
  else if c = 'b' then some (Char.ofNat 0x08)
  else if c = 'f' then some (Char.ofNat 0x0C)
  else if c = 'n' then some '\n'
  else if c = 'r' then some '\r'
  else if c = 't' then some '\t'
  else none

def hexNumber? (digits : Text) : Option Nat :=
  digits.foldlM (fun n c => (Text.hexValue? c).map (16 * n + ·)) 0

def isSpace (c : Char) : Bool := c = ' ' || c = '\t' || c = '\n' || c = '\r'

def characters? : List Nat → Option Text
  | [] => some []
  | unit :: rest =>
    if unit.isValidChar then (characters? rest).map (Char.ofNat unit :: ·)
    else match rest with
      | low :: rest =>
        if 0xD800 ≤ unit ∧ unit < 0xDC00 ∧ 0xDC00 ≤ low ∧ low < 0xE000 then
          (characters? rest).map (Char.ofNat (0x10000 + (unit - 0xD800) * 0x400 + (low - 0xDC00)) :: ·)
        else none
      | [] => none

/-- Reads on. When a string is open, its code units so far stand in front, the last one first. -/
def tokens? : Option (List Nat) → Text → Option (List Token)
  | none, [] => some []
  | some _, [] => none
  | none, c :: rest =>
    if c = '"' then tokens? (some []) rest
    else if isSpace c then tokens? none rest
    else (tokens? none rest).map (.mark c :: ·)
  | some units, c :: rest =>
    if c = '"' then
      match characters? units.reverse with
      | some text => (tokens? none rest).map (.string text :: ·)
      | none => none
    else if c = '\\' then
      match rest with
      | 'u' :: a :: b :: c :: d :: rest =>
        match hexNumber? [a, b, c, d] with
        | some unit => tokens? (some (unit :: units)) rest
        | none => none
      | c :: rest =>
        match shortEscape? c with
        | some plain => tokens? (some (plain.toNat :: units)) rest
        | none => none
      | [] => none
    else if c.toNat < 0x20 then none
    else tokens? (some (c.toNat :: units)) rest

def members? : List Token → Option Bindings
  | [.string name, .mark ':', .string text, .mark '\x7d'] => some [(name, text)]
  | .string name :: .mark ':' :: .string text :: .mark ',' :: rest => (members? rest).map ((name, text) :: ·)
  | _ => none

def read? (text : Text) : Option Bindings :=
  match tokens? none text with
  | some [.mark '\x7b', .mark '\x7d'] => some []
  | some (.mark '\x7b' :: rest) => members? rest
  | _ => none

def units (c : Char) : List Nat :=
  if c.toNat < 0x10000 then [c.toNat]
  else [0xD800 + (c.toNat - 0x10000) / 0x400, 0xDC00 + (c.toNat - 0x10000) % 0x400]

theorem characters?_units_append (c : Char) (rest : List Nat) :
    characters? (units c ++ rest) = (characters? rest).map (c :: ·) := by
  unfold units
  split
  · have valid : c.toNat.isValidChar := c.valid
    rw [List.singleton_append, characters?.eq_def]
    simp only [valid, if_true, Char.ofNat_toNat]
  · rename_i beyond
    have bound := Utf8.toNat_lt_limit c
    have invalid : ¬ (0xD800 + (c.toNat - 0x10000) / 0x400).isValidChar := by
      unfold Nat.isValidChar
      omega
    have pair : 0xD800 ≤ 0xD800 + (c.toNat - 0x10000) / 0x400 ∧ 0xD800 + (c.toNat - 0x10000) / 0x400 < 0xDC00 ∧
        0xDC00 ≤ 0xDC00 + (c.toNat - 0x10000) % 0x400 ∧ 0xDC00 + (c.toNat - 0x10000) % 0x400 < 0xE000 := by
      omega
    have whole : 0x10000 + (0xD800 + (c.toNat - 0x10000) / 0x400 - 0xD800) * 0x400 +
        (0xDC00 + (c.toNat - 0x10000) % 0x400 - 0xDC00) = c.toNat := by
      omega
    rw [List.cons_append, List.singleton_append, characters?.eq_def]
    simp only [if_neg invalid, if_pos pair, whole, Char.ofNat_toNat]

theorem characters?_units (text : Text) : characters? (text.flatMap units) = some text := by
  induction text with
  | nil => rfl
  | cons c text ih =>
    rw [List.flatMap_cons, characters?_units_append, ih]
    rfl

theorem hexNumber?_map (digits : List (Fin 16)) (start : Nat) :
    (digits.map fun digit => Nat.digitChar digit.val).foldlM (fun n c => (Text.hexValue? c).map (16 * n + ·)) start =
      some (digits.foldl (fun n digit => 16 * n + digit.val) start) := by
  induction digits generalizing start with
  | nil => rfl
  | cons digit digits ih =>
    have value : Text.hexValue? (Nat.digitChar digit.val) = some digit.val := by
      revert digit
      decide
    rw [List.map_cons, List.foldlM_cons, value, List.foldl_cons, ← ih]
    rfl

theorem tokens?_unit (read : List Nat) {n : Nat} (bound : n < 0x10000) (rest : Text) :
    tokens? (some read) (unit n ++ rest) = tokens? (some (n :: read)) rest := by
  obtain ⟨digits, written, size, value⟩ := @Text.hexPadded_eq_map 3 n bound
  obtain ⟨a, b, c, d, rfl⟩ := List.length_eq_four.mp size
  have number := hexNumber?_map [a, b, c, d] 0
  rw [value] at number
  unfold unit
  rw [written]
  show (match hexNumber? ([a, b, c, d].map fun digit => Nat.digitChar digit.val) with
    | some unit => tokens? (some (unit :: read)) rest
    | none => none) = _
  unfold hexNumber?
  rw [number]

theorem tokens?_short (read : List Nat) {c plain : Char} (short : shortEscape? c = some plain) (rest : Text) :
    tokens? (some read) ('\\' :: c :: rest) = tokens? (some (plain.toNat :: read)) rest := by
  have other : c ≠ 'u' := by
    intro same
    have none : shortEscape? 'u' = none := by decide
    rw [same, none] at short
    cases short
  rw [tokens?.eq_def]
  dsimp only
  rw [if_neg (by decide), if_pos rfl]
  -- only `u` would take the characters after it as well
  split
  · rename_i same
    exact absurd (List.cons.inj same).1 other
  · rename_i same
    cases same
    rw [short]
  · rename_i same
    cases same

theorem tokens?_plain (read : List Nat) {c : Char} (quote : c ≠ '"') (backslash : c ≠ '\\')
    (visible : 0x20 ≤ c.toNat) (rest : Text) :
    tokens? (some read) (c :: rest) = tokens? (some (c.toNat :: read)) rest := by
  rw [tokens?.eq_def]
  dsimp only
  rw [if_neg quote, if_neg backslash, if_neg (Nat.not_lt_of_le visible)]

def IsVisible (c : Char) : Prop := 0x20 ≤ c.toNat ∧ c.toNat < 0x7F

instance (c : Char) : Decidable (IsVisible c) :=
  inferInstanceAs (Decidable (0x20 ≤ c.toNat ∧ c.toNat < 0x7F))

theorem isVisible_of_all {text : Text} (all : text.all (fun c => IsVisible c) = true) : ∀ c ∈ text, IsVisible c :=
  fun c member => of_decide_eq_true (List.all_eq_true.mp all c member)

/-- The four ways to write a character. -/
theorem escaped_cases (c : Char) :
    (∃ letter, shortEscape? letter = some c ∧ c.toNat < 0x10000 ∧ IsVisible letter ∧
        escaped c = ['\\', letter]) ∨
      (c ≠ '"' ∧ c ≠ '\\' ∧ IsVisible c ∧ escaped c = [c]) ∨
      (c.toNat < 0x10000 ∧ escaped c = unit c.toNat) ∨
      (0x10000 ≤ c.toNat ∧ escaped c =
        unit (0xD800 + (c.toNat - 0x10000) / 0x400) ++ unit (0xDC00 + (c.toNat - 0x10000) % 0x400)) := by
  have named {n : Nat} (code : c.toNat = n) : c = Char.ofNat n := by rw [← code, Char.ofNat_toNat]
  unfold escaped
  dsimp only
  -- seven characters have an escape of their own
  split_ifs with mark newline back tab feed backspace visible basic
  · left
    rcases mark with rfl | rfl
    · exact ⟨'"', by decide, by decide, by decide, rfl⟩
    · exact ⟨'\\', by decide, by decide, by decide, rfl⟩
  · subst newline
    exact .inl ⟨'n', by decide, by decide, by decide, rfl⟩
  · subst back
    exact .inl ⟨'r', by decide, by decide, by decide, rfl⟩
  · subst tab
    exact .inl ⟨'t', by decide, by decide, by decide, rfl⟩
  · obtain rfl := named feed
    exact .inl ⟨'f', by decide, by decide, by decide, rfl⟩
  · obtain rfl := named backspace
    exact .inl ⟨'b', by decide, by decide, by decide, rfl⟩
  · rw [not_or] at mark
    exact .inr (.inl ⟨mark.1, mark.2, visible, rfl⟩)
  · exact .inr (.inr (.inl ⟨basic, rfl⟩))
  · exact .inr (.inr (.inr ⟨Nat.le_of_not_lt basic, rfl⟩))

theorem tokens?_escaped (read : List Nat) (c : Char) (rest : Text) :
    tokens? (some read) (escaped c ++ rest) = tokens? (some ((units c).reverse ++ read)) rest := by
  have single (basic : c.toNat < 0x10000) : units c = [c.toNat] := if_pos basic
  rcases escaped_cases c with ⟨letter, short, basic, _, written⟩ | ⟨quote, backslash, visible, written⟩ |
      ⟨basic, written⟩ | ⟨beyond, written⟩
  · rw [written, single basic]
    exact tokens?_short read short rest
  · rw [written, single (Nat.lt_trans visible.2 (by decide))]
    exact tokens?_plain read quote backslash visible.1 rest
  · rw [written, single basic]
    exact tokens?_unit read basic rest
  · have bound := Utf8.toNat_lt_limit c
    rw [written, List.append_assoc, tokens?_unit read (by omega), tokens?_unit _ (by omega)]
    unfold units
    rw [if_neg (Nat.not_lt_of_le beyond)]
    rfl

theorem tokens?_text (read : List Nat) (text rest : Text) :
    tokens? (some read) (text.flatMap escaped ++ rest) =
      tokens? (some ((text.flatMap units).reverse ++ read)) rest := by
  induction text generalizing read with
  | nil => rfl
  | cons c text ih =>
    rw [List.flatMap_cons, List.append_assoc, tokens?_escaped, ih, List.flatMap_cons, List.reverse_append,
      List.append_assoc]

theorem tokens?_string (text rest : Text) :
    tokens? none (string text ++ rest) = (tokens? none rest).map (.string text :: ·) := by
  have start : tokens? none (string text ++ rest) = tokens? (some []) (text.flatMap escaped ++ '"' :: rest) := by
    unfold string
    rw [List.cons_append, List.append_assoc]
    rfl
  have finish (read : List Nat) : tokens? (some read) ('"' :: rest) =
      match characters? read.reverse with
      | some text => (tokens? none rest).map (.string text :: ·)
      | none => none := by
    rw [tokens?.eq_def]
    rfl
  rw [start, tokens?_text, List.append_nil, finish, List.reverse_reverse, characters?_units]

theorem tokens?_member (entry : Text × Text) (rest : Text) :
    tokens? none (member entry ++ rest) =
      (tokens? none rest).map fun tokens => .string entry.1 :: .mark ':' :: .string entry.2 :: tokens := by
  have between (rest : Text) : tokens? none (": ".toList ++ rest) = (tokens? none rest).map (.mark ':' :: ·) := rfl
  unfold member
  rw [List.append_assoc, List.append_assoc, tokens?_string, between, tokens?_string, Option.map_map, Option.map_map]
  rfl

theorem join_member (entry : Text × Text) : Text.join ", " ([entry].map member) = member entry :=
  List.intercalate_singleton

theorem join_members (entry next : Text × Text) (entries : Bindings) :
    Text.join ", " ((entry :: next :: entries).map member) =
      member entry ++ ", ".toList ++ Text.join ", " ((next :: entries).map member) :=
  List.intercalate_cons_cons

theorem members?_members (entry : Text × Text) (entries : Bindings) :
    (tokens? none (Text.join ", " ((entry :: entries).map member) ++ ['\x7d'])).bind members? =
      some (entry :: entries) := by
  induction entries generalizing entry with
  | nil =>
    rw [join_member, tokens?_member]
    rfl
  | cons next entries ih =>
    have comma (rest : Text) : tokens? none (", ".toList ++ rest) = (tokens? none rest).map (.mark ',' :: ·) := rfl
    have more (tokens : List Token) :
        members? (.string entry.1 :: .mark ':' :: .string entry.2 :: .mark ',' :: tokens) =
          (members? tokens).map (entry :: ·) := rfl
    rw [join_members, List.append_assoc, List.append_assoc, tokens?_member, comma, Option.map_map, Option.bind_map]
    simp only [Function.comp_def, more]
    have rest := congrArg (Option.map (entry :: ·)) (ih next)
    rwa [Option.map_bind] at rest

theorem read?_members {entries : Bindings} :
    read? ('\x7b' :: (Text.join ", " (entries.map member) ++ ['\x7d'])) = some entries := by
  have start (rest : Text) : tokens? none ('\x7b' :: rest) = (tokens? none rest).map (.mark '\x7b' :: ·) := rfl
  unfold read?
  rw [start]
  cases entries with
  | nil => rfl
  | cons entry entries =>
    have inside := members?_members entry entries
    cases read : tokens? none (Text.join ", " ((entry :: entries).map member) ++ ['\x7d']) with
    | none =>
      rw [read] at inside
      cases inside
    | some tokens =>
      rw [read, Option.bind_some] at inside
      rw [Option.map_some]
      split
      · rename_i same
        cases same
        cases inside
      · rename_i same
        cases same
        exact inside
      · rename_i other
        exact absurd rfl (other tokens)

/-- What is written for bindings is read as the same bindings in another order. -/
theorem read?_object (bindings : Bindings) : ∃ read, read? (object bindings) = some read ∧ read.Perm bindings :=
  ⟨_, read?_members, Sorting.sorted_perm ..⟩

example : object [("b".toList, "\n".toList), ("a".toList, "é😀".toList)] =
    "\x7b\"a\": \"\\u00e9\\ud83d\\ude00\", \"b\": \"\\n\"\x7d".toList := by
  decide +kernel

theorem isVisible_of_mem_unit {n : Nat} (bound : n < 0x10000) : ∀ c ∈ unit n, IsVisible c := by
  obtain ⟨digits, written, _⟩ := @Text.hexPadded_eq_map 3 n bound
  have digit : ∀ digit : Fin 16, IsVisible (Nat.digitChar digit.val) := by decide
  unfold unit
  rw [written, List.forall_mem_cons, List.forall_mem_cons, List.forall_mem_map]
  exact ⟨by decide, by decide, fun value _ => digit value⟩

theorem isVisible_of_mem_escaped (c : Char) : ∀ other ∈ escaped c, IsVisible other := by
  rcases escaped_cases c with ⟨letter, _, _, visible, written⟩ | ⟨_, _, visible, written⟩ | ⟨basic, written⟩ |
      ⟨beyond, written⟩
  · rw [written, List.forall_mem_cons, List.forall_mem_singleton]
    exact ⟨by decide, visible⟩
  · rw [written, List.forall_mem_singleton]
    exact visible
  · rw [written]
    exact isVisible_of_mem_unit basic
  · have bound := Utf8.toNat_lt_limit c
    rw [written, List.forall_mem_append]
    exact ⟨isVisible_of_mem_unit (by omega), isVisible_of_mem_unit (by omega)⟩

theorem isVisible_of_mem_string (text : Text) : ∀ c ∈ string text, IsVisible c := by
  unfold string
  rw [List.forall_mem_cons, List.forall_mem_append, List.forall_mem_singleton]
  refine ⟨by decide, fun c member => ?_, by decide⟩
  obtain ⟨written, _, inside⟩ := List.mem_flatMap.mp member
  exact isVisible_of_mem_escaped written c inside

theorem isVisible_of_mem_member (entry : Text × Text) : ∀ c ∈ member entry, IsVisible c := by
  unfold member
  rw [List.forall_mem_append, List.forall_mem_append]
  exact ⟨⟨isVisible_of_mem_string _, isVisible_of_all (by decide)⟩, isVisible_of_mem_string _⟩

theorem isVisible_of_mem_members (entries : Bindings) :
    ∀ c ∈ Text.join ", " (entries.map member), IsVisible c := by
  induction entries with
  | nil => exact nofun
  | cons entry entries ih =>
    cases entries with
    | nil =>
      rw [join_member]
      exact isVisible_of_mem_member entry
    | cons next entries =>
      rw [join_members, List.forall_mem_append, List.forall_mem_append]
      exact ⟨⟨isVisible_of_mem_member entry, isVisible_of_all (by decide)⟩, ih⟩

theorem isVisible_of_mem_object (bindings : Bindings) : ∀ c ∈ object bindings, IsVisible c := by
  unfold object
  dsimp only
  rw [List.forall_mem_cons, List.forall_mem_append, List.forall_mem_singleton]
  exact ⟨by decide, isVisible_of_mem_members _, by decide⟩

end Json

end TypedPath
