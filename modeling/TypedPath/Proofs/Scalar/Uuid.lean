import TypedPath.Scalar.Uuid

namespace TypedPath.Uuid

theorem digit?_digitChar (digit : Fin 16) : digit? (Nat.digitChar digit.val) = some digit := by
  revert digit
  decide

theorem digitChar_ne (digit : Fin 16) :
    Nat.digitChar digit.val ≠ '-' ∧ Nat.digitChar digit.val ≠ '{' ∧ Nat.digitChar digit.val ≠ 'u' := by
  revert digit
  decide

theorem mapM_digit?_hexText (digits : List (Fin 16)) : (hexText digits).mapM digit? = some digits := by
  unfold hexText
  rw [List.mapM_map]
  induction digits with
  | nil => rfl
  | cons digit rest ih =>
    rw [List.mapM_cons]
    simp only [Function.comp_apply, digit?_digitChar]
    rw [ih]
    rfl

theorem simple?_hexText (u : Uuid) : simple? (hexText u.digits) = some u := by
  simp only [simple?, mapM_digit?_hexText, Option.bind_some, ofDigits?, u.length_digits, dite_true]

theorem hyphen_not_mem_hexText (digits : List (Fin 16)) : '-' ∉ hexText digits := by
  intro member
  obtain ⟨digit, _, hyphen⟩ := List.mem_map.mp member
  exact (digitChar_ne digit).1 hyphen

theorem length_hexText (u : Uuid) : (hexText u.digits).length = 32 := by
  unfold hexText
  rw [List.length_map, u.length_digits]

def groups (text : Text) : List Text :=
  [text.take 8, (text.drop 8).take 4, (text.drop 12).take 4, (text.drop 16).take 4, text.drop 20]

theorem flatten_groups (text : Text) :
    text.take 8 ++ (text.drop 8).take 4 ++ (text.drop 12).take 4 ++ (text.drop 16).take 4 ++ text.drop 20 =
      text := by
  have step (front size : Nat) : text.take front ++ (text.drop front).take size = text.take (front + size) := by
    rw [List.take_add]
  rw [step 8 4, step 12 4, step 16 4, List.take_append_drop]

theorem mem_of_mem_groups {text group : Text} (member : group ∈ groups text) {c : Char} (inside : c ∈ group) :
    c ∈ text := by
  simp only [groups, List.mem_cons, List.not_mem_nil, or_false] at member
  rcases member with rfl | rfl | rfl | rfl | rfl
  · exact List.mem_of_mem_take inside
  · exact List.mem_of_mem_drop (List.mem_of_mem_take inside)
  · exact List.mem_of_mem_drop (List.mem_of_mem_take inside)
  · exact List.mem_of_mem_drop (List.mem_of_mem_take inside)
  · exact List.mem_of_mem_drop inside

theorem toText_eq_intercalate (u : Uuid) : u.toText = Text.join ['-'] (groups (hexText u.digits)) := by
  simp [toText, groups, Text.join, List.intercalate, List.intersperse]

theorem splitOn_toText (u : Uuid) : u.toText.splitOn '-' = groups (hexText u.digits) := by
  rw [toText_eq_intercalate]
  apply List.splitOn_intercalate
  · intro group member hyphen
    exact hyphen_not_mem_hexText u.digits (mem_of_mem_groups member hyphen)
  · exact List.cons_ne_nil _ _

theorem grouped?_toText (u : Uuid) : grouped? u.toText = some u := by
  have size := length_hexText u
  have lengths : (groups (hexText u.digits)).map List.length = groupLengths := by
    simp only [groups, List.map_cons, List.map_nil, List.length_take, List.length_drop, size]
    decide
  unfold grouped?
  rw [splitOn_toText]
  unfold groups at lengths ⊢
  simp only [lengths, ite_true, flatten_groups, simple?_hexText]

theorem length_toText (u : Uuid) : u.toText.length = 36 := by
  have size := length_hexText u
  simp only [toText, List.length_append, List.length_cons, List.length_take, List.length_drop]
  omega

theorem unwrapped_toText (u : Uuid) : unwrapped u.toText = none := by
  obtain ⟨digit, rest, digits⟩ : ∃ digit rest, u.digits = digit :: rest := by
    apply List.exists_cons_of_ne_nil
    intro none
    have size := u.length_digits
    rw [none] at size
    cases size
  obtain ⟨_, brace, scheme⟩ := digitChar_ne digit
  have heading : ∃ others, u.toText = Nat.digitChar digit.val :: others := by
    simp only [toText, digits, hexText, List.map_cons, List.take_succ_cons, List.cons_append]
    exact ⟨_, rfl⟩
  obtain ⟨others, heading⟩ := heading
  rw [heading]
  unfold unwrapped
  split
  · rename_i opening
    exact absurd (List.cons.inj opening).1 brace
  · have other : ("urn:uuid:".toList).isPrefixOf (Nat.digitChar digit.val :: others) = false := by
      have spelled : "urn:uuid:".toList = ['u', 'r', 'n', ':', 'u', 'u', 'i', 'd', ':'] := by decide
      rw [spelled, List.isPrefixOf, beq_eq_false_iff_ne.mpr (Ne.symm scheme), Bool.false_and]
    simp only [Text.after?, other, Bool.false_eq_true, ite_false, Option.map_none]

theorem read_toText (u : Uuid) : read u.toText = .ok u := by
  have long : ¬ u.toText.length = simpleSize := by
    rw [length_toText]
    decide
  simp only [read, parse?, unwrapped_toText, if_neg long, grouped?_toText]

end TypedPath.Uuid
