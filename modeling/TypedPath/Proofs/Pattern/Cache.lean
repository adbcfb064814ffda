import Mathlib.Data.Finset.Card
import TypedPath.Pattern.Cache

namespace TypedPath.PatternCache

def IsFaithful (cache : PatternCache) : Prop :=
  ∀ compilation ∈ cache.kept, compilation.pattern = Pattern.compile compilation.pattern.text

variable {cache : PatternCache}

theorem isFaithful_empty : empty.IsFaithful :=
  nofun

theorem IsFaithful.use (faithful : cache.IsFaithful) {compilation : Compilation}
    (compiled : compilation.pattern = Pattern.compile compilation.pattern.text) :
    (cache.use compilation).IsFaithful := by
  intro other member
  rcases List.mem_cons.mp (List.mem_of_mem_take member) with rfl | kept
  · exact compiled
  · exact faithful other (List.mem_of_mem_eraseP kept)

/-- What one call does: it gives what is kept for the text, or else makes what comes next. -/
theorem compile_cases (cache : PatternCache) (text : Text) :
    (∃ compilation ∈ cache.kept, compilation.pattern.text = text ∧
      cache.compile text = (compilation, true, cache.use compilation)) ∨
    (∀ compilation ∈ cache.kept, compilation.pattern.text ≠ text) ∧
      cache.compile text = (⟨cache.made, .compile text⟩, false,
        (PatternCache.mk cache.kept (cache.made + 1)).use ⟨cache.made, .compile text⟩) := by
  unfold compile
  cases found : cache.find? text with
  | some compilation =>
    exact .inl ⟨compilation, List.mem_of_find?_eq_some found, by simpa using List.find?_some found, rfl⟩
  | none => exact .inr ⟨by simpa [find?] using found, rfl⟩

/-- A pattern comes out of the cache as it is compiled without it. -/
theorem IsFaithful.compile (faithful : cache.IsFaithful) (text : Text) :
    (cache.compile text).1.pattern = Pattern.compile text ∧ (cache.compile text).2.2.IsFaithful := by
  rcases cache.compile_cases text with ⟨compilation, kept, same, given⟩ | ⟨_, given⟩
  · have held := faithful compilation kept
    rw [given]
    exact ⟨same ▸ held, faithful.use held⟩
  · rw [given]
    exact ⟨rfl, @IsFaithful.use ⟨cache.kept, cache.made + 1⟩ faithful _ rfl⟩

def texts (cache : PatternCache) : List Text := cache.kept.map fun compilation => compilation.pattern.text

theorem held_compile_iff (cache : PatternCache) (text : Text) :
    (cache.compile text).2.1 = true ↔ text ∈ cache.texts := by
  unfold texts
  rw [List.mem_map]
  rcases cache.compile_cases text with ⟨compilation, kept, same, given⟩ | ⟨absent, given⟩
  · rw [given]
    exact iff_of_true rfl ⟨compilation, kept, same⟩
  · rw [given]
    exact iff_of_false nofun fun ⟨compilation, kept, same⟩ => absent compilation kept same

theorem map_text_eraseP (kept : List Compilation) (text : Text) :
    (kept.eraseP fun other => other.pattern.text = text).map (fun other => other.pattern.text) =
      (kept.map fun other => other.pattern.text).erase text := by
  induction kept with
  | nil => rfl
  | cons first kept ih => by_cases same : first.pattern.text = text <;> simp [same, ih]

theorem texts_use (cache : PatternCache) (compilation : Compilation) :
    (cache.use compilation).texts =
      (compilation.pattern.text :: cache.texts.erase compilation.pattern.text).take capacity := by
  unfold use texts
  rw [List.map_take, List.map_cons, map_text_eraseP]

theorem texts_compile (cache : PatternCache) (text : Text) :
    (cache.compile text).2.2.texts = (text :: cache.texts.erase text).take capacity := by
  rcases cache.compile_cases text with ⟨compilation, _, rfl, given⟩ | ⟨_, given⟩
  · rw [given, texts_use]
  · rw [given, texts_use]
    rfl

def usedLast (calls : List Text) : List Text :=
  calls.foldl (fun used text => text :: used.erase text) []

theorem usedLast_concat (calls : List Text) (text : Text) :
    usedLast (calls ++ [text]) = text :: (usedLast calls).erase text := by
  simp only [usedLast, List.foldl_append, List.foldl_cons, List.foldl_nil]

theorem nodup_usedLast (calls : List Text) : (usedLast calls).Nodup := by
  induction calls using List.reverseRecOn with
  | nil => exact List.nodup_nil
  | append_singleton calls text ih =>
    rw [usedLast_concat, List.nodup_cons]
    exact ⟨ih.not_mem_erase, ih.erase text⟩

theorem mem_usedLast {calls : List Text} {text : Text} : text ∈ usedLast calls ↔ text ∈ calls := by
  induction calls using List.reverseRecOn with
  | nil => exact Iff.rfl
  | append_singleton calls last ih =>
    rw [usedLast_concat, List.mem_cons, (nodup_usedLast calls).mem_erase_iff, ih, List.mem_append,
      List.mem_singleton]
    tauto

/-- In front of a text stand those that were used after it. -/
theorem exists_usedLast_eq (before : List Text) {between : List Text} {text : Text} (absent : text ∉ between) :
    ∃ newer older, usedLast (before ++ text :: between) = newer ++ text :: older ∧
      ∀ other, other ∈ newer ↔ other ∈ between := by
  induction between using List.reverseRecOn with
  | nil => exact ⟨[], _, usedLast_concat before text, fun _ => Iff.rfl⟩
  | append_singleton between last ih =>
    rw [List.mem_append, List.mem_singleton, not_or] at absent
    obtain ⟨newer, older, used, same⟩ := ih absent.1
    have nodup := used ▸ nodup_usedLast (before ++ text :: between)
    have newerNodup := (List.nodup_append.mp nodup).1
    have members (other : Text) : other ∈ last :: newer.erase last ↔ other ∈ between ++ [last] := by
      rw [List.mem_cons, newerNodup.mem_erase_iff, same, List.mem_append, List.mem_singleton]
      tauto
    have next : usedLast (before ++ text :: (between ++ [last])) = last :: (newer ++ text :: older).erase last := by
      rw [← List.cons_append, ← List.append_assoc, usedLast_concat, used]
    rw [next, List.erase_append]
    split
    · exact ⟨last :: newer.erase last, older, rfl, members⟩
    · rename_i fresh
      refine ⟨last :: newer.erase last, older.erase last, ?_, members⟩
      rw [List.erase_of_not_mem fresh, List.erase_cons_tail (by simpa using absent.2)]
      rfl

/-- A text is among the first as long as there are fewer others that were used after it. -/
theorem mem_take_usedLast_iff (before : List Text) {between : List Text} {text : Text} (absent : text ∉ between)
    (n : Nat) : text ∈ (usedLast (before ++ text :: between)).take n ↔ between.toFinset.card < n := by
  obtain ⟨newer, older, used, same⟩ := exists_usedLast_eq before absent
  have nodup := used ▸ nodup_usedLast (before ++ text :: between)
  have count : between.toFinset.card = newer.length := by
    rw [← List.toFinset_card_of_nodup (List.nodup_append.mp nodup).1]
    exact congrArg _ (Finset.ext fun other => by rw [List.mem_toFinset, List.mem_toFinset, same])
  have notNewer : text ∉ newer.take n := fun member => absent ((same text).mp (List.mem_of_mem_take member))
  rw [used, count, List.take_append, List.mem_append, or_iff_right notNewer]
  cases left : n - newer.length with
  | zero =>
    rw [List.take_zero]
    exact iff_of_false List.not_mem_nil (by omega)
  | succ m =>
    rw [List.take_succ_cons]
    exact iff_of_true List.mem_cons_self (by omega)

/-- What was dropped at the end earlier would be dropped now. -/
theorem take_cons_erase_take (n : Nat) (used : List Text) (text : Text) :
    (text :: (used.take n).erase text).take n = (text :: used.erase text).take n := by
  have shorter (n : Nat) : ((used.take (n + 1)).erase text).take n = (used.erase text).take n := by
    induction used generalizing n with
    | nil => rfl
    | cons first used ih =>
      rw [List.take_succ_cons, List.erase_cons, List.erase_cons]
      split
      · rw [List.take_take, Nat.min_self]
      · cases n with
        | zero => rfl
        | succ n => rw [List.take_succ_cons, List.take_succ_cons, ih]
  cases n with
  | zero => rfl
  | succ n => rw [List.take_succ_cons, List.take_succ_cons, shorter]

def after (calls : List Text) : PatternCache :=
  calls.foldl (fun cache text => (cache.compile text).2.2) empty

theorem after_concat (calls : List Text) (text : Text) :
    after (calls ++ [text]) = ((after calls).compile text).2.2 := by
  simp only [after, List.foldl_append, List.foldl_cons, List.foldl_nil]

theorem isFaithful_after (calls : List Text) : (after calls).IsFaithful := by
  induction calls using List.reverseRecOn with
  | nil => exact isFaithful_empty
  | append_singleton calls text ih =>
    rw [after_concat]
    exact (ih.compile text).2

theorem texts_after (calls : List Text) : (after calls).texts = (usedLast calls).take capacity := by
  induction calls using List.reverseRecOn with
  | nil => rfl
  | append_singleton calls text ih =>
    rw [after_concat, texts_compile, ih, take_cons_erase_take, usedLast_concat]

theorem length_kept_after_le (calls : List Text) : (after calls).kept.length ≤ capacity := by
  have length : (after calls).kept.length = (after calls).texts.length := (List.length_map ..).symm
  rw [length, texts_after]
  exact List.length_take_le ..

theorem nodup_texts_after (calls : List Text) : (after calls).texts.Nodup :=
  texts_after calls ▸ (nodup_usedLast calls).sublist (List.take_sublist ..)

def answer (calls : List Text) (text : Text) : Compilation := ((after calls).compile text).1

theorem pattern_answer (calls : List Text) (text : Text) : (answer calls text).pattern = .compile text :=
  ((isFaithful_after calls).compile text).1

theorem mem_kept_compile (nodup : cache.texts.Nodup) {text : Text} {compilation : Compilation}
    (kept : compilation ∈ (cache.compile text).2.2.kept) :
    compilation = (cache.compile text).1 ∨ compilation ∈ cache.kept ∧ compilation.pattern.text ≠ text := by
  have others {used : Compilation} (same : used.pattern.text = text)
      (member : compilation ∈ cache.kept.eraseP fun other => other.pattern.text = used.pattern.text) :
      compilation ∈ cache.kept ∧ compilation.pattern.text ≠ text := by
    have erased : text ∉ cache.texts.erase text := nodup.not_mem_erase
    refine ⟨List.mem_of_mem_eraseP member, fun again => erased ?_⟩
    rw [texts, ← map_text_eraseP, ← again]
    rw [same, ← again] at member
    exact List.mem_map_of_mem member
  rcases cache.compile_cases text with ⟨used, _, same, given⟩ | ⟨_, given⟩
  · rw [given] at kept ⊢
    exact (List.mem_cons.mp (List.mem_of_mem_take kept)).imp_right (others same)
  · rw [given] at kept ⊢
    exact (List.mem_cons.mp (List.mem_of_mem_take kept)).imp_right (others rfl)

/-- What is kept for a text is what the last call on it gave. -/
theorem answer_of_mem_kept {calls : List Text} {compilation : Compilation}
    (kept : compilation ∈ (after calls).kept) {before between : List Text}
    (split : calls = before ++ compilation.pattern.text :: between)
    (absent : compilation.pattern.text ∉ between) : answer before compilation.pattern.text = compilation := by
  induction calls using List.reverseRecOn generalizing between with
  | nil => cases kept
  | append_singleton calls last ih =>
    rw [after_concat] at kept
    have whichOne := mem_kept_compile (nodup_texts_after calls) kept
    rcases between.eq_nil_or_concat with rfl | ⟨between, again, rfl⟩
    · obtain ⟨rfl, same⟩ := List.append_inj' split rfl
      obtain rfl := List.singleton_inj.mp same
      exact (whichOne.resolve_right fun other => other.2 rfl).symm
    · rw [List.concat_eq_append] at split absent
      rw [← List.cons_append, ← List.append_assoc] at split
      obtain ⟨earlier, same⟩ := List.append_inj' split rfl
      obtain rfl := List.singleton_inj.mp same
      rw [List.mem_append, List.mem_singleton, not_or] at absent
      refine ih (whichOne.resolve_left fun new => absent.2 ?_).1 earlier absent.1
      rw [new]
      exact congrArg Pattern.text (pattern_answer calls last)

theorem answer_of_held {before between : List Text} {text : Text} (absent : text ∉ between)
    (held : text ∈ (after (before ++ text :: between)).texts) :
    answer (before ++ text :: between) text = answer before text := by
  rcases (after (before ++ text :: between)).compile_cases text with ⟨compilation, kept, rfl, given⟩ | ⟨other, _⟩
  · have first : answer (before ++ compilation.pattern.text :: between) compilation.pattern.text = compilation :=
      congrArg Prod.fst given
    rw [first]
    exact (answer_of_mem_kept kept rfl absent).symm
  · obtain ⟨compilation, kept, same⟩ := List.mem_map.mp held
    exact absurd same (other compilation kept)

def IsNumbered (cache : PatternCache) : Prop := ∀ compilation ∈ cache.kept, compilation.number < cache.made

theorem IsNumbered.compile (numbered : cache.IsNumbered) (text : Text) :
    (cache.compile text).1.number < (cache.compile text).2.2.made ∧ (cache.compile text).2.2.IsNumbered ∧
      cache.made ≤ (cache.compile text).2.2.made := by
  rcases cache.compile_cases text with ⟨compilation, kept, _, given⟩ | ⟨_, given⟩
  · rw [given]
    refine ⟨numbered compilation kept, fun other member => ?_, Nat.le_refl _⟩
    rcases List.mem_cons.mp (List.mem_of_mem_take member) with rfl | member
    · exact numbered _ kept
    · exact numbered other (List.mem_of_mem_eraseP member)
  · rw [given]
    refine ⟨Nat.lt_succ_self _, fun other member => ?_, Nat.le_succ _⟩
    rcases List.mem_cons.mp (List.mem_of_mem_take member) with rfl | member
    · exact Nat.lt_succ_self _
    · exact Nat.lt_succ_of_lt (numbered other (List.mem_of_mem_eraseP member))

theorem isNumbered_after (calls : List Text) : (after calls).IsNumbered := by
  induction calls using List.reverseRecOn with
  | nil => exact nofun
  | append_singleton calls text ih =>
    rw [after_concat]
    exact (ih.compile text).2.1

theorem number_answer_lt (before : List Text) (text : Text) (between : List Text) :
    (answer before text).number < (after (before ++ text :: between)).made := by
  induction between using List.reverseRecOn with
  | nil =>
    rw [after_concat]
    exact ((isNumbered_after before).compile text).1
  | append_singleton between last ih =>
    rw [← List.cons_append, ← List.append_assoc, after_concat]
    exact Nat.lt_of_lt_of_le ih ((isNumbered_after _).compile last).2.2

/-- A text that is not held is compiled anew. -/
theorem number_answer_of_not_held {calls : List Text} {text : Text} (absent : text ∉ (after calls).texts) :
    (answer calls text).number = (after calls).made := by
  rcases (after calls).compile_cases text with ⟨compilation, kept, same, _⟩ | ⟨_, given⟩
  · exact absurd (List.mem_map.mpr ⟨compilation, kept, same⟩) absent
  · unfold answer
    rw [given]

end TypedPath.PatternCache
