import TypedPath.Proofs.Route.Session

namespace TypedPath.Session

open PatternCache (answer)

def after (calls : List Text) : SessionState :=
  calls.foldl (fun state text => ((fetch text).run state).2) .start

theorem after_concat (calls : List Text) (text : Text) :
    after (calls ++ [text]) = ((fetch text).run (after calls)).2 := by
  simp only [after, List.foldl_append, List.foldl_cons, List.foldl_nil]

theorem cache_after (calls : List Text) : (after calls).cache = .after calls := by
  induction calls using List.reverseRecOn with
  | nil => rfl
  | append_singleton calls text ih =>
    rw [after_concat, run_fetch, ih, PatternCache.after_concat]

def IsHeld (calls : List Text) (text : Text) : Prop := text ∈ (PatternCache.after calls).texts

theorem run_fetch_after (calls : List Text) (text : Text) :
    ∃ held, (fetch text).run (after calls) = (.ok (answer calls text, held), after (calls ++ [text])) ∧
      (held = true ↔ IsHeld calls text) := by
  refine ⟨((after calls).cache.compile text).2.1, ?_, ?_⟩
  · rw [after_concat, run_fetch, cache_after]
    rfl
  · rw [cache_after]
    exact PatternCache.held_compile_iff _ text

theorem events_after_of_held {calls : List Text} {text : Text} (held : IsHeld calls text) :
    (after (calls ++ [text])).events = (after calls).events := by
  rw [after_concat, run_fetch, cache_after]
  exact if_pos ((PatternCache.held_compile_iff _ text).mpr held)

theorem events_after_of_not_held {calls : List Text} {text : Text} (absent : ¬ IsHeld calls text) :
    (after (calls ++ [text])).events =
      .compiled text (Pattern.compile text).segments.length :: (after calls).events := by
  have made : ((PatternCache.after calls).compile text).1.pattern = .compile text :=
    PatternCache.pattern_answer calls text
  rw [after_concat, run_fetch, cache_after, made]
  exact if_neg fun held => absent ((PatternCache.held_compile_iff _ text).mp held)

/-- The text was compiled before, and at most 255 other texts were since. -/
def IsRecent (calls : List Text) (text : Text) : Prop :=
  ∃ before between, calls = before ++ text :: between ∧ text ∉ between ∧ between.toFinset.card ≤ 255

theorem isHeld_iff_card (before : List Text) {between : List Text} {text : Text} (absent : text ∉ between) :
    IsHeld (before ++ text :: between) text ↔ between.toFinset.card ≤ 255 := by
  unfold IsHeld
  rw [PatternCache.texts_after, PatternCache.mem_take_usedLast_iff before absent]
  exact Nat.lt_succ_iff

theorem isHeld_iff_isRecent {calls : List Text} {text : Text} : IsHeld calls text ↔ IsRecent calls text := by
  constructor
  · intro held
    have called : text ∈ calls := by
      unfold IsHeld at held
      rw [PatternCache.texts_after] at held
      exact PatternCache.mem_usedLast.mp (List.mem_of_mem_take held)
    obtain ⟨between, before, split, absent⟩ := List.eq_append_cons_of_mem (List.mem_reverse.mpr called)
    have split : calls = before.reverse ++ text :: between.reverse := by
      rw [← List.reverse_reverse calls, split, List.reverse_append, List.reverse_cons, List.append_assoc,
        List.singleton_append]
    have absent : text ∉ between.reverse := fun member => absent (List.mem_reverse.mp member)
    rw [split, isHeld_iff_card _ absent] at held
    exact ⟨_, _, split, absent, held⟩
  · intro recent
    obtain ⟨before, between, rfl, absent, few⟩ := recent
    exact (isHeld_iff_card before absent).mpr few

/-- After any calls, a call gives the pattern of its text: the compilation that the last call on the
    text gave, with nothing noted down, as long as at most 255 other texts came between, and else a
    new one, which is noted down once. There are never more than 256 compilations kept. -/
theorem fetch_after (calls : List Text) (text : Text) :
    (∃ held, (fetch text).run (after calls) = (.ok (answer calls text, held), after (calls ++ [text])) ∧
      (held = true ↔ IsRecent calls text)) ∧
    (answer calls text).pattern = .compile text ∧
    (after calls).cache.kept.length ≤ 256 ∧
    (∀ before between, calls = before ++ text :: between → text ∉ between →
      ((answer calls text).number = (answer before text).number ∧
        (after (calls ++ [text])).events = (after calls).events ↔ between.toFinset.card ≤ 255)) ∧
    (¬ IsRecent calls text →
      (after (calls ++ [text])).events =
        .compiled text (Pattern.compile text).segments.length :: (after calls).events ∧
      ∀ before other between, calls = before ++ other :: between →
        (answer calls text).number ≠ (answer before other).number) := by
  have anew {before : List Text} {other : Text} {between : List Text} (split : calls = before ++ other :: between)
      (absent : ¬ IsHeld calls text) : (answer calls text).number ≠ (answer before other).number := by
    rw [PatternCache.number_answer_of_not_held absent]
    exact Nat.ne_of_gt (split ▸ PatternCache.number_answer_lt before other between)
  refine ⟨?_, PatternCache.pattern_answer calls text, ?_, ?_, ?_⟩
  · simpa only [isHeld_iff_isRecent] using run_fetch_after calls text
  · rw [cache_after]
    exact PatternCache.length_kept_after_le calls
  · intro before between split absent
    rw [← isHeld_iff_card before absent, ← split]
    constructor
    · intro h
      by_contra notHeld
      exact anew split notHeld h.1
    · intro held
      refine ⟨?_, events_after_of_held held⟩
      subst split
      rw [PatternCache.answer_of_held absent held]
  · intro old
    rw [← isHeld_iff_isRecent] at old
    exact ⟨events_after_of_not_held old, fun _ _ _ split => anew split old⟩

end TypedPath.Session
