import TypedPath.Proofs.Pattern.Choice
import TypedPath.Proofs.Pattern.Concatenation

namespace TypedPath

namespace Segment

variable {segment : Segment} {parts front rest : List Text} {taken : Option Text}

theorem takes_of_append (takes : segment.Takes (front ++ rest) taken) (first : taken.toList <+: front) :
    segment.Takes front taken := by
  by_cases some : front = []
  · subst some
    cases taken with
    | some part => simp at first
    | none => exact takes_none_iff.mpr ⟨(takes_none_iff.mp takes).1, fun _ => rfl, nofun⟩
  · exact (takes_append_iff some rest taken).mp takes

theorem exists_takes_of_isOptional (optional : segment.isOptional = true)
    (readable : ∀ part ∈ parts, (Percent.decode? part).isSome) :
    ∃ taken, segment.Takes parts taken ∧ taken.toList <+: parts := by
  cases parts with
  | nil => exact ⟨none, (takes_nil_iff segment none).mpr ⟨optional, rfl⟩⟩
  | cons part parts =>
    have decodes := readable part List.mem_cons_self
    simp only [takes_cons_iff]
    split
    · exact ⟨_, rfl, decodes⟩
    · split
      · exact ⟨_, rfl⟩
      · exact ⟨_, optional, rfl⟩

end Segment

namespace Pairing

open Segment

variable {segment : Segment} {segments : List Segment} {parts front rest : List Text}
  {pairing other : List (Option Text)} {exact : Bool}

theorem Pairs.whole (pairs : Pairs exact segments parts pairing) :
    Pairs true segments pairing.reduceOption pairing := by
  induction segments generalizing parts pairing with
  | nil =>
    obtain ⟨rfl, _⟩ := Pairs.nil_iff.mp pairs
    exact Pairs.nil_iff.mpr ⟨rfl, fun _ => rfl⟩
  | cons segment segments ih =>
    cases pairing with
    | nil => cases pairs.length_eq
    | cons taken pairing =>
      obtain ⟨takes, ⟨rest, rfl⟩, later⟩ := Pairs.cons_iff.mp pairs
      rw [List.drop_left] at later
      obtain ⟨more, split⟩ := later.inOrder
      rw [← split, ← List.append_assoc] at takes
      rw [reduceOption_cons, Pairs.cons_iff, List.drop_left]
      exact ⟨takes_of_append takes (List.prefix_append ..), List.prefix_append .., ih later⟩

theorem Pairs.length_le (pairs : Pairs exact segments (front ++ rest) pairing)
    (shorter : Pairs true segments front other) :
    front.length ≤ pairing.reduceOption.length := by
  induction segments generalizing front pairing other with
  | nil =>
    rw [(Pairs.nil_iff.mp shorter).2 rfl]
    exact Nat.zero_le _
  | cons segment segments ih =>
    by_cases some : front = []
    · subst some
      exact Nat.zero_le _
    · cases pairing with
      | nil => cases pairs.length_eq
      | cons taken pairing =>
        cases other with
        | nil => cases shorter.length_eq
        | cons again other =>
          obtain ⟨takesAgain, firstAgain, laterAgain⟩ := Pairs.cons_iff.mp shorter
          obtain ⟨takes, first, later⟩ := Pairs.cons_iff.mp pairs
          -- as long as the front lasts, the run over the path takes what the run over the front takes
          have takesBoth := (takes_append_iff some rest again).mpr takesAgain
          have same : again = taken :=
            takes_unique takesBoth (firstAgain.trans (List.prefix_append ..)) takes first
          subst same
          obtain ⟨left, rfl⟩ := firstAgain
          rw [List.append_assoc, List.drop_left] at later
          rw [List.drop_left] at laterAgain
          rw [reduceOption_cons, List.length_append, List.length_append]
          exact Nat.add_le_add_left (ih later laterAgain) _

/-- Once a front of the path has matched, only optional segments are left, and they take what they can. -/
theorem exists_pairs_of_front (shorter : Pairs true segments front other)
    (readable : ∀ part ∈ rest, (Percent.decode? part).isSome) :
    ∃ pairing, Pairs false segments (front ++ rest) pairing := by
  induction segments generalizing front rest other with
  | nil => exact ⟨[], Pairs.nil_iff.mpr ⟨rfl, nofun⟩⟩
  | cons segment segments ih =>
    cases other with
    | nil => cases shorter.length_eq
    | cons taken other =>
      obtain ⟨takes, first, later⟩ := Pairs.cons_iff.mp shorter
      by_cases some : front = []
      · -- the front is used up, so this segment took nothing of it and may take what comes next
        subst some
        have optional := ((takes_nil_iff segment taken).mp ⟨takes, first⟩).1
        obtain ⟨taken, takes, more, rfl⟩ := exists_takes_of_isOptional optional readable
        rw [List.drop_nil] at later
        obtain ⟨pairing, pairs⟩ := ih later fun part member => readable part (List.mem_append_right _ member)
        refine ⟨taken :: pairing, Pairs.cons_iff.mpr ⟨takes, List.prefix_append .., ?_⟩⟩
        rwa [List.nil_append, List.drop_left]
      · obtain ⟨left, rfl⟩ := first
        rw [List.drop_left] at later
        obtain ⟨pairing, pairs⟩ := ih later readable
        refine ⟨taken :: pairing, Pairs.cons_iff.mpr ⟨(takes_append_iff some rest taken).mpr takes, ?_, ?_⟩⟩
        · rw [List.append_assoc]
          exact List.prefix_append ..
        · rwa [List.append_assoc, List.drop_left]

/-- Only an optional literal passes over the first component of a path. -/
theorem Pairs.reduceOption_ne_nil (pairs : Pairs exact (segment :: segments) parts pairing)
    (first : segment.kind ≠ .optionalStatic) (some : parts ≠ []) : pairing.reduceOption ≠ [] := by
  cases pairing with
  | nil => cases pairs.length_eq
  | cons taken pairing =>
    obtain ⟨takes, _, _⟩ := Pairs.cons_iff.mp pairs
    cases taken with
    | some part => simp [reduceOption_cons]
    | none =>
      obtain ⟨optional, exhausted, _⟩ := takes_none_iff.mp takes
      exact absurd (exhausted (kind_eq_optionalParam (isParam_of_isOptional optional first) optional)) some

end Pairing

namespace Pattern

open Pairing

variable {pattern : Pattern} {path : Text} {front : List Text} {bound : Bindings} {pairing : List (Option Text)}

def MatchesFront (pattern : Pattern) (path : Text) (front : List Text) : Prop :=
  front ≠ [] ∧ front <+: path.splitOn separator ∧
    ∃ bound, pattern.matchPath true (Text.join [separator] front) = .ok bound

theorem matchPath_join_eq_ok_iff (some : front ≠ []) (first : front <+: path.splitOn separator) :
    pattern.matchPath true (Text.join [separator] front) = .ok bound ↔
      ∃ pairing, Pairs true pattern.segments front pairing ∧
        bound = (pattern.segments.zip pairing).foldl record [] := by
  have enclosed : ∀ part ∈ front, separator ∉ part := fun _ member =>
    Text.not_mem_of_mem_splitOn (first.subset member)
  rw [matchPath_eq_ok_iff, splitOn_join some enclosed]

theorem MatchesFront.exists_pairs (found : pattern.MatchesFront path front) :
    ∃ pairing, Pairs true pattern.segments front pairing := by
  obtain ⟨some, first, bound, matched⟩ := found
  obtain ⟨pairing, pairs, _⟩ := (matchPath_join_eq_ok_iff some first).mp matched
  exact ⟨pairing, pairs⟩

theorem Built.paired_ne_nil (built : pattern.Built)
    (first : ∀ segment ∈ pattern.segments.head?, segment.kind ≠ .optionalStatic)
    (pairs : Pairs false pattern.segments (path.splitOn separator) pairing) : pairing.reduceOption ≠ [] := by
  obtain ⟨segment, segments, split⟩ := List.exists_cons_of_ne_nil built.segments_ne_nil
  rw [split] at first pairs
  exact pairs.reduceOption_ne_nil (first segment rfl) (List.splitOn_ne_nil separator path)

/-- Where the end of a path may be passed over, a match is one of the longest front that matches as it
    stands, and there is no other match. -/
theorem matchPath_longest_front (built : pattern.Built)
    (first : ∀ segment ∈ pattern.segments.head?, segment.kind ≠ .optionalStatic)
    (readable : ∀ part ∈ path.splitOn separator, (Percent.decode? part).isSome) :
    ((∃ front, pattern.MatchesFront path front) →
        ∃ front, pattern.MatchesFront path front ∧
          (∀ other, pattern.MatchesFront path other → other.length ≤ front.length) ∧
          pattern.matchPath false path = pattern.matchPath true (Text.join [separator] front)) ∧
      ((¬ ∃ front, pattern.MatchesFront path front) → ∃ mismatch, pattern.matchPath false path = .error mismatch) ∧
      ∀ bound, pattern.matchPath true path = .ok bound → pattern.matchPath false path = .ok bound := by
  have taken {pairing : List (Option Text)} (pairs : Pairs false pattern.segments (path.splitOn separator) pairing) :
      pattern.matchPath true (Text.join [separator] pairing.reduceOption) =
        .ok ((pattern.segments.zip pairing).foldl record []) :=
    (matchPath_join_eq_ok_iff (built.paired_ne_nil first pairs) pairs.inOrder).mpr ⟨pairing, pairs.whole, rfl⟩
  refine ⟨?_, ?_, ?_⟩
  · rintro ⟨front, found⟩
    obtain ⟨shorter, inFront⟩ := found.exists_pairs
    obtain ⟨rest, split⟩ := found.2.1
    obtain ⟨pairing, pairs⟩ := exists_pairs_of_front inFront fun part member =>
      readable part (split ▸ List.mem_append_right _ member)
    rw [split] at pairs
    refine ⟨pairing.reduceOption, ⟨built.paired_ne_nil first pairs, pairs.inOrder, _, taken pairs⟩, ?_, ?_⟩
    · intro other otherFound
      obtain ⟨_, inOther⟩ := otherFound.exists_pairs
      obtain ⟨_, otherSplit⟩ := otherFound.2.1
      exact Pairs.length_le (otherSplit ▸ pairs) inOther
    · rw [taken pairs]
      exact (matchPath_eq_ok_iff ..).mpr ⟨pairing, pairs, rfl⟩
  · intro unmatched
    cases outcome : pattern.matchPath false path with
    | error mismatch => exact ⟨mismatch, rfl⟩
    | ok bound =>
      obtain ⟨pairing, pairs, _⟩ := (matchPath_eq_ok_iff ..).mp outcome
      exact absurd ⟨_, built.paired_ne_nil first pairs, pairs.inOrder, _, taken pairs⟩ unmatched
  · intro bound matched
    obtain ⟨pairing, pairs, rfl⟩ := (matchPath_eq_ok_iff ..).mp matched
    exact (matchPath_eq_ok_iff ..).mpr ⟨pairing, ⟨pairs.length_eq, pairs.inOrder, pairs.takes, nofun⟩, rfl⟩

theorem matchPath_longest_front_page :
    let pattern := compile "/:id/x?/:page?"
    let path : Text := "/a/x/b/c"
    (∀ segment ∈ pattern.segments.head?, segment.kind ≠ .optionalStatic) ∧
      (∀ part ∈ path.splitOn separator, (Percent.decode? part).isSome) ∧
      pattern.MatchesFront path ["", "a"] ∧
      ∃ front, pattern.MatchesFront path front ∧
        (∀ other, pattern.MatchesFront path other → other.length ≤ front.length) ∧
        pattern.matchPath true (Text.join [separator] front) = .ok [("id", "a"), ("page", "b")] := by
  intro pattern path
  have first : ∀ segment ∈ pattern.segments.head?, segment.kind ≠ .optionalStatic := by decide +kernel
  have readable : ∀ part ∈ path.splitOn separator, (Percent.decode? part).isSome := by decide +kernel
  have found : pattern.MatchesFront path ["", "a"] :=
    ⟨by decide, by decide +kernel, [("id", "a")], by decide +kernel⟩
  obtain ⟨front, longest, longer, same⟩ := (matchPath_longest_front (.compiled _) first readable).1 ⟨_, found⟩
  refine ⟨first, readable, found, front, longest, longer, ?_⟩
  rw [← same]
  decide +kernel

-- An escape that cannot be read stops the run, though a shorter front matches.
example :
    (compile "/:id/:page?").matchPath true "/a" = .ok [("id", "a")] ∧
      (compile "/:id/:page?").matchPath false "/a/%FF" = .error (.undecodable "%FF") := by
  decide +kernel

end Pattern

end TypedPath
