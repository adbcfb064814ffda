import TypedPath.Proofs.Pattern.Omission

namespace TypedPath

namespace Bindings

def update (bound more : Bindings) : Bindings :=
  more.foldl (fun bound pair => bound.bind pair.1 pair.2) bound

theorem update_cons (bound more : Bindings) (name value : Text) :
    bound.update ((name, value) :: more) = (bound.bind name value).update more := rfl

theorem bind_bind (bound : Bindings) (name old value : Text) :
    (bound.bind name old).bind name value = bound.bind name value := by
  induction bound with
  | nil => simp [bind]
  | cons pair rest ih =>
    by_cases same : pair.1 = name
    · simp [bind, same]
    · simp [bind, same, ih]

theorem bind_comm {bound : Bindings} {name other : Text} (apart : other ≠ name)
    (held : name ∈ bound.map Prod.fst) (value new : Text) :
    (bound.bind other new).bind name value = (bound.bind name value).bind other new := by
  induction bound with
  | nil => cases held
  | cons pair rest ih =>
    obtain ⟨key, old⟩ := pair
    rw [List.map_cons, List.mem_cons] at held
    by_cases first : key = name
    · subst first
      simp [bind, apart.symm]
    · by_cases second : key = other
      · subst second
        simp [bind, first]
      · have later := held.resolve_left (Ne.symm first)
        simp [bind, first, second, ih later]

theorem bind_update {bound more : Bindings} {name : Text} (held : name ∈ bound.map Prod.fst)
    (fresh : name ∉ more.map Prod.fst) (value : Text) :
    (bound.update more).bind name value = (bound.bind name value).update more := by
  induction more generalizing bound with
  | nil => rfl
  | cons pair more ih =>
    obtain ⟨other, new⟩ := pair
    rw [List.map_cons, List.mem_cons, not_or] at fresh
    have kept : name ∈ (bound.bind other new).map Prod.fst := mem_keys_bind.mpr (.inr held)
    rw [update_cons, update_cons, ih kept fresh.2, bind_comm (Ne.symm fresh.1) held]

theorem update_bind {more : Bindings} (nodup : (more.map Prod.fst).Nodup) (bound : Bindings) (name value : Text) :
    bound.update (more.bind name value) = (bound.update more).bind name value := by
  induction more generalizing bound with
  | nil => rfl
  | cons pair more ih =>
    obtain ⟨key, old⟩ := pair
    rw [List.map_cons, List.nodup_cons] at nodup
    by_cases same : key = name
    · subst same
      have held : key ∈ (bound.bind key old).map Prod.fst := mem_keys_bind.mpr (.inl rfl)
      rw [bind, if_pos rfl, update_cons, update_cons, bind_update held nodup.1, bind_bind]
    · rw [bind, if_neg same, update_cons, update_cons, ih nodup.2]

theorem update_of_disjoint {bound more : Bindings} (nodup : (more.map Prod.fst).Nodup)
    (disjoint : (bound.map Prod.fst).Disjoint (more.map Prod.fst)) : bound.update more = bound ++ more := by
  induction more generalizing bound with
  | nil => exact (List.append_nil bound).symm
  | cons pair more ih =>
    obtain ⟨name, value⟩ := pair
    rw [List.map_cons, List.nodup_cons] at nodup
    rw [List.map_cons, List.disjoint_cons_right] at disjoint
    have apart : ((bound ++ [(name, value)]).map Prod.fst).Disjoint (more.map Prod.fst) := by
      rw [List.map_append, List.disjoint_append_left]
      exact ⟨disjoint.2, List.singleton_disjoint.mpr nodup.1⟩
    rw [update_cons, bind_of_not_mem disjoint.1, ih nodup.2 apart, List.append_assoc, List.singleton_append]

end Bindings

namespace Segment

open Pairing

theorem foldl_record_update (bound : Bindings) {more : Bindings} (nodup : (more.map Prod.fst).Nodup)
    (entries : List (Segment × Option Text)) :
    entries.foldl record (bound.update more) = bound.update (entries.foldl record more) := by
  induction entries generalizing more with
  | nil => rfl
  | cons entry entries ih =>
    rw [List.foldl_cons, List.foldl_cons]
    cases value : entry.1.value? entry.2 with
    | none =>
      have unchanged (bindings : Bindings) : record bindings entry = bindings := by simp [record, value]
      rw [unchanged, unchanged, ih nodup]
    | some text =>
      have bound_eq (bindings : Bindings) : record bindings entry = bindings.bind entry.1.name text := by
        simp [record, value]
      rw [bound_eq, bound_eq, ← Bindings.update_bind nodup, ih (Bindings.nodup_bind nodup ..)]

theorem follow_eq_ok_iff_update {exact : Bool} {segments : List Segment} {parts : List Text}
    {bound result : Bindings} :
    follow exact segments parts bound = .ok result ↔
      ∃ more, follow exact segments parts [] = .ok more ∧ result = bound.update more := by
  have split (entries : List (Segment × Option Text)) :
      entries.foldl record bound = bound.update (entries.foldl record []) :=
    @foldl_record_update bound [] List.nodup_nil entries
  simp only [follow_eq_ok_iff, split]
  grind

theorem takes_append_iff {segment : Segment} {parts : List Text} (some : parts ≠ []) (rest : List Text)
    (taken : Option Text) : segment.Takes (parts ++ rest) taken ↔ segment.Takes parts taken := by
  cases parts with
  | nil => exact absurd rfl some
  | cons part parts => cases kind : segment.kind <;> simp [Takes, kind]

theorem isSome_of_takes {segment : Segment} {parts : List Text} {taken : Option Text}
    (required : segment.isOptional = false) (takes : segment.Takes parts taken) : taken.isSome := by
  cases kind : segment.kind with
  | static =>
    simp only [Takes, kind] at takes
    simp [takes]
  | param =>
    simp only [Takes, kind] at takes
    obtain ⟨part, rfl, _⟩ := takes
    rfl
  | optionalStatic | optionalParam => simp [isOptional, kind] at required

theorem follow_cons_append {exact : Bool} {segment : Segment} {segments : List Segment} {parts : List Text}
    {bound result : Bindings} :
    follow exact (segment :: segments) parts bound = .ok result ↔
      ∃ taken rest, parts = taken.toList ++ rest ∧ segment.Takes parts taken ∧
        follow exact segments rest (record bound (segment, taken)) = .ok result := by
  rw [follow_cons]
  constructor
  · intro h
    obtain ⟨taken, ⟨takes, rest, rfl⟩, followed⟩ := h
    rw [List.drop_left] at followed
    exact ⟨taken, rest, rfl, takes, followed⟩
  · intro h
    obtain ⟨taken, rest, rfl, takes, followed⟩ := h
    exact ⟨taken, ⟨takes, rest, rfl⟩, by rwa [List.drop_left]⟩

def EndsRequired (segments : List Segment) : Prop :=
  ∃ segment, segments.getLast? = some segment ∧ segment.isOptional = false

section EndsRequired

variable {segment : Segment} {segments front back : List Segment} {parts share rest : List Text}
  {bound result : Bindings} {exact : Bool}

theorem EndsRequired.tail (ends : EndsRequired (segment :: segments)) (some : segments ≠ []) :
    EndsRequired segments := by
  obtain ⟨last, found, required⟩ := ends
  obtain ⟨first, others, rfl⟩ := List.exists_cons_of_ne_nil some
  exact ⟨last, by rwa [List.getLast?_cons_cons] at found, required⟩

theorem EndsRequired.parts_ne_nil (ends : EndsRequired segments)
    (followed : follow exact segments parts bound = .ok result) : parts ≠ [] := by
  intro none
  subst none
  obtain ⟨last, found, required⟩ := ends
  have optional := (follow_without_parts.mp followed).1 last (List.mem_of_getLast? found)
  rw [required] at optional
  cases optional

/-- A run over two lists of segments is one over each: the first takes exactly its share of the
    components. -/
theorem follow_append_iff (ends : EndsRequired front) :
    follow exact (front ++ back) parts bound = .ok result ↔
      ∃ share rest middle, parts = share ++ rest ∧ follow true front share bound = .ok middle ∧
        follow exact back rest middle = .ok result := by
  induction front generalizing parts bound with
  | nil =>
    obtain ⟨last, found, _⟩ := ends
    cases found
  | cons segment front ih =>
    rw [List.cons_append, follow_cons_append]
    constructor
    · intro h
      obtain ⟨taken, left, rfl, takes, followed⟩ := h
      by_cases only : front = []
      · subst only
        obtain ⟨last, found, required⟩ := ends
        cases found
        obtain ⟨part, rfl⟩ := Option.isSome_iff_exists.mp (isSome_of_takes required takes)
        have here := (takes_append_iff (List.cons_ne_nil part []) left _).mp takes
        have alone := follow_cons_append.mpr
          ⟨some part, [], rfl, here, (follow_nil true [] (record bound (segment, some part)) _).mpr ⟨rfl, fun _ => rfl⟩⟩
        exact ⟨[part], left, _, rfl, alone, followed⟩
      · obtain ⟨share, rest, middle, rfl, shared, followed⟩ := (ih (ends.tail only)).mp followed
        have some := (ends.tail only).parts_ne_nil shared
        rw [← List.append_assoc] at takes
        have here := (takes_append_iff (by simp [some]) rest taken).mp takes
        exact ⟨taken.toList ++ share, rest, middle, (List.append_assoc ..).symm,
          follow_cons_append.mpr ⟨taken, share, rfl, here, shared⟩, followed⟩
    · intro h
      obtain ⟨share, rest, middle, rfl, shared, followed⟩ := h
      have some := ends.parts_ne_nil shared
      obtain ⟨taken, left, rfl, takes, shared⟩ := follow_cons_append.mp shared
      refine ⟨taken, left ++ rest, List.append_assoc .., (takes_append_iff some rest taken).mpr takes, ?_⟩
      by_cases only : front = []
      · subst only
        obtain ⟨rfl, none⟩ := (follow_nil ..).mp shared
        rwa [none rfl]
      · exact (ih (ends.tail only)).mpr ⟨left, rest, middle, rfl, shared, followed⟩

theorem share_unique {more : List Text} {other left right : Bindings} (ends : EndsRequired front)
    (one : follow true front share bound = .ok left) (two : follow true front (share ++ more) other = .ok right) :
    more = [] := by
  induction front generalizing share bound other with
  | nil =>
    obtain ⟨last, found, _⟩ := ends
    cases found
  | cons segment front ih =>
    have some := ends.parts_ne_nil one
    obtain ⟨taken, rest, rfl, takes, one⟩ := follow_cons_append.mp one
    obtain ⟨again, longer, whole, takesAgain, two⟩ := follow_cons_append.mp two
    have takesLonger := (takes_append_iff some more taken).mpr takes
    have same : taken = again :=
      takes_unique takesLonger ⟨rest ++ more, (List.append_assoc ..).symm⟩ takesAgain ⟨longer, whole.symm⟩
    subst same
    rw [List.append_assoc, List.append_cancel_left_eq] at whole
    subst whole
    by_cases only : front = []
    · subst only
      have none := ((follow_nil ..).mp two).2 rfl
      exact (List.append_eq_nil_iff.mp none).2
    · exact ih (ends.tail only) one two

end EndsRequired

end Segment

namespace Pattern

variable {left right : Pattern} {exact : Bool} {path : Text} {front back : List Text} {result : Bindings}

/-- The first components match one pattern exactly, and the others, if there are any, match the other
    pattern; if there are none, that pattern can do without. -/
def Divides (left right : Pattern) (exact : Bool) (front back : List Text) (result : Bindings) : Prop :=
  front ≠ [] ∧ ∃ first, left.matchPath true (Text.join [separator] front) = .ok first ∧
    ((back = [] ∧ (∀ segment ∈ right.segments, segment.isOptional = true) ∧ result = first) ∨
      (back ≠ [] ∧ ∃ second, right.matchPath exact (Text.join [separator] back) = .ok second ∧
        result = first.update second))

theorem divides_iff (split : path.splitOn separator = front ++ back) :
    left.Divides right exact front back result ↔
      front ≠ [] ∧ ∃ first, Segment.follow true left.segments front [] = .ok first ∧
        Segment.follow exact right.segments back first = .ok result := by
  have enclosed : ∀ part ∈ front ++ back, separator ∉ part := by
    rw [← split]
    exact fun part => Text.not_mem_of_mem_splitOn
  obtain ⟨frontEnclosed, backEnclosed⟩ := List.forall_mem_append.mp enclosed
  unfold Divides matchPath
  refine and_congr_right fun some => ?_
  rw [splitOn_join some frontEnclosed]
  refine exists_congr fun first => and_congr_right fun _ => ?_
  by_cases none : back = []
  · subst none
    simp [Segment.follow_without_parts]
  · rw [splitOn_join none backEnclosed, Segment.follow_eq_ok_iff_update]
    simp [none]

theorem divides_unique (ends : Segment.EndsRequired left.segments) {otherFront otherBack : List Text}
    {otherResult : Bindings} (split : path.splitOn separator = front ++ back)
    (divides : left.Divides right exact front back result)
    (otherSplit : path.splitOn separator = otherFront ++ otherBack)
    (otherDivides : left.Divides right exact otherFront otherBack otherResult) :
    front = otherFront ∧ back = otherBack := by
  obtain ⟨_, first, one, _⟩ := (divides_iff split).mp divides
  obtain ⟨_, second, two, _⟩ := (divides_iff otherSplit).mp otherDivides
  rw [split] at otherSplit
  rcases List.append_eq_append_iff.mp otherSplit with ⟨more, rfl, rfl⟩ | ⟨more, rfl, rfl⟩
  · have none := Segment.share_unique ends one two
    simp [none]
  · have none := Segment.share_unique ends two one
    simp [none]

/-- Where the first pattern matches the front of a path exactly, the seam can be nowhere else. -/
theorem matchPath_append_iff_of_front (ends : Segment.EndsRequired left.segments) {a b : Text} {first : Bindings}
    (matched : left.matchPath true a = .ok first) :
    (left ++ right).matchPath exact (a ++ separator :: b) = .ok result ↔
      ∃ second, right.matchPath exact b = .ok second ∧ result = first.update second := by
  unfold matchPath at matched ⊢
  rw [append_segments, List.splitOn_append_cons_self, Segment.follow_append_iff ends]
  constructor
  · intro h
    obtain ⟨share, rest, middle, split, shared, followed⟩ := h
    have same : share = a.splitOn separator := by
      rcases List.append_eq_append_iff.mp split with ⟨more, rfl, _⟩ | ⟨more, whole, _⟩
      · rw [Segment.share_unique ends matched shared, List.append_nil]
      · rw [whole] at matched
        rw [whole, Segment.share_unique ends shared matched, List.append_nil]
    subst same
    rw [matched] at shared
    cases shared
    rw [List.append_cancel_left split]
    exact Segment.follow_eq_ok_iff_update.mp followed
  · intro updated
    exact ⟨_, _, first, rfl, matched, Segment.follow_eq_ok_iff_update.mpr updated⟩

/-- A path matches one pattern followed by another exactly when its components divide into a match of
    each, and there is only one way to divide them. -/
theorem matchPath_append (ends : Segment.EndsRequired left.segments) (right : Pattern) (exact : Bool) (path : Text) :
    (∀ result, (left ++ right).matchPath exact path = .ok result ↔
        ∃ front back, path.splitOn separator = front ++ back ∧ left.Divides right exact front back result) ∧
      ∀ front back result, path.splitOn separator = front ++ back → left.Divides right exact front back result →
        ∀ otherFront otherBack otherResult, path.splitOn separator = otherFront ++ otherBack →
          left.Divides right exact otherFront otherBack otherResult → front = otherFront ∧ back = otherBack := by
  constructor
  · intro result
    unfold matchPath
    rw [append_segments, Segment.follow_append_iff ends]
    constructor
    · intro h
      obtain ⟨front, back, middle, split, shared, followed⟩ := h
      exact ⟨front, back, split, (divides_iff split).mpr ⟨ends.parts_ne_nil shared, middle, shared, followed⟩⟩
    · intro h
      obtain ⟨front, back, split, divides⟩ := h
      obtain ⟨_, middle, shared, followed⟩ := (divides_iff split).mp divides
      exact ⟨front, back, middle, split, shared, followed⟩
  · intro front back result split divides otherFront otherBack otherResult otherSplit otherDivides
    exact divides_unique ends split divides otherSplit otherDivides

theorem matchPath_append_tab :
    Segment.EndsRequired (compile "/x?/:id").segments ∧
      (compile "/x?/:id").Divides (compile "y?/:id?") false ["", "a"] ["b", "c"] [("id", "b")] ∧
      (compile "/x?/:id" ++ compile "y?/:id?").matchPath false "/a/b/c" = .ok [("id", "b")] := by
  have ends : Segment.EndsRequired (compile "/x?/:id").segments := ⟨⟨.param, [], "id"⟩, by decide +kernel⟩
  have divides : (compile "/x?/:id").Divides (compile "y?/:id?") false ["", "a"] ["b", "c"] [("id", "b")] :=
    ⟨by decide, [("id", "a")], by decide +kernel, .inr ⟨by decide, [("id", "b")], by decide +kernel, by decide⟩⟩
  have whole := matchPath_append ends (compile "y?/:id?") false "/a/b/c"
  exact ⟨ends, divides, (whole.1 _).mpr ⟨["", "a"], ["b", "c"], by decide +kernel, divides⟩⟩

end Pattern

end TypedPath
