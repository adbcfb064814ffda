import Mathlib.Data.List.Nodup
import TypedPath.Proofs.Pattern.Omission
import TypedPath.Proofs.Pattern.Specialization

namespace TypedPath

open Pairing

def Assignment.ofKnown (known : Text → Option Text) : Assignment :=
  fun name => (known name).map Value.text

theorem Assignment.text?_ofKnown (known : Text → Option Text) (name : Text) :
    (Assignment.ofKnown known).text? name = known name := by
  unfold Assignment.text? Assignment.ofKnown
  cases known name <;> rfl

namespace Segment

variable {known : Text → Option Text} {segment : Segment} {text : Text}

theorem map_toText_given?_ofKnown : (segment.given? (.ofKnown known)).map Value.toText = known segment.name := by
  rw [map_toText_given?, Assignment.text?_ofKnown]

theorem isProvided_ofKnown_iff :
    segment.IsProvided (.ofKnown known) ↔ (segment.kind = .param → (known segment.name).isSome) := by
  unfold IsProvided
  rw [← Option.isSome_map, map_toText_given?_ofKnown]
  cases kind : segment.kind <;> simp [isParam, isOptional, kind]

theorem isOmitted_ofKnown_iff :
    segment.isOmitted (.ofKnown known) = true ↔ segment.kind = .optionalParam ∧ known segment.name = none := by
  unfold isOmitted
  rw [← Option.isNone_map, map_toText_given?_ofKnown]
  cases kind : segment.kind <;> simp [isParam, isOptional, kind]

def settle (known : Text → Option Text) (segment : Segment) : Segment :=
  if segment.isParam then
    match known segment.name with
    | some text => literally (Percent.encode text)
    | none => segment
  else segment

theorem settle_of_known (param : segment.isParam = true) (held : known segment.name = some text) :
    segment.settle known = literally (Percent.encode text) := by
  simp [settle, param, held]

theorem settle_of_unknown (unknown : segment.isParam = true → known segment.name = none) :
    segment.settle known = segment := by
  unfold settle
  split
  · rename_i param
    rw [unknown param]
  · rfl

theorem known_cases (known : Text → Option Text) (segment : Segment) :
    (∃ text, segment.isParam = true ∧ known segment.name = some text) ∨
      (segment.isParam = true → known segment.name = none) := by
  cases held : known segment.name with
  | none => exact .inr fun _ => rfl
  | some text =>
    cases param : segment.isParam with
    | false => exact .inr nofun
    | true => exact .inl ⟨text, rfl, rfl⟩

theorem specialize?_ofKnown (known : Text → Option Text) (segment : Segment) :
    segment.specialize? (.ofKnown known) = some (segment.settle known) := by
  rcases known_cases known segment with ⟨text, param, held⟩ | unknown
  · have given : segment.given? (.ofKnown known) = some (.text text) := by
      simp [given?, Assignment.ofKnown, held]
    rw [settle_of_known param held]
    simp only [specialize?, param, given, ite_true]
    rfl
  · rw [settle_of_unknown unknown]
    cases param : segment.isParam with
    | false => exact specialize?_of_static _ param
    | true => simp [specialize?, param, given?, Assignment.ofKnown, unknown param]

/-- A parameter with a known value takes the component that is written for this value. -/
def IsSettled (known : Text → Option Text) (entry : Segment × Option Text) : Prop :=
  ∀ text, entry.1.isParam = true → known entry.1.name = some text → entry.2 = some (Percent.encode text)

theorem takes_literally_iff (component : Text) (rest : List Text) (taken : Option Text) :
    (literally component).Takes rest taken ↔ taken = some component :=
  Iff.rfl

theorem takes_of_encoded (param : segment.isParam = true) {parts : List Text}
    (first : (some (Percent.encode text)).toList <+: parts) : segment.Takes parts (some (Percent.encode text)) := by
  obtain ⟨rest, rfl⟩ := first
  refine ((takes_cons_iff segment (Percent.encode text) rest _).mpr ?_).1
  rw [if_pos param]
  exact ⟨rfl, by simp [Percent.decode?_encode]⟩

theorem takes_settle_iff {parts : List Text} {taken : Option Text} (first : taken.toList <+: parts) :
    (segment.settle known).Takes parts taken ↔ segment.Takes parts taken ∧ IsSettled known (segment, taken) := by
  rcases known_cases known segment with ⟨text, param, held⟩ | unknown
  · have settled : IsSettled known (segment, taken) ↔ taken = some (Percent.encode text) := by
      simp [IsSettled, param, held]
    rw [settle_of_known param held, takes_literally_iff, settled]
    constructor
    · intro written
      subst written
      exact ⟨takes_of_encoded param first, rfl⟩
    · exact fun h => h.2
  · have settled : IsSettled known (segment, taken) := by
      intro text param held
      rw [unknown param] at held
      cases held
    rw [settle_of_unknown unknown]
    exact (and_iff_left settled).symm

theorem isParam_of_value? {taken : Option Text} (value : segment.value? taken = some text) :
    segment.isParam = true := by
  by_contra static
  rw [value?, if_neg static] at value
  cases value

end Segment

namespace Pairing

variable {known : Text → Option Text} {segments : List Segment} {pairing : List (Option Text)}

/-- Both patterns pair their segments with the same components. -/
theorem pairs_settle_iff {exact : Bool} {parts : List Text} :
    Pairs exact (segments.map (Segment.settle known)) parts pairing ↔
      Pairs exact segments parts pairing ∧ ∀ entry ∈ segments.zip pairing, Segment.IsSettled known entry := by
  induction segments generalizing parts pairing with
  | nil => simp [Pairs.nil_iff]
  | cons segment segments ih =>
    cases pairing with
    | nil => exact iff_of_false (fun pairs => nomatch pairs.length_eq) fun h => nomatch h.1.length_eq
    | cons taken pairing =>
      rw [List.map_cons, Pairs.cons_iff, Pairs.cons_iff, ih, List.zip_cons_cons, List.forall_mem_cons]
      constructor
      · intro h
        obtain ⟨takes, first, pairs, settled⟩ := h
        obtain ⟨takes, here⟩ := (Segment.takes_settle_iff first).mp takes
        exact ⟨⟨takes, first, pairs⟩, here, settled⟩
      · intro h
        obtain ⟨⟨takes, first, pairs⟩, here, settled⟩ := h
        exact ⟨(Segment.takes_settle_iff first).mpr ⟨takes, here⟩, first, pairs, settled⟩

theorem valueOf_settle (entry : Segment × Option Text) (name : Text) :
    (if (entry.1.settle known).name = name then (entry.1.settle known).value? entry.2 else none) =
      if (known name).isSome then none else if entry.1.name = name then entry.1.value? entry.2 else none := by
  rcases Segment.known_cases known entry.1 with ⟨text, param, held⟩ | unknown
  · rw [Segment.settle_of_known param held]
    by_cases same : entry.1.name = name
    · subst same
      simp [held, Segment.value?]
    · simp [same, Segment.value?]
  · rw [Segment.settle_of_unknown unknown]
    by_cases same : entry.1.name = name
    · subst same
      cases param : entry.1.isParam with
      | false => simp [Segment.value?, param]
      | true => simp [unknown param]
    · simp [same]

theorem lastValue?_settle (name : Text) :
    lastValue? (segments.map (Segment.settle known)) pairing name =
      if (known name).isSome then none else lastValue? segments pairing name := by
  unfold lastValue?
  rw [List.zip_map_left, ← List.map_reverse, List.findSome?_map]
  have each : ((fun entry : Segment × Option Text =>
      if entry.1.name = name then entry.1.value? entry.2 else none) ∘ Prod.map (Segment.settle known) id) =
      fun entry => if (known name).isSome then none else
        if entry.1.name = name then entry.1.value? entry.2 else none := by
    funext entry
    exact valueOf_settle entry name
  rw [each]
  cases (known name).isSome with
  | false => rfl
  | true => exact List.findSome?_eq_none_iff.mpr fun _ _ => rfl

theorem exists_of_lastValue? {name text : Text} (held : lastValue? segments pairing name = some text) :
    ∃ entry ∈ segments.zip pairing, entry.1.name = name ∧ entry.1.value? entry.2 = some text := by
  obtain ⟨entry, member, found⟩ := List.exists_of_findSome?_eq_some held
  refine ⟨entry, List.mem_reverse.mp member, ?_⟩
  by_cases same : entry.1.name = name
  · exact ⟨same, by simpa [same] using found⟩
  · simp [same] at found

theorem map_fst_zip (length_eq : pairing.length = segments.length) :
    (segments.zip pairing).map Prod.fst = segments :=
  List.map_fst_zip (Nat.le_of_eq length_eq.symm)

theorem lastValue?_of_settled (length_eq : pairing.length = segments.length)
    (settled : ∀ entry ∈ segments.zip pairing, Segment.IsSettled known entry) {name text : Text}
    (held : known name = some text) (member : name ∈ (segments.filter Segment.isParam).map Segment.name) :
    lastValue? segments pairing name = some text := by
  have written : ∀ entry ∈ segments.zip pairing, entry.1.isParam = true → entry.1.name = name →
      entry.1.value? entry.2 = some text := by
    intro entry found param same
    have component := settled entry found text param (same ▸ held)
    simp [Segment.value?, param, component, Percent.decode?_encode]
  obtain ⟨segment, isParam, rfl⟩ := List.mem_map.mp member
  obtain ⟨inside, param⟩ := List.mem_filter.mp isParam
  rw [← map_fst_zip length_eq] at inside
  obtain ⟨entry, found, rfl⟩ := List.mem_map.mp inside
  have bound : (lastValue? segments pairing entry.1.name).isSome := by
    refine List.findSome?_isSome_iff.mpr ⟨entry, List.mem_reverse.mpr found, ?_⟩
    simp [written entry found param rfl]
  obtain ⟨value, last⟩ := Option.isSome_iff_exists.mp bound
  obtain ⟨other, among, same, value_eq⟩ := exists_of_lastValue? last
  rw [last, ← value_eq, written other among (Segment.isParam_of_value? value_eq) same]

theorem eq_of_name_eq (length_eq : pairing.length = segments.length)
    (nodup : ((segments.filter Segment.isParam).map Segment.name).Nodup) {left right : Segment × Option Text}
    (inLeft : left ∈ segments.zip pairing) (inRight : right ∈ segments.zip pairing)
    (leftParam : left.1.isParam = true) (rightParam : right.1.isParam = true) (same : left.1.name = right.1.name) :
    left = right := by
  rw [← map_fst_zip length_eq, List.filter_map, List.map_map] at nodup
  exact List.inj_on_of_nodup_map nodup (List.mem_filter.mpr ⟨inLeft, leftParam⟩)
    (List.mem_filter.mpr ⟨inRight, rightParam⟩) same

end Pairing

namespace Pattern

variable {pattern : Pattern} {known : Text → Option Text} {exact : Bool} {path : Text}

def supplied (pattern : Pattern) (known : Text → Option Text) (name : Text) : Option Text :=
  if pattern.names.contains name then known name else none

/-- The components that known parameters take are those that are written for their values. -/
def TakesWritten (pattern : Pattern) (known : Text → Option Text) (exact : Bool) (path : Text) : Prop :=
  ∀ pairing, Pairs exact pattern.segments (path.splitOn separator) pairing →
    ∀ segment part, (segment, some part) ∈ pattern.segments.zip pairing → segment.isParam = true →
      ∀ text, known segment.name = some text → part = Percent.encode text

theorem segments_compile_ofKnown (built : pattern.Built) (known : Text → Option Text) :
    (compile (pattern.specialize (.ofKnown known))).segments = pattern.segments.map (Segment.settle known) := by
  have all : pattern.segments.filterMap (Segment.specialize? (.ofKnown known)) =
      pattern.segments.map (Segment.settle known) := by
    rw [← List.filterMap_eq_map]
    exact List.filterMap_congr fun segment _ => Segment.specialize?_ofKnown known segment
  rw [← all]
  apply built.segments_compile_specialize
  rw [all]
  simpa using built.segments_ne_nil

theorem matchPath_ofKnown_iff (built : pattern.Built) (rest : Bindings) :
    (compile (pattern.specialize (.ofKnown known))).matchPath exact path = .ok rest ↔
      ∃ pairing, Pairs exact pattern.segments (path.splitOn separator) pairing ∧
        (∀ entry ∈ pattern.segments.zip pairing, Segment.IsSettled known entry) ∧
        rest = ((pattern.segments.map (Segment.settle known)).zip pairing).foldl record [] := by
  rw [matchPath_eq_ok_iff, segments_compile_ofKnown built]
  simp only [pairs_settle_iff, and_assoc]

theorem lookup_settled (pairing : List (Option Text)) (name : Text) :
    (((pattern.segments.map (Segment.settle known)).zip pairing).foldl record []).lookup name =
      if (known name).isSome then none else lastValue? pattern.segments pairing name := by
  rw [(represents_lastValue? ..).lookup_eq, lastValue?_settle]

theorem mem_names_of_lastValue? {pairing : List (Option Text)} {name text : Text}
    (held : lastValue? pattern.segments pairing name = some text) : name ∈ pattern.names := by
  obtain ⟨entry, member, rfl, value⟩ := exists_of_lastValue? held
  have param := Segment.isParam_of_value? value
  exact List.mem_map_of_mem (List.mem_filter.mpr ⟨(List.of_mem_zip member).1, param⟩)

theorem supplied_eq_some {name text : Text} (held : pattern.supplied known name = some text) :
    name ∈ pattern.names ∧ known name = some text := by
  unfold supplied at held
  split at held
  · rename_i member
    exact ⟨List.contains_iff_mem.mp member, held⟩
  · cases held

theorem isSettled_of_takesWritten (nodup : pattern.names.Nodup) {pairing : List (Option Text)}
    (pairs : Pairs exact pattern.segments (path.splitOn separator) pairing)
    (agree : ∀ name text, pattern.supplied known name = some text →
      lastValue? pattern.segments pairing name = some text)
    (written : pattern.TakesWritten known exact path) :
    ∀ entry ∈ pattern.segments.zip pairing, Segment.IsSettled known entry := by
  intro entry member text param held
  have inside : entry.1.name ∈ pattern.names :=
    List.mem_map_of_mem (List.mem_filter.mpr ⟨(List.of_mem_zip member).1, param⟩)
  have given : pattern.supplied known entry.1.name = some text := by simp [supplied, inside, held]
  obtain ⟨other, among, same, value⟩ := exists_of_lastValue? (agree entry.1.name text given)
  have alike := eq_of_name_eq pairs.length_eq nodup among member (Segment.isParam_of_value? value) param same
  subst alike
  obtain ⟨segment, taken⟩ := other
  cases taken with
  | none => simp [Segment.value?, param] at value
  | some part => rw [written pairing pairs segment part member param text held]

theorem takesWritten_of_settled {pairing : List (Option Text)}
    (pairs : Pairs exact pattern.segments (path.splitOn separator) pairing)
    (settled : ∀ entry ∈ pattern.segments.zip pairing, Segment.IsSettled known entry) :
    pattern.TakesWritten known exact path := by
  intro other otherPairs segment part member param text held
  rw [otherPairs.unique pairs] at member
  exact Option.some.inj (settled _ member text param held)

theorem lookup_of_settled {pairing : List (Option Text)}
    (pairs : Pairs exact pattern.segments (path.splitOn separator) pairing)
    (settled : ∀ entry ∈ pattern.segments.zip pairing, Segment.IsSettled known entry) (name : Text) :
    lastValue? pattern.segments pairing name = (pattern.supplied known name).or
      (if (known name).isSome then none else lastValue? pattern.segments pairing name) := by
  by_cases member : name ∈ pattern.names
  · cases held : known name with
    | none => simp [supplied, held]
    | some text => simp [supplied, member, held, lastValue?_of_settled pairs.length_eq settled held member]
  · have unbound : lastValue? pattern.segments pairing name = none := by
      by_contra bound
      obtain ⟨text, held⟩ := Option.ne_none_iff_exists'.mp bound
      exact member (mem_names_of_lastValue? held)
    simp [supplied, member, unbound]

/-- A path that matches a pattern with some values filled in matches the whole pattern with these
    values and those that it binds, and every match of the whole pattern comes about in this way whose
    path holds the values as filling writes them. -/
theorem matchPath_specialize (built : pattern.Built) (nodup : pattern.names.Nodup)
    (known : Text → Option Text) (exact : Bool) (path : Text) :
    (∀ rest, (compile (pattern.specialize (.ofKnown known))).matchPath exact path = .ok rest →
        (∀ name, (pattern.supplied known name).isSome → rest.lookup name = none) ∧
        pattern.TakesWritten known exact path ∧
        ∃ bound, pattern.matchPath exact path = .ok bound ∧
          bound.Represents fun name => (pattern.supplied known name).or (rest.lookup name)) ∧
      ∀ bound, pattern.matchPath exact path = .ok bound →
        (∀ name text, pattern.supplied known name = some text → bound.lookup name = some text) →
        pattern.TakesWritten known exact path →
        ∃ rest, (compile (pattern.specialize (.ofKnown known))).matchPath exact path = .ok rest ∧
          rest.Represents fun name =>
            if (pattern.supplied known name).isSome then none else bound.lookup name := by
  constructor
  · intro rest matched
    obtain ⟨pairing, pairs, settled, rfl⟩ := (matchPath_ofKnown_iff built rest).mp matched
    refine ⟨?_, takesWritten_of_settled pairs settled, ?_⟩
    · intro name held
      obtain ⟨text, held⟩ := Option.isSome_iff_exists.mp held
      rw [lookup_settled, (supplied_eq_some held).2]
      rfl
    · have represents := represents_lastValue? pattern.segments pairing
      refine ⟨_, (matchPath_eq_ok_iff ..).mpr ⟨pairing, pairs, rfl⟩, represents.nodup, fun name => ?_⟩
      rw [represents.lookup_eq, lookup_settled]
      exact lookup_of_settled pairs settled name
  · intro bound matched agree written
    obtain ⟨pairing, pairs, rfl⟩ := (matchPath_eq_ok_iff ..).mp matched
    simp only [(represents_lastValue? ..).lookup_eq] at agree ⊢
    have settled := isSettled_of_takesWritten nodup pairs agree written
    refine ⟨_, (matchPath_ofKnown_iff built _).mpr ⟨pairing, pairs, settled, rfl⟩,
      (represents_lastValue? ..).nodup, fun name => ?_⟩
    rw [lookup_settled]
    cases held : pattern.supplied known name with
    | some text => simp [(supplied_eq_some held).2]
    | none =>
      have same := lookup_of_settled pairs settled name
      rw [held, Option.none_or] at same
      exact same.symm

theorem matchPath_specialize_id :
    let pattern := compile "/:id/x?/:page?"
    let known : Text → Option Text := fun name => if name = "id".toList then some "a b" else none
    let narrowed := compile (pattern.specialize (.ofKnown known))
    narrowed.matchPath true "/a%20b/7" = .ok [("page", "7")] ∧
      (∃ bound, pattern.matchPath true "/a%20b/7" = .ok bound ∧
        bound.Represents fun name =>
          (pattern.supplied known name).or (List.lookup name [("page".toList, "7".toList)])) ∧
      pattern.matchPath true "/a%20b/7" = .ok [("id", "a b"), ("page", "7")] ∧
      ∃ rest, narrowed.matchPath true "/a%20b/7" = .ok rest ∧
        rest.Represents fun name => if (pattern.supplied known name).isSome then none
          else List.lookup name [("id".toList, "a b".toList), ("page", "7")] := by
  intro pattern known narrowed
  have whole := matchPath_specialize (.compiled "/:id/x?/:page?") (by decide +kernel) known true "/a%20b/7"
  have narrow : narrowed.matchPath true "/a%20b/7" = .ok [("page", "7")] := by decide +kernel
  have wide : pattern.matchPath true "/a%20b/7" = .ok [("id", "a b"), ("page", "7")] := by decide +kernel
  have agree : ∀ name text, pattern.supplied known name = some text →
      List.lookup name [("id".toList, "a b".toList), ("page", "7")] = some text := by
    intro name text held
    have given := (supplied_eq_some held).2
    by_cases same : name = "id".toList
    · subst same
      exact given
    · rw [show known name = none from if_neg same] at given
      cases given
  obtain ⟨_, written, bound⟩ := whole.1 _ narrow
  exact ⟨narrow, bound, wide, whole.2 _ wide agree written⟩

end Pattern

end TypedPath
