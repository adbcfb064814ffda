import TypedPath.Proofs.Pattern.Layout
import TypedPath.Proofs.Pattern.Normalization
import TypedPath.Proofs.Text.CanonicalComponent

namespace TypedPath

section FilterMap

variable {α β : Type} {f g : α → Option β} {items : List α}

theorem length_filterMap_le (more : ∀ a ∈ items, (g a).isSome → (f a).isSome) :
    (items.filterMap g).length ≤ (items.filterMap f).length := by
  rw [List.length_filterMap_eq_countP, List.length_filterMap_eq_countP]
  exact List.countP_mono_left more

theorem isSome_of_length_filterMap_eq (more : ∀ a ∈ items, (g a).isSome → (f a).isSome)
    (same : (items.filterMap f).length = (items.filterMap g).length) : ∀ a ∈ items, (f a).isSome → (g a).isSome := by
  induction items with
  | nil => exact nofun
  | cons a items ih =>
    obtain ⟨first, later⟩ := List.forall_mem_cons.mp more
    have shorter := length_filterMap_le later
    rw [List.filterMap_cons, List.filterMap_cons] at same
    cases inF : f a with
    | none =>
      have inG : g a = none := by simpa [inF] using first
      rw [inF, inG] at same
      exact List.forall_mem_cons.mpr ⟨by simp [inF], ih later same⟩
    | some b =>
      cases inG : g a with
      | none =>
        simp only [inF, inG, List.length_cons] at same
        omega
      | some c =>
        rw [inF, inG, List.length_cons, List.length_cons, Nat.add_right_cancel_iff] at same
        exact List.forall_mem_cons.mpr ⟨by simp [inG], ih later same⟩

theorem filterMap_eq_iff (more : ∀ a ∈ items, (g a).isSome → (f a).isSome) :
    items.filterMap f = items.filterMap g ↔
      (items.filterMap f).length = (items.filterMap g).length ∧ ∀ a ∈ items, ∀ b, g a = some b → f a = some b := by
  constructor
  · intro same
    refine ⟨congrArg List.length same, ?_⟩
    have fewer := isSome_of_length_filterMap_eq more (congrArg List.length same)
    induction items with
    | nil => exact nofun
    | cons a items ih =>
      obtain ⟨first, later⟩ := List.forall_mem_cons.mp more
      obtain ⟨firstFewer, laterFewer⟩ := List.forall_mem_cons.mp fewer
      rw [List.filterMap_cons, List.filterMap_cons] at same
      cases inG : g a with
      | none =>
        have inF : f a = none := by simpa [inG] using firstFewer
        rw [inF, inG] at same
        exact List.forall_mem_cons.mpr ⟨by simp [inG], ih later same laterFewer⟩
      | some b =>
        obtain ⟨c, inF⟩ := Option.isSome_iff_exists.mp (first (by simp [inG]))
        rw [inF, inG] at same
        obtain ⟨rfl, rest⟩ := List.cons.inj same
        refine List.forall_mem_cons.mpr ⟨fun b found => ?_, ih later rest laterFewer⟩
        rw [inF, ← inG, found]
  · rintro ⟨same, agree⟩
    have fewer := isSome_of_length_filterMap_eq more same
    refine List.filterMap_congr fun a member => ?_
    cases inG : g a with
    | none => simpa [inG] using fewer a member
    | some b => exact agree a member b inG

end FilterMap

namespace Segment

/-- What is written for a segment that was paired: a literal in any case, a parameter if it has a value. -/
def rewritten? (entry : Segment × Option Text) : Option Text :=
  if entry.1.isParam then (entry.1.value? entry.2).map Percent.encode else some entry.1.literal

end Segment

namespace Pairing

open Segment

variable {exact : Bool} {segments : List Segment} {parts : List Text} {pairing : List (Option Text)}

theorem reduceOption_eq_filterMap (length_eq : pairing.length = segments.length) :
    pairing.reduceOption = (segments.zip pairing).filterMap Prod.snd := by
  have seconds : (segments.zip pairing).map Prod.snd = pairing := List.map_snd_zip (Nat.le_of_eq length_eq)
  conv_lhs => rw [← seconds, List.reduceOption, List.filterMap_map]
  rfl

theorem Pairs.produces (pairs : Pairs exact segments parts pairing) :
    ∀ entry ∈ segments.zip pairing, ∀ part, entry.2 = some part → entry.1.Produces part := by
  induction segments generalizing parts pairing with
  | nil => exact nofun
  | cons segment segments ih =>
    cases pairing with
    | nil => exact nofun
    | cons taken pairing =>
      obtain ⟨takes, _, later⟩ := Pairs.cons_iff.mp pairs
      rw [List.zip_cons_cons]
      refine List.forall_mem_cons.mpr ⟨?_, ih later⟩
      rintro part rfl
      exact produces_of_takes takes

theorem Pairs.exists_text (pairs : Pairs exact segments parts pairing) {entry : Segment × Option Text}
    (member : entry ∈ segments.zip pairing) {part : Text} (taken : entry.2 = some part)
    (param : entry.1.isParam = true) :
    ∃ text, Percent.decode? part = some text ∧ rewritten? entry = some (Percent.encode text) := by
  have produces := pairs.produces entry member part taken
  rw [Produces, if_pos param] at produces
  obtain ⟨text, decoded⟩ := Option.isSome_iff_exists.mp produces
  refine ⟨text, decoded, ?_⟩
  rw [rewritten?, if_pos param, value?, if_pos param, taken, Option.bind_some, decoded, Option.map_some]

theorem Pairs.isSome_rewritten? (pairs : Pairs exact segments parts pairing) :
    ∀ entry ∈ segments.zip pairing, entry.2.isSome → (rewritten? entry).isSome := by
  intro entry member taken
  obtain ⟨part, taken⟩ := Option.isSome_iff_exists.mp taken
  cases param : entry.1.isParam with
  | false => simp [rewritten?, param]
  | true =>
    obtain ⟨text, _, written⟩ := pairs.exists_text member taken param
    rw [written]
    rfl

/-- A component is written again as it was, if it is a literal or is canonical. -/
theorem Pairs.rewritten?_eq_iff (pairs : Pairs exact segments parts pairing) {entry : Segment × Option Text}
    (member : entry ∈ segments.zip pairing) {part : Text} (taken : entry.2 = some part) :
    rewritten? entry = some part ↔ (entry.1.isParam = true → Percent.isCanonical part = true) := by
  cases param : entry.1.isParam with
  | false =>
    have produces := pairs.produces entry member part taken
    rw [Produces, param, if_neg Bool.false_ne_true] at produces
    simp [rewritten?, param, produces]
  | true =>
    obtain ⟨text, decoded, written⟩ := pairs.exists_text member taken param
    have coding := (Percent.canonical_coding text).2.2.2 part decoded
    rw [written, Option.some.injEq, coding]
    simp

theorem length_rewritten (entries : List (Segment × Option Text)) :
    (entries.filterMap rewritten?).length = (entries.map Prod.fst).countP (fun segment => !segment.isParam) +
      (entries.filterMap fun entry => (entry.1.value? entry.2).map fun value => (entry.1.name, value)).length := by
  induction entries with
  | nil => rfl
  | cons entry entries ih =>
    rw [List.filterMap_cons, List.filterMap_cons, List.map_cons, List.countP_cons]
    cases param : entry.1.isParam with
    | false =>
      simp only [rewritten?, value?, param, ih, Bool.false_eq_true, if_false, Option.map_none, List.length_cons,
        Bool.not_false, if_true]
      omega
    | true =>
      cases value : entry.1.value? entry.2 with
      | none => simp [rewritten?, param, value, ih]
      | some text =>
        simp only [rewritten?, param, value, ih, if_true, Option.map_some, List.length_cons, Bool.not_true,
          Bool.false_eq_true, if_false]
        omega

theorem lastValue?_of_mem (length_eq : pairing.length = segments.length)
    (nodup : ((segments.filter Segment.isParam).map Segment.name).Nodup) {entry : Segment × Option Text}
    (member : entry ∈ segments.zip pairing) (param : entry.1.isParam = true) :
    lastValue? segments pairing entry.1.name = entry.1.value? entry.2 := by
  have own {text : Text} (held : lastValue? segments pairing entry.1.name = some text) :
      entry.1.value? entry.2 = some text := by
    obtain ⟨other, among, same, value⟩ := exists_of_lastValue? held
    rwa [eq_of_name_eq length_eq nodup among member (isParam_of_value? value) param same] at value
  cases value : entry.1.value? entry.2 with
  | none =>
    by_contra bound
    obtain ⟨text, held⟩ := Option.ne_none_iff_exists'.mp bound
    rw [own held] at value
    cases value
  | some text =>
    have bound : (lastValue? segments pairing entry.1.name).isSome :=
      List.findSome?_isSome_iff.mpr ⟨entry, List.mem_reverse.mpr member, by simp [value]⟩
    obtain ⟨other, held⟩ := Option.isSome_iff_exists.mp bound
    rw [held, ← own held, value]

end Pairing

namespace Pattern

open Pairing

variable {pattern : Pattern} {path : Text} {bound : Bindings} {pairing : List (Option Text)}

def BindsCanonical (pattern : Pattern) (path : Text) : Prop :=
  ∀ pairing, Pairs true pattern.segments (path.splitOn separator) pairing →
    ∀ segment part, (segment, some part) ∈ pattern.segments.zip pairing → segment.isParam = true →
      Percent.isCanonical part = true

theorem component_of_bound (nodup : pattern.names.Nodup) (length_eq : pairing.length = pattern.segments.length)
    (binds : ∀ name, bound.lookup name = lastValue? pattern.segments pairing name)
    (provided : ∀ segment ∈ pattern.segments, segment.IsProvided bound.values) {entry : Segment × Option Text}
    (member : entry ∈ pattern.segments.zip pairing) :
    (if entry.1.isOmitted bound.values then none else some (entry.1.component bound.values)) =
      Segment.rewritten? entry := by
  cases param : entry.1.isParam with
  | false => simp [Segment.isOmitted, Segment.rewritten?, Segment.component, param]
  | true =>
    have value : bound.values.text? entry.1.name = entry.1.value? entry.2 := by
      rw [bound.text?_values, binds, lastValue?_of_mem length_eq nodup member param]
    rw [Segment.rewritten?, if_pos param, ← value]
    have inPattern := (List.of_mem_zip member).1
    cases given : bound.values.text? entry.1.name with
    | none =>
      have optional : entry.1.isOmitted bound.values = true := by
        by_contra kept
        obtain ⟨text, held⟩ := Segment.exists_text (provided _ inPattern) (Bool.not_eq_true _ ▸ kept) param
        rw [given] at held
        cases held
      rw [if_pos optional]
      rfl
    | some text =>
      have kept : entry.1.isOmitted bound.values ≠ true := by
        intro omitted
        rw [Segment.text?_eq_none_of_isOmitted omitted] at given
        cases given
      rw [if_neg kept, Segment.component_of_text param given]
      rfl

theorem emitted_of_bound (nodup : pattern.names.Nodup) (length_eq : pairing.length = pattern.segments.length)
    (binds : ∀ name, bound.lookup name = lastValue? pattern.segments pairing name)
    (provided : ∀ segment ∈ pattern.segments, segment.IsProvided bound.values) :
    (pattern.emitted bound.values).map (Segment.component bound.values) =
      (pattern.segments.zip pairing).filterMap Segment.rewritten? := by
  have each : (pattern.segments.zip pairing).filterMap (fun entry =>
      if entry.1.isOmitted bound.values then none else some (entry.1.component bound.values)) =
      (pattern.segments.zip pairing).filterMap Segment.rewritten? :=
    List.filterMap_congr fun entry member => component_of_bound nodup length_eq binds provided member
  rw [← each, emitted, ← List.filterMap_eq_map, List.filterMap_filter]
  conv_lhs => rw [← map_fst_zip length_eq, List.filterMap_map]
  refine List.filterMap_congr fun entry _ => ?_
  cases omitted : entry.1.isOmitted bound.values <;> simp [omitted]

theorem fill_eq_path_iff (built : pattern.Built) {values : Assignment}
    (provided : ∀ segment ∈ pattern.segments, segment.IsProvided values) (some : pattern.emitted values ≠ []) :
    pattern.fill values = .ok path ↔
      (pattern.emitted values).map (Segment.component values) = path.splitOn separator := by
  constructor
  · intro filled
    exact (splitOn_of_written built (written_eq_ok_iff.mpr filled) some).symm
  · intro same
    refine (fill_eq_ok_iff ..).mpr ⟨provided, ?_⟩
    rw [emitted] at same
    rw [same]
    exact (List.intercalate_splitOn separator).symm

theorem bindsCanonical_iff (pairs : Pairs true pattern.segments (path.splitOn separator) pairing) :
    pattern.BindsCanonical path ↔ ∀ entry ∈ pattern.segments.zip pairing, ∀ part, entry.2 = some part →
      Segment.rewritten? entry = some part := by
  constructor
  · rintro canonical ⟨segment, taken⟩ member part rfl
    exact (pairs.rewritten?_eq_iff member rfl).mpr (canonical pairing pairs segment part member)
  · intro same other otherPairs segment part member
    rw [otherPairs.unique pairs] at member
    exact (pairs.rewritten?_eq_iff member rfl).mp (same _ member part rfl)

/-- What a path binds is written as this path exactly when the path has a component for each literal, optional
    ones included, and for each parameter that it binds, and the values in it are spelled in the canonical way. -/
theorem fill_reproduces_iff (built : pattern.Built) (nodup : pattern.names.Nodup)
    (matched : pattern.matchPath true path = .ok bound) :
    pattern.fill bound.values = .ok path ↔
      (path.splitOn separator).length = pattern.segments.countP (fun segment => !segment.isParam) + bound.length ∧
        pattern.BindsCanonical path := by
  obtain ⟨written, filled⟩ := exists_fill_of_matchPath matched
  obtain ⟨provided, rfl⟩ := (fill_eq_ok_iff ..).mp filled
  obtain ⟨pairing, pairs, rfl⟩ := (matchPath_eq_ok_iff ..).mp matched
  have binds := (represents_lastValue? pattern.segments pairing).lookup_eq
  have emitted := emitted_of_bound nodup pairs.length_eq binds provided
  have parts : path.splitOn separator = (pattern.segments.zip pairing).filterMap Prod.snd := by
    rw [← reduceOption_eq_filterMap pairs.length_eq]
    exact (pairs.inOrder.eq_of_length (pairs.exhausted rfl)).symm
  -- what is written has a component for each literal, also for one that the path passed over
  have count : ((pattern.segments.zip pairing).filterMap Segment.rewritten?).length =
      pattern.segments.countP (fun segment => !segment.isParam) +
        ((pattern.segments.zip pairing).foldl record []).length := by
    rw [length_rewritten, map_fst_zip pairs.length_eq, Segment.foldl_record_of_nodup nodup fun _ _ => List.not_mem_nil]
    rfl
  have some : pattern.emitted ((pattern.segments.zip pairing).foldl record []).values ≠ [] := by
    intro none
    have shorter := length_filterMap_le pairs.isSome_rewritten?
    rw [← emitted, none, ← parts] at shorter
    exact List.splitOn_ne_nil separator path (List.length_eq_zero_iff.mp (Nat.le_zero.mp shorter))
  rw [fill_eq_path_iff built provided some, bindsCanonical_iff pairs, emitted, parts,
    filterMap_eq_iff pairs.isSome_rewritten?, count]
  exact and_congr_left fun _ => eq_comm

/-- The first path is in normal form. The second one passes over a literal, and the third one escapes a letter. -/
theorem fill_reproduces_id :
    let pattern := compile "/x?/:id/:page?"
    pattern.names.Nodup ∧ pattern.matchPath true "/x/a%20b" = .ok [("id", "a b")] ∧
      pattern.fill (Bindings.values [("id", "a b")]) = .ok "/x/a%20b" ∧ pattern.BindsCanonical "/x/a%20b" ∧
      pattern.matchPath true "/a%20b" = .ok [("id", "a b")] ∧
      pattern.fill (Bindings.values [("id", "a b")]) ≠ .ok "/a%20b" ∧
      pattern.matchPath true "/x/%61%20b" = .ok [("id", "a b")] ∧ ¬ pattern.BindsCanonical "/x/%61%20b" := by
  intro pattern
  have nodup : pattern.names.Nodup := by decide +kernel
  have first : pattern.matchPath true "/x/a%20b" = .ok [("id", "a b")] := by decide +kernel
  have second : pattern.matchPath true "/a%20b" = .ok [("id", "a b")] := by decide +kernel
  have third : pattern.matchPath true "/x/%61%20b" = .ok [("id", "a b")] := by decide +kernel
  have filled : pattern.fill (Bindings.values [("id", "a b")]) = .ok "/x/a%20b".toList := by decide +kernel
  refine ⟨nodup, first, filled, ((fill_reproduces_iff (.compiled _) nodup first).mp filled).2, second, ?_, third, ?_⟩
  · intro same
    exact absurd ((fill_reproduces_iff (.compiled _) nodup second).mp same).1 (by decide +kernel)
  · intro canonical
    have again := (fill_reproduces_iff (.compiled _) nodup third).mpr ⟨by decide +kernel, canonical⟩
    rw [filled] at again
    exact absurd again (by decide +kernel)

end Pattern

end TypedPath
