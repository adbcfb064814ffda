import TypedPath.Proofs.Pattern.Choice
import TypedPath.Proofs.Pattern.SpecializedMatching
import TypedPath.Proofs.Value.Keyed

namespace TypedPath

theorem Bindings.eq_of_firstNames {left right : Bindings} {names : List Text} (nodup : names.Nodup)
    (leftNames : left.map Prod.fst <+: names) (rightNames : right.map Prod.fst <+: names)
    (lookup_eq : ∀ name, left.lookup name = right.lookup name) : left = right := by
  rw [eq_named_of_firstNames nodup leftNames, eq_named_of_firstNames nodup rightNames]
  exact congrArg (named names) (funext lookup_eq)

def Bindings.values (bound : Bindings) : Assignment := .ofKnown fun name => bound.lookup name

theorem Bindings.text?_values (bound : Bindings) (name : Text) : bound.values.text? name = bound.lookup name :=
  Assignment.text?_ofKnown ..

namespace Segment

open Pairing

variable {exact : Bool} {segment : Segment} {segments : List Segment} {parts : List Text}
  {pairing : List (Option Text)}

theorem pairedValues_of_exhausted (pairs : Pairs exact segments [] pairing) : pairedValues segments pairing = [] := by
  induction segments generalizing pairing with
  | nil => rfl
  | cons segment segments ih =>
    cases pairing with
    | nil => rfl
    | cons taken pairing =>
      obtain ⟨takes, first, later⟩ := Pairs.cons_iff.mp pairs
      obtain ⟨_, rfl⟩ := (takes_nil_iff segment taken).mp ⟨takes, first⟩
      rw [List.drop_nil] at later
      have rest := ih later
      unfold pairedValues at rest ⊢
      rw [List.zip_cons_cons, List.filterMap_cons, rest]
      simp [value?]

theorem names_pairedValues (pairs : Pairs exact segments parts pairing) :
    (pairedValues segments pairing).map Prod.fst <+: (segments.filter isParam).map Segment.name := by
  induction segments generalizing parts pairing with
  | nil => exact List.prefix_rfl
  | cons segment segments ih =>
    cases pairing with
    | nil => exact List.nil_prefix
    | cons taken pairing =>
      obtain ⟨takes, first, later⟩ := Pairs.cons_iff.mp pairs
      have rest := ih later
      unfold pairedValues at rest ⊢
      rw [List.zip_cons_cons, List.filterMap_cons]
      cases param : segment.isParam with
      | false => simpa [value?, param] using rest
      | true =>
        rw [List.filter_cons_of_pos param]
        cases taken with
        | some part =>
          have produces := produces_of_takes takes
          rw [Produces, if_pos param] at produces
          obtain ⟨text, decoded⟩ := Option.isSome_iff_exists.mp produces
          simpa [value?, param, decoded] using rest
        | none =>
          -- a parameter passes without a component only when none is left
          obtain ⟨optional, exhausted, _⟩ := takes_none_iff.mp takes
          have none := exhausted (kind_eq_optionalParam param optional)
          subst none
          have nothing := pairedValues_of_exhausted later
          unfold pairedValues at nothing
          rw [value?, if_pos param, Option.bind_none, Option.map_none, nothing]
          exact List.nil_prefix

end Segment

namespace Pattern

variable {pattern : Pattern} {exact : Bool} {path : Text} {bound : Bindings} {values : Assignment}

theorem names_of_matchPath (nodup : pattern.names.Nodup) (matched : pattern.matchPath exact path = .ok bound) :
    bound.map Prod.fst <+: pattern.names := by
  obtain ⟨pairing, pairs, rfl⟩ := (matchPath_eq_ok_iff ..).mp matched
  rw [Segment.foldl_record_of_nodup nodup fun _ _ => List.not_mem_nil, List.nil_append]
  exact Segment.names_pairedValues pairs

/-- Where a path binds none of the parameters that were omitted from it, nothing is written after the first
    of them. -/
theorem omitted_last_of_matchPath (built : pattern.Built) {written : Text} (filled : pattern.fill values = .ok written)
    (matched : pattern.matchPath exact written = .ok bound)
    (unbound : ∀ segment : Segment, segment.isOmitted values = true → bound.lookup segment.name = none) :
    pattern.segments.Pairwise fun earlier later =>
      earlier.isOmitted values = true → later.isOmitted values = true := by
  obtain ⟨front, back, split, kept, stopped⟩ := exists_split values pattern.segments
  have omitted : ∀ segment ∈ back, segment.isOmitted values = true := by
    cases back with
    | nil => exact nofun
    | cons segment back =>
      have first := stopped segment rfl
      refine List.forall_mem_cons.mpr ⟨first, fun other member => ?_⟩
      by_contra written
      have bounded := matchPath_fill_lookup_isSome built filled split kept first
        (.inr ⟨other, member, Bool.not_eq_true _ ▸ written⟩) matched
      rw [unbound segment first] at bounded
      cases bounded
  rw [split]
  refine List.pairwise_append.mpr ⟨?_, ?_, fun earlier _ later inBack _ => omitted later inBack⟩
  · refine List.pairwise_of_forall_mem_list fun earlier inFront later _ held => ?_
    rw [kept earlier inFront] at held
    cases held
  · exact List.pairwise_of_forall_mem_list fun _ _ later inBack _ => omitted later inBack

theorem exists_fill_of_matchPath (matched : pattern.matchPath exact path = .ok bound) :
    ∃ written, pattern.fill bound.values = .ok written := by
  refine ⟨_, (fill_eq_ok_iff ..).mpr ⟨fun segment member => ?_, rfl⟩⟩
  exact Segment.isProvided_ofKnown_iff.mpr (lookup_isSome_of_matchPath matched member)

theorem omitsAtEnd_of_fill (built : pattern.Built) {written : Text}
    (filled : pattern.fill bound.values = .ok written)
    (again : pattern.matchPath exact written = .ok bound) : pattern.OmitsAtEnd bound := by
  refine (omitted_last_of_matchPath built filled again fun segment omitted =>
    (Segment.isOmitted_ofKnown_iff.mp omitted).2).imp fun last kind unbound => ?_
  have later := (Segment.isOmitted_ofKnown_iff.mp (last (Segment.isOmitted_ofKnown_iff.mpr ⟨kind, unbound⟩))).1
  rw [later]
  exact nofun

theorem matchPath_of_omitsAtEnd (built : pattern.Built) (nodup : pattern.names.Nodup)
    (matched : pattern.matchPath exact path = .ok bound) {written : Text}
    (filled : pattern.fill bound.values = .ok written) (last : pattern.OmitsAtEnd bound) :
    pattern.matchPath exact written = .ok bound := by
  obtain ⟨front, back, split, some, held, unbound⟩ := last.exists_unbound_end built nodup matched
  simp only [← bound.text?_values] at held unbound
  obtain ⟨other, again, otherFilled, rematched, represents⟩ := exists_fill_matchPath built split some held unbound exact
  rw [filled] at otherFilled
  cases otherFilled
  rw [rematched]
  congr 1
  refine Bindings.eq_of_firstNames nodup (names_of_matchPath nodup rematched) (names_of_matchPath nodup matched) ?_
  intro name
  rw [represents.lookup_eq, texts?, bound.text?_values]
  split
  · rfl
  · rename_i foreign
    exact (lookup_eq_none_of_not_mem fun member =>
      foreign ((names_of_matchPath nodup matched).subset member)).symm

/-- What a path binds are the first names of the pattern, the required ones among them, and it can be
    written as a path again. The new path binds the same just when no optional literal comes after an
    optional parameter that was not bound. The path, and so what it binds, has no lone surrogates. -/
theorem matchPath_rewritten (built : pattern.Built) (nodup : pattern.names.Nodup)
    (matched : pattern.matchPath exact path = .ok bound) :
    bound.map Prod.fst <+: pattern.names ∧
      (∀ segment ∈ pattern.segments, segment.kind = .param → segment.name ∈ bound.map Prod.fst) ∧
      ∃ written, pattern.fill bound.values = .ok written ∧
        (pattern.matchPath exact written = .ok bound ↔ pattern.OmitsAtEnd bound) ∧
        ∀ again, pattern.matchPath exact written = .ok again →
          (∀ name, again.lookup name = bound.lookup name) → again = bound := by
  have names := names_of_matchPath nodup matched
  obtain ⟨written, filled⟩ := exists_fill_of_matchPath matched
  refine ⟨names, ?_, written, filled, ?_, ?_⟩
  · intro segment member required
    exact lookup_isSome_iff_mem.mp (lookup_isSome_of_matchPath matched member required)
  · exact ⟨omitsAtEnd_of_fill built filled, matchPath_of_omitsAtEnd built nodup matched filled⟩
  · intro again rematched lookup_eq
    exact Bindings.eq_of_firstNames nodup (names_of_matchPath nodup rematched) names lookup_eq

theorem matchPath_rewritten_id :
    let pattern := compile "/x?/:id/:page?"
    let bound : Bindings := [("id", "a b")]
    pattern.matchPath true "/%61%20b" = .ok bound ∧ pattern.fill bound.values = .ok "/x/a%20b".toList ∧
      pattern.matchPath true "/x/a%20b" = .ok bound := by
  intro pattern bound
  have matched : pattern.matchPath true "/%61%20b" = .ok bound := by decide +kernel
  obtain ⟨_, _, written, filled, same, _⟩ := matchPath_rewritten (.compiled _) (by decide +kernel) matched
  have expected : pattern.fill bound.values = .ok "/x/a%20b".toList := by decide +kernel
  rw [expected] at filled
  cases filled
  exact ⟨matched, expected, same.mpr (by decide +kernel)⟩

example :
    let pattern := compile "/:id/:page?/y?"
    pattern.matchPath true "/a" = .ok [("id", "a")] ∧
      pattern.fill (Bindings.values [("id", "a")]) = .ok "/a/y".toList ∧
      pattern.matchPath true "/a/y" = .ok [("id", "a"), ("page", "y")] := by decide +kernel

end Pattern

end TypedPath
