import TypedPath.Proofs.Schema.Named
import TypedPath.Proofs.Schema.Outline
import TypedPath.Proofs.Schema.Parts

namespace TypedPath

namespace Reading

variable {choices among : List Value} {value c : Value}

theorem find?_same_self (data : value.isData = true) (found : among.find? value.same = some c) :
    among.find? c.same = some c := by
  obtain ⟨same, before, after, rfl, apart⟩ := List.find?_eq_some_iff_append.mp found
  refine List.find?_eq_some_iff_append.mpr
    ⟨Value.same_trans c (Value.same_symm value data same) same, before, after, rfl, fun earlier member => ?_⟩
  have differs := apart earlier member
  rw [Bool.not_eq_true'] at *
  rw [← Bool.not_eq_true] at *
  exact fun alsoSame => differs (Value.same_trans value same alsoSame)

theorem sameChoice?_self (data : value.isData = true) (found : sameChoice? choices value = some c)
    (inexact : isExact c = false) : sameChoice? choices c = some c := by
  rw [sameChoice?_eq] at *
  rcases Option.or_eq_some_iff.mp found with found | ⟨_, found⟩
  · rcases Option.or_eq_some_iff.mp found with found | ⟨_, found⟩
    · obtain ⟨_, found⟩ := latestSame?_eq_some_iff.mp found
      have inside := List.mem_reverse.mp (List.mem_of_find?_eq_some found)
      have hashable := (List.mem_filter.mp (List.mem_filter.mp inside).1).2
      rw [latestSame?_eq_some_iff.mpr ⟨hashable, find?_same_self data found⟩]
      rfl
    · have unhashable := (List.mem_filter.mp (List.mem_of_find?_eq_some found)).2
      rw [Bool.not_eq_true'] at unhashable
      unfold latestSame?
      rw [unhashable, find?_same_self data found]
      rfl
  · obtain ⟨_, found⟩ := latestSame?_eq_some_iff.mp found
    have plain := (List.mem_filter.mp (List.mem_reverse.mp (List.mem_of_find?_eq_some found))).2
    have exactly : isExact c = true := by cases c <;> first | exact plain | rfl
    rw [exactly] at inexact
    cases inexact

/-- A choice that was read is read again, where no integers on both sides of 64 bits are among the choices. -/
theorem literal_self (data : value.isData = true) (unmixed : choices.any (isBeyond choices) = false)
    (read : literal choices value = .ok c) : literal choices c = .ok c := by
  have within : isBeyond choices c = false := by
    rw [List.any_eq_false] at unmixed
    exact Bool.not_eq_true _ ▸ unmixed c (mem_of_literal read)
  refine literal_eq_ok_iff.mpr ⟨within, ?_⟩
  rcases Option.or_eq_some_iff.mp (literal_eq_ok_iff.mp read).2 with exactly | ⟨_, same⟩
  · obtain ⟨exactly, rfl⟩ := eq_of_exactChoice? exactly
    rw [exactChoice?_self exactly (mem_of_literal read)]
    rfl
  · cases exactly : isExact c with
    | true =>
      rw [exactChoice?_self exactly (mem_of_literal read)]
      rfl
    | false =>
      rw [exactChoice?_eq, exactly, sameChoice?_self data same exactly]
      rfl

theorem isRecordFree_of_literal (data : value.isData = true) (read : literal choices value = .ok c) :
    c.isRecordFree = true :=
  Value.isRecordFree_of_same c (Value.same_symm value data (same_of_literal read))
    (Value.isRecordFree_of_isData value data)

end Reading

def Limits.isRecordFree (limits : Limits) : Bool := limits.all.all Limit.isRecordFree

theorem Limits.isRecordFree_ofCounted {limits : Limits} (free : limits.isRecordFree = true) :
    ∀ limit ∈ limits.ofCounted.2, limit.isRecordFree = true := by
  unfold ofCounted
  split
  · exact List.forall_mem_nil _
  · exact List.all_eq_true.mp free

namespace Shape

/-- The shape takes `u` again as it is written, and makes `w` of it, which is written the same and looks the same from
    outside. -/
structure Rereads (shape : Shape) (extra : ExtraPolicy) (limits : Limits) (u w : Value) : Prop where
  accepted : shape.validateIn extra limits (shape.dump false extra u) = .ok w
  written : shape.dump false extra w = shape.dump false extra u
  outline : w.outline = u.outline
  free : (shape.dump false extra u).isRecordFree = true
  stays : shape.dump false extra (shape.dump false extra u) = shape.dump false extra u

/-- Whatever the shape makes of data is read again, and without being written first if it can be a key. -/
def Settles (shape : Shape) (extra : ExtraPolicy) : Prop :=
  ∀ (limits : Limits) (value u : Value), limits.isRecordFree = true → value.isData = true →
    shape.validateIn extra limits value = .ok u →
      (∃ w, shape.Rereads extra limits u w) ∧ (u.isHashable = true → shape.validateIn extra limits u = .ok u)

variable {shape item key : Shape} {extra : ExtraPolicy}

/-- A shape settles if what it makes of data holds no record and is taken as it is. -/
theorem settles_of_unchanged (plainly : ∀ v, shape.dump false extra v = v.dump false)
    (unchanged : ∀ limits value u, value.isData = true → shape.validateIn extra limits value = .ok u →
      u.isRecordFree = true ∧ shape.validateIn extra limits u = .ok u) : shape.Settles extra := by
  intro limits value u _ data accepted
  obtain ⟨free, again⟩ := unchanged limits value u data accepted
  have dump : shape.dump false extra u = u := (plainly u).trans (Value.dump_of_isRecordFree false u free)
  refine ⟨⟨u, ?_, rfl, rfl, ?_, ?_⟩, fun _ => again⟩
  · rwa [dump]
  · rwa [dump]
  · rw [dump, dump]

theorem reading_self (scalar : shape.isScalar = true) {input v : Value} (read : shape.reading input = .ok v) :
    shape.reading v = .ok v := by
  cases shape with
  | text | int | bool | uuid =>
    obtain ⟨_, _, rfl⟩ := map_eq_ok_iff.mp read
    rfl
  | decimal =>
    obtain ⟨d, finite, rfl⟩ := map_eq_ok_iff.mp read
    unfold Reading.decimal at finite
    cases found : Reading.anyDecimal input with
    | error problem =>
      rw [found] at finite
      cases finite
    | ok d' =>
      rw [found] at finite
      cases d' <;> cases finite
      rfl
  | moment =>
    obtain ⟨m, dated, rfl⟩ := map_eq_ok_iff.mp read
    cases found : Reading.moment input with
    | error problem =>
      rw [found] at dated
      cases dated
    | ok m' =>
      rw [found] at dated
      have same : Reading.dated m' = .ok m := dated
      unfold Reading.dated at same
      split at same
      · cases same
      · rename_i inYears
        cases same
        show (Reading.dated m).map Value.moment = .ok (.moment m)
        rw [Reading.dated, if_neg inYears]
        rfl
  | float | any | list | optional | mapping | literal | fixedKeys | model => cases scalar

theorem settles_of_isScalar (scalar : shape.isScalar = true) : shape.Settles extra := by
  refine settles_of_unchanged (fun v => ?_) fun limits value u _ accepted => ?_
  · cases shape <;> first | rfl | cases scalar
  · obtain ⟨read, kept⟩ := (validateIn_scalar scalar extra limits).mp accepted
    exact ⟨Value.isRecordFree_of_isScalar (isScalar_of_reading scalar read),
      (validateIn_scalar scalar extra limits).mpr ⟨reading_self scalar read, kept⟩⟩

theorem settles_float : Shape.float.Settles extra := by
  refine settles_of_unchanged (fun _ => rfl) fun limits value u _ accepted => ?_
  obtain ⟨read, kept⟩ := Outcome.keeping_eq_ok_iff.mp accepted
  obtain ⟨reading, bounded⟩ := readBounded_eq_ok_iff.mp read
  obtain ⟨x, _, rfl⟩ := map_eq_ok_iff.mp reading
  exact ⟨rfl, Outcome.keeping_eq_ok_iff.mpr ⟨readBounded_eq_ok_iff.mpr ⟨rfl, bounded⟩, kept⟩⟩

theorem settles_any : Shape.any.Settles extra := by
  refine settles_of_unchanged (fun _ => rfl) fun limits value u data accepted => ?_
  obtain ⟨rfl, _⟩ := Outcome.ofLimits_eq_ok_iff.mp accepted
  exact ⟨Value.isRecordFree_of_isData value data, accepted⟩

theorem settles_literal {choices : List Value} (unmixed : choices.any (Reading.isBeyond choices) = false) :
    (Shape.literal choices).Settles extra := by
  refine settles_of_unchanged (fun _ => rfl) fun limits value u data accepted => ?_
  obtain ⟨read, kept⟩ := Outcome.keeping_eq_ok_iff.mp accepted
  obtain ⟨c, chosen, rfl⟩ := map_eq_ok_iff.mp (Outcome.ofReading_eq_ok_iff.mp read)
  refine ⟨Reading.isRecordFree_of_literal data chosen, Outcome.keeping_eq_ok_iff.mpr ⟨?_, kept⟩⟩
  exact Outcome.ofReading_eq_ok_iff.mpr (map_eq_ok_iff.mpr ⟨c, Reading.literal_self data unmixed chosen, rfl⟩)

/-- None is taken before the shape inside sees it. -/
theorem settles_optional (settles : item.Settles extra) : (Shape.optional item).Settles extra := by
  intro limits value u free data accepted
  rw [Shape.validateIn] at accepted
  have onNone : (Shape.optional item).Rereads extra limits .none .none := by
    have dumps : (Shape.optional item).dump false extra .none = .none := dump_none false extra _
    refine ⟨?_, rfl, rfl, ?_, ?_⟩
    · rw [dumps]
      rfl
    · rw [dumps]
      rfl
    · rw [dumps, dumps]
  split at accepted
  · cases accepted
    exact ⟨⟨.none, onNone⟩, fun _ => rfl⟩
  · obtain ⟨⟨w, rereads⟩, member⟩ := settles limits value u free data accepted
    cases isNone : u.isNone with
    | true =>
      cases u with
      | none => exact ⟨⟨.none, onNone⟩, fun _ => rfl⟩
      | _ => cases isNone
    | false =>
      have dumpedSome : (item.dump false extra u).isNone = false := by
        cases dumped : item.dump false extra u with
        | none =>
          rw [eq_none_of_dump item dumped] at isNone
          cases isNone
        | _ => rfl
      refine ⟨⟨w, ?_, rereads.written, rereads.outline, rereads.free, rereads.stays⟩, fun hashable => ?_⟩
      · rw [Shape.validateIn, Shape.dump, dumpedSome]
        exact rereads.accepted
      · rw [Shape.validateIn, isNone]
        exact member hashable

theorem isData_of_items? {value : Value} {items : List Value} (data : value.isData = true)
    (listed : value.items? = some items) : ∀ part ∈ items, part.isData = true := by
  cases value with
  | list | tuple =>
    cases listed
    exact Value.allData_iff.mp data
  | set =>
    cases listed
    exact (Value.isData_set_iff.mp data).2
  | record => cases data
  | _ => cases listed

theorem settles_list (settles : item.Settles extra) : (Shape.list item).Settles extra := by
  intro limits value u free data accepted
  rw [Shape.validateIn] at accepted
  split at accepted
  · rename_i items listed
    obtain ⟨read, kept⟩ := Outcome.keeping_eq_ok_iff.mp accepted
    obtain ⟨results, each, admits, rfl⟩ := readItems_eq_ok_iff.mp read
    have exists_again : ∀ part ∈ results, ∃ w, item.Rereads extra .free part w := by
      intro part member
      obtain ⟨original, inside, validates⟩ := Outcome.exists_item_of_mem each member
      exact (settles .free original part rfl (isData_of_items? data listed original inside) validates).1
    choose! again rereads using exists_again
    have length : results.length = items.length := by
      simpa using (congrArg List.length each).symm
    have outline : (Value.list (results.map again)).outline = (Value.list results).outline :=
      Value.outline_list_map fun part member => (rereads part member).outline
    refine ⟨⟨.list (results.map again), ?_, ?_, outline, ?_, ?_⟩,
      fun hashable => absurd hashable Bool.false_ne_true⟩
    · refine Outcome.keeping_eq_ok_iff.mpr ⟨readItems_eq_ok_iff.mpr ⟨results.map again, ?_, ?_, rfl⟩, ?_⟩
      · rw [List.map_map, List.map_map]
        exact List.map_congr_left fun part member => (rereads part member).accepted
      · rwa [List.length_map, length]
      · exact Limit.checkAll_of_outline (Limits.isRecordFree_ofCounted free) outline kept
    · rw [Shape.dump, Shape.dump, List.map_map]
      exact congrArg Value.list (List.map_congr_left fun part member => (rereads part member).written)
    · refine Value.allRecordFree_iff.mpr fun dumped member => ?_
      obtain ⟨part, inside, rfl⟩ := List.mem_map.mp member
      exact (rereads part inside).free
    · rw [Shape.dump, Shape.dump, List.map_map]
      exact congrArg Value.list (List.map_congr_left fun part member => (rereads part member).stays)
  · cases accepted

theorem settles_mapping (keys : key.Settles extra) (settles : item.Settles extra) :
    (Shape.mapping key item).Settles extra := by
  intro limits value u free data accepted
  cases value with
  | map entries =>
    obtain ⟨read, kept⟩ := Outcome.keeping_eq_ok_iff.mp accepted
    obtain ⟨built, rfl, admits, together⟩ := exists_of_readEntries read
    have given := (Value.isData_map_iff.mp data).2
    have exists_again : ∀ entry ∈ built, ∃ w, item.Rereads extra .free entry.2 w := by
      intro entry member
      obtain ⟨original, inside, validates⟩ := together.value entry member
      exact (settles .free original.2 entry.2 rfl (given original inside).2 validates).1
    choose! again rereads using exists_again
    have sameKeys : ∀ entry ∈ built, key.validateIn extra .free entry.1 = .ok entry.1 := by
      intro entry member
      obtain ⟨hashable, original, inside, validates⟩ := together.key entry member
      exact (keys .free original.1 entry.1 rfl (given original inside).1 validates).2 hashable
    have outline : (Value.map (built.map fun entry => (entry.1, again entry))).outline = (Value.map built).outline :=
      Value.outline_map_map fun entry member => (rereads entry member).outline
    have kept' := Limit.checkAll_of_outline (Limits.isRecordFree_ofCounted free) outline kept
    refine ⟨⟨.map (built.map fun entry => (entry.1, again entry)), ?_, ?_, outline, ?_, ?_⟩,
      fun hashable => absurd hashable Bool.false_ne_true⟩
    · refine Outcome.keeping_eq_ok_iff.mpr ⟨readEntries_of_distinct ?_ ?_ (fun result member => ?_) ?_, kept'⟩
      · rw [List.map_map, List.map_map]
        exact List.map_congr_left fun entry member =>
          validateEntry_eq_ok_iff.mpr ⟨sameKeys entry member, (rereads entry member).accepted⟩
      · rw [List.map_map]
        exact together.distinct
      · obtain ⟨entry, inside, rfl⟩ := List.mem_map.mp member
        exact (together.key entry inside).1
      · rwa [List.length_map]
    · rw [Shape.dump, Shape.dump, List.map_map]
      refine congrArg Value.map (List.map_congr_left fun entry member => ?_)
      exact congrArg (entry.1, ·) (rereads entry member).written
    · refine Value.entriesRecordFree_iff.mpr fun dumped member => ?_
      obtain ⟨entry, inside, rfl⟩ := List.mem_map.mp member
      exact (rereads entry inside).free
    · rw [Shape.dump, Shape.dump, List.map_map]
      refine congrArg Value.map (List.map_congr_left fun entry member => ?_)
      exact congrArg (entry.1, ·) (rereads entry member).stays
  | _ => cases accepted

end Shape

end TypedPath
