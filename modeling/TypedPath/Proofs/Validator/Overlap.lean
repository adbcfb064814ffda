import TypedPath.Proofs.Value.Equality
import TypedPath.Proofs.Value.Lookup
import TypedPath.Validator.Merge

namespace TypedPath.Merge

open Value (IsLawful IsMapping KeysWithin find? put firstKeys lastValue?)

abbrev Entries := List (Value × Value)

def Compatible (left right : Entries) : Prop :=
  ∀ a ∈ left, ∀ b ∈ right, a.1.sameMember b.1 = true → a.2.same b.2 = true

def Comparable (left right : Entries) : Prop :=
  ∀ a ∈ left, ∀ b ∈ right, a.1.sameMember b.1 = true → a.2.signals b.2 = false

def IsConflict (issue : Issue) : Prop :=
  ∃ key old new, issue = conflictAt key old new ∧ old.same new = false

section Entries

variable {left right : Entries}

theorem entries_cons (entry : Value × Value) : entries left (entry :: right) =
    ((entries (put entry.1 entry.2 left) right).1,
      (clash? left entry).toList ++ (entries (put entry.1 entry.2 left) right).2) := rfl

theorem exists_conflict_of_mem_entries {issue : Issue} (member : issue ∈ (entries left right).2) :
    ∃ entry ∈ right, ∃ old, issue = conflictAt entry.1 old entry.2 ∧ old.same entry.2 = false := by
  induction right generalizing left with
  | nil => cases member
  | cons entry right ih =>
    rw [entries_cons] at member
    rcases List.mem_append.mp member with here | later
    · rw [Option.mem_toList] at here
      unfold clash? at here
      split at here
      · rename_i old held
        split at here
        · cases here
        · rename_i differs
          exact ⟨entry, List.mem_cons_self, old, (Option.some.inj here).symm, eq_false_of_ne_true differs⟩
      · cases here
    · obtain ⟨other, inRight, conflict⟩ := ih later
      exact ⟨other, List.mem_cons_of_mem _ inRight, conflict⟩

theorem isConflict_of_mem_entries {issue : Issue} (member : issue ∈ (entries left right).2) : IsConflict issue := by
  obtain ⟨entry, _, old, conflict⟩ := exists_conflict_of_mem_entries member
  exact ⟨entry.1, old, entry.2, conflict⟩

theorem clash?_eq_none_iff {entry : Value × Value} : clash? left entry = none ↔
    ∀ old, find? entry.1 left = some old → old.same entry.2 = true := by
  unfold clash?
  cases find? entry.1 left with
  | none => simp
  | some old => cases same : old.same entry.2 <;> simp [same]

theorem map_fst_entries (distinct : (right.map Prod.fst).Pairwise fun a b => a.sameMember b = false) :
    (entries left right).1.map Prod.fst =
      left.map Prod.fst ++ (right.map Prod.fst).filter fun key => !(left.map Prod.fst).any (·.sameMember key) := by
  induction right generalizing left with
  | nil => exact (List.append_nil _).symm
  | cons entry right ih =>
    obtain ⟨apart, distinct⟩ := List.pairwise_cons.mp distinct
    have later : ∀ key ∈ right.map Prod.fst, ((put entry.1 entry.2 left).map Prod.fst).any (·.sameMember key) =
        (left.map Prod.fst).any (·.sameMember key) := by
      intro key member
      rw [Value.map_fst_put]
      split
      · rfl
      · rw [List.any_append, List.any_cons, apart key member, List.any_nil, Bool.or_false, Bool.or_false]
    have same : (right.map Prod.fst).filter
          (fun key => !((put entry.1 entry.2 left).map Prod.fst).any (·.sameMember key)) =
        (right.map Prod.fst).filter fun key => !(left.map Prod.fst).any (·.sameMember key) := by
      apply List.filter_congr
      intro key member
      rw [later key member]
    rw [entries_cons, ih distinct, same, Value.map_fst_put, List.map_cons, List.filter_cons]
    cases held : (left.map Prod.fst).any (·.sameMember entry.1) with
    | true => simp
    | false => simp

theorem signals_eq_true_iff : signals left right = true ↔
    ∃ entry ∈ right, ∃ old, find? entry.1 left = some old ∧ old.signals entry.2 = true := by
  unfold signals
  rw [List.any_eq_true]
  refine exists_congr fun entry => and_congr_right fun _ => ?_
  cases find? entry.1 left <;> simp

theorem values_of_signals (stopped : signals left right = true) :
    values (.map left) (.map right) = .error (.breakdown .signalling) := if_pos stopped

theorem values_of_issues (calm : signals left right = false) (some : (entries left right).2 ≠ []) :
    values (.map left) (.map right) = conflicts (entries left right).2 := by
  show mappings left right = _
  unfold mappings
  rw [calm, if_neg Bool.false_ne_true]
  split
  · rename_i clear
    exact absurd (congrArg Prod.snd clear) some
  · rename_i issues _ told
    rw [told]

theorem conflicts_entries :
    (conflicts (entries left right).2 : Outcome Value) = .error (.issues (entries left right).2) ∨
      (∃ entry ∈ right, entry.1.isWritable = false) ∧
        (conflicts (entries left right).2 : Outcome Value) = .error (.breakdown .oversized) := by
  unfold conflicts
  split
  · exact .inl rfl
  · rename_i long
    rw [List.all_eq_true, not_forall] at long
    obtain ⟨issue, long⟩ := long
    rw [Classical.not_imp, Bool.not_eq_true] at long
    obtain ⟨entry, inRight, old, rfl, _⟩ := exists_conflict_of_mem_entries long.1
    refine .inr ⟨⟨entry, inRight, ?_⟩, rfl⟩
    have place : (conflictAt entry.1 old entry.2).isWritable = (entry.1.isWritable && true) := rfl
    rw [← long.2, place, Bool.and_true]

variable {among : Value → Prop} (lawful : IsLawful among) (leftWithin : KeysWithin among left)
  (rightWithin : KeysWithin among right) (mapping : IsMapping right)

theorem keysWithin_entries {among : Value → Prop} (leftWithin : KeysWithin among left)
    (rightWithin : KeysWithin among right) : KeysWithin among (entries left right).1 := by
  induction right generalizing left with
  | nil => exact leftWithin
  | cons entry right ih =>
    obtain ⟨inEntry, rest⟩ := List.forall_mem_cons.mp rightWithin
    rw [entries_cons]
    exact ih (leftWithin.put inEntry) rest

include lawful leftWithin rightWithin mapping

theorem find?_entries {key : Value} (inKey : among key) :
    find? key (entries left right).1 = (find? key right).or (find? key left) := by
  induction right generalizing left with
  | nil => rfl
  | cons entry right ih =>
    obtain ⟨inEntry, rest⟩ := List.forall_mem_cons.mp rightWithin
    have putWithin : KeysWithin among (put entry.1 entry.2 left) := leftWithin.put inEntry
    have later := ih putWithin rest mapping.tail
    rw [entries_cons, later, Value.find?_put lawful leftWithin inEntry inKey, Value.find?_cons]
    cases same : entry.1.sameMember key with
    | false => rfl
    | true =>
      have absent : find? key right = none := by
        apply Value.find?_eq_none
        intro other member
        rw [lawful.comm (rest other member) inKey, ← lawful.same_left inEntry inKey (rest other member) same]
        exact mapping.head member
      rw [absent]
      rfl

theorem entries_issues_eq_nil_iff : (entries left right).2 = [] ↔
    ∀ b ∈ right, ∀ old, find? b.1 left = some old → old.same b.2 = true := by
  induction right generalizing left with
  | nil => simp [entries]
  | cons entry right ih =>
    obtain ⟨inEntry, rest⟩ := List.forall_mem_cons.mp rightWithin
    have putWithin : KeysWithin among (put entry.1 entry.2 left) := leftWithin.put inEntry
    have later := ih putWithin rest mapping.tail
    have unmoved : ∀ b ∈ right, find? b.1 (put entry.1 entry.2 left) = find? b.1 left := by
      intro b member
      rw [Value.find?_put lawful leftWithin inEntry (rest b member), mapping.head member, if_neg Bool.false_ne_true]
    rw [entries_cons, List.append_eq_nil_iff, Option.toList_eq_nil_iff, clash?_eq_none_iff, later,
      List.forall_mem_cons]
    apply and_congr_right'
    apply forall₂_congr
    intro b member
    rw [unmoved b member]

theorem values_of_no_issues (none : (entries left right).2 = []) :
    values (.map left) (.map right) = .ok (.map (entries left right).1) := by
  have agree := (entries_issues_eq_nil_iff lawful leftWithin rightWithin mapping).mp none
  have calm : signals left right = false := by
    by_contra stopped
    obtain ⟨entry, member, old, held, signals⟩ := signals_eq_true_iff.mp (eq_true_of_ne_false stopped)
    rw [Value.signals_of_same (agree entry member old held)] at signals
    cases signals
  have whole : entries left right = ((entries left right).1, []) := Prod.ext rfl none
  show mappings left right = _
  unfold mappings
  rw [calm, if_neg Bool.false_ne_true, whole]

end Entries

/-- The mapping has all keys of the outputs in the order in which they first appear, and under each
    what the last output that has the key has there. -/
structure Unites (among : Value → Prop) (outputs : List Entries) (merged : Entries) : Prop where
  keys : merged.map Prod.fst = firstKeys (outputs.flatten.map Prod.fst)
  held : ∀ key, among key → find? key merged = lastValue? key outputs

structure IsMappingAmong (among : Value → Prop) (output : Entries) : Prop extends IsMapping output where
  keys : KeysWithin among output
  values : ∀ entry ∈ output, among entry.2

def AreMappings (among : Value → Prop) (outputs : List Entries) : Prop :=
  ∀ output ∈ outputs, IsMappingAmong among output

section Unites

variable {among : Value → Prop} {output merged leftMerged rightMerged : Entries} {outputs left right : List Entries}

theorem areMappings_append :
    AreMappings among (left ++ right) ↔ AreMappings among left ∧ AreMappings among right :=
  List.forall_mem_append

theorem AreMappings.keysWithin (all : AreMappings among outputs) :
    ∀ key ∈ outputs.flatten.map Prod.fst, among key := by
  intro key member
  obtain ⟨entry, inFlat, rfl⟩ := List.mem_map.mp member
  obtain ⟨output, inOutputs, inOutput⟩ := List.mem_flatten.mp inFlat
  exact (all output inOutputs).keys entry inOutput

theorem unites_single (mapping : IsMapping output) : Unites among [output] output := by
  constructor
  · rw [List.flatten_singleton, Value.firstKeys_of_pairwise mapping.distinct]
  · intro key _
    rfl

theorem Unites.exists_key (unites : Unites among outputs merged) {entry : Value × Value} (member : entry ∈ merged) :
    ∃ output ∈ outputs, ∃ first ∈ output, first.1 = entry.1 := by
  have inKeys : entry.1 ∈ firstKeys (outputs.flatten.map Prod.fst) := unites.keys ▸ List.mem_map_of_mem member
  obtain ⟨first, inFlat, same⟩ := List.mem_map.mp (Value.mem_of_mem_firstKeys inKeys)
  obtain ⟨output, inOutputs, inOutput⟩ := List.mem_flatten.mp inFlat
  exact ⟨output, inOutputs, first, inOutput, same⟩

theorem Unites.isMapping (unites : Unites among outputs merged) (all : AreMappings among outputs) :
    IsMapping merged := by
  constructor
  · rw [unites.keys]
    exact Value.pairwise_firstKeys
  · intro entry member
    obtain ⟨output, inOutputs, first, inOutput, same⟩ := unites.exists_key member
    rw [← same]
    exact ((all output inOutputs).toIsMapping).found first inOutput

theorem Unites.keysWithin (unites : Unites among outputs merged) (all : AreMappings among outputs) :
    KeysWithin among merged := by
  intro entry member
  obtain ⟨output, inOutputs, first, inOutput, same⟩ := unites.exists_key member
  rw [← same]
  exact (all output inOutputs).keys first inOutput

variable (lawful : IsLawful among)

include lawful

/-- What stands under a key is the value of the last output that has it. -/
theorem Unites.lastValue?_of_mem (unites : Unites among outputs merged) (all : AreMappings among outputs)
    {entry : Value × Value} (member : entry ∈ merged) : lastValue? entry.1 outputs = some entry.2 := by
  have within := unites.keysWithin all
  have mapping := unites.isMapping all
  rw [← unites.held entry.1 (within entry member)]
  exact mapping.find?_of_same lawful within (within entry member) member (mapping.found entry member)

theorem Unites.unique (left : Unites among outputs leftMerged) (right : Unites among outputs rightMerged)
    (all : AreMappings among outputs) : leftMerged = rightMerged := by
  apply List.ext_getElem
  · simpa using congrArg List.length (left.keys.trans right.keys.symm)
  · intro i inLeft inRight
    have sameKey : leftMerged[i].1 = rightMerged[i].1 := by
      have keys := left.keys.trans right.keys.symm
      have := List.getElem_of_eq keys (by simpa using inLeft)
      simpa using this
    have leftValue := left.lastValue?_of_mem lawful all (List.getElem_mem inLeft)
    have rightValue := right.lastValue?_of_mem lawful all (List.getElem_mem inRight)
    rw [sameKey, rightValue] at leftValue
    exact Prod.ext sameKey (Option.some.inj leftValue).symm

theorem Unites.append (leftUnites : Unites among left leftMerged) (rightUnites : Unites among right rightMerged)
    (all : AreMappings among (left ++ right)) :
    Unites among (left ++ right) (entries leftMerged rightMerged).1 := by
  obtain ⟨leftAll, rightAll⟩ := areMappings_append.mp all
  have mapping := rightUnites.isMapping rightAll
  constructor
  · rw [map_fst_entries mapping.distinct, leftUnites.keys, rightUnites.keys, List.flatten_append, List.map_append,
      Value.firstKeys_append]
    congr 1
    apply List.filter_congr
    intro key member
    have inKey := rightAll.keysWithin key (Value.mem_of_mem_firstKeys member)
    rw [Value.any_firstKeys lawful leftAll.keysWithin inKey]
  · intro key inKey
    rw [find?_entries lawful (leftUnites.keysWithin leftAll) (rightUnites.keysWithin rightAll) mapping inKey,
      leftUnites.held key inKey, rightUnites.held key inKey, Value.lastValue?_append]

end Unites

section Compatible

variable {among : Value → Prop} (lawful : IsLawful among) {outputs left right : List Entries}

include lawful

theorem exists_lastValue? (all : AreMappings among outputs) (compatible : outputs.Pairwise Compatible)
    {output : Entries} (inOutputs : output ∈ outputs) {entry : Value × Value} (member : entry ∈ output)
    {key : Value} (inKey : among key) (same : entry.1.sameMember key = true) :
    ∃ last, lastValue? key outputs = some last ∧ (entry.2 = last ∨ entry.2.same last = true) := by
  induction outputs with
  | nil => cases inOutputs
  | cons first outputs ih =>
    obtain ⟨apart, later⟩ := List.pairwise_cons.mp compatible
    rw [← List.singleton_append, areMappings_append] at all
    rw [Value.lastValue?]
    rcases List.mem_cons.mp inOutputs with rfl | inLater
    · have here : IsMappingAmong among output := all.1 output List.mem_cons_self
      cases held : lastValue? key outputs with
      | none =>
        refine ⟨entry.2, ?_, .inl rfl⟩
        rw [Option.none_or]
        exact here.toIsMapping.find?_of_same lawful here.keys inKey member same
      | some last =>
        obtain ⟨other, inOther, found, inFound, sameFound, rfl⟩ := Value.exists_mem_of_lastValue? held
        refine ⟨found.2, rfl, .inr (apart other inOther entry member found inFound ?_)⟩
        have inEntry := here.keys entry member
        have inFoundKey := (all.2 other inOther).keys found inFound
        exact lawful.transMember inEntry inKey inFoundKey same (lawful.symmMember inFoundKey inKey sameFound)
    · obtain ⟨last, held, equal⟩ := ih all.2 later inLater
      exact ⟨last, by rw [held]; rfl, equal⟩

omit lawful in
theorem AreMappings.among_lastValue? (all : AreMappings among outputs) {key last : Value}
    (held : lastValue? key outputs = some last) : among last := by
  obtain ⟨output, inOutputs, entry, member, _, rfl⟩ := Value.exists_mem_of_lastValue? held
  exact (all output inOutputs).values entry member

/-- What stands under one key on both sides comes from an output of each. -/
theorem Unites.exists_shared {leftMerged rightMerged : Entries} (leftUnites : Unites among left leftMerged)
    (rightUnites : Unites among right rightMerged) (all : AreMappings among (left ++ right)) {entry : Value × Value}
    (member : entry ∈ rightMerged) {old : Value} (held : find? entry.1 leftMerged = some old) :
    ∃ a ∈ left, ∃ first ∈ a, ∃ b ∈ right, ∃ second ∈ b,
      first.1.sameMember second.1 = true ∧ first.2 = old ∧ second.2 = entry.2 := by
  obtain ⟨leftAll, rightAll⟩ := areMappings_append.mp all
  have inEntry := rightUnites.keysWithin rightAll entry member
  rw [leftUnites.held _ inEntry] at held
  obtain ⟨a, inLeft, first, firstMember, firstSame, isOld⟩ := Value.exists_mem_of_lastValue? held
  obtain ⟨b, inRight, second, secondMember, secondSame, value⟩ :=
    Value.exists_mem_of_lastValue? (rightUnites.lastValue?_of_mem lawful rightAll member)
  have inFirst := (leftAll a inLeft).keys first firstMember
  have inSecond := (rightAll b inRight).keys second secondMember
  have shared := lawful.transMember inFirst inEntry inSecond firstSame (lawful.symmMember inSecond inEntry secondSame)
  exact ⟨a, inLeft, first, firstMember, b, inRight, second, secondMember, shared, isOld, value⟩

theorem Unites.entries_issues_eq_nil {leftMerged rightMerged : Entries} (leftUnites : Unites among left leftMerged)
    (rightUnites : Unites among right rightMerged) (all : AreMappings among (left ++ right))
    (compatible : ∀ a ∈ left, ∀ b ∈ right, Compatible a b) : (entries leftMerged rightMerged).2 = [] := by
  obtain ⟨leftAll, rightAll⟩ := areMappings_append.mp all
  apply (Merge.entries_issues_eq_nil_iff lawful (leftUnites.keysWithin leftAll) (rightUnites.keysWithin rightAll)
    (rightUnites.isMapping rightAll)).mpr
  intro entry member old held
  obtain ⟨a, inLeft, first, firstMember, b, inRight, second, secondMember, shared, rfl, value⟩ :=
    leftUnites.exists_shared lawful rightUnites all member held
  rw [← value]
  exact compatible a inLeft b inRight first firstMember second secondMember shared

/-- Two united mappings are merged without a conflict just when every output of the left one goes with
    every output of the right one. -/
theorem Unites.entries_issues_eq_nil_iff {leftMerged rightMerged : Entries}
    (leftUnites : Unites among left leftMerged) (rightUnites : Unites among right rightMerged)
    (all : AreMappings among (left ++ right)) (leftCompatible : left.Pairwise Compatible)
    (rightCompatible : right.Pairwise Compatible) :
    (entries leftMerged rightMerged).2 = [] ↔ ∀ a ∈ left, ∀ b ∈ right, Compatible a b := by
  obtain ⟨leftAll, rightAll⟩ := areMappings_append.mp all
  have leftWithin := leftUnites.keysWithin leftAll
  have rightWithin := rightUnites.keysWithin rightAll
  constructor
  · intro none a inLeft b inRight old oldMember new newMember same
    have agree := (Merge.entries_issues_eq_nil_iff lawful leftWithin rightWithin (rightUnites.isMapping rightAll)).mp none
    have inOld := (leftAll a inLeft).keys old oldMember
    have inNew := (rightAll b inRight).keys new newMember
    have again := ((rightAll b inRight).toIsMapping).found new newMember
    -- the entry of the merged right side that stands for the new one
    obtain ⟨_, newHeld, newEqual⟩ := exists_lastValue? lawful rightAll rightCompatible inRight newMember inNew again
    obtain ⟨entry, member, sameEntry, rfl⟩ := Value.exists_mem_of_find? ((rightUnites.held _ inNew).trans newHeld)
    have inEntry := rightWithin entry member
    have oldSame := lawful.transMember inOld inNew inEntry same (lawful.symmMember inEntry inNew sameEntry)
    -- the value of the merged left side that stands for the old one
    obtain ⟨last, oldHeld, oldEqual⟩ :=
      exists_lastValue? lawful leftAll leftCompatible inLeft oldMember inEntry oldSame
    have met := agree entry member last ((leftUnites.held _ inEntry).trans oldHeld)
    have inLast := leftAll.among_lastValue? oldHeld
    have inValue := rightAll.among_lastValue? newHeld
    have inOldValue := (leftAll a inLeft).values old oldMember
    have inNewValue := (rightAll b inRight).values new newMember
    have first : old.2.same entry.2 = true := by
      rcases oldEqual with equal | equal
      · rw [equal, met]
      · exact lawful.trans inOldValue inLast inValue equal met
    rcases newEqual with equal | equal
    · rw [equal, first]
    · exact lawful.trans inOldValue inValue inNewValue first (lawful.symm inNewValue inValue equal)
  · exact leftUnites.entries_issues_eq_nil lawful rightUnites all

/-- What keeps several outputs from being merged, and their conflicts from being told: values that cannot
    be compared, or conflicts where an output has a key that is too long. -/
inductive Stops (outputs : List Entries) : Breakdown → Prop
  | signalling (stopped : ¬ outputs.Pairwise Comparable) : Stops outputs .signalling
  | oversized (clash : ¬ outputs.Pairwise Compatible) {output : Entries} (inOutputs : output ∈ outputs)
    {entry : Value × Value} (member : entry ∈ output) (long : entry.1.isWritable = false) : Stops outputs .oversized

omit lawful in
theorem Stops.append_left {breakdown : Breakdown} (stops : Stops left breakdown) : Stops (left ++ right) breakdown := by
  cases stops with
  | signalling stopped => exact .signalling fun calm => stopped (List.pairwise_append.mp calm).1
  | oversized clash inOutputs member long =>
    exact .oversized (fun compatible => clash (List.pairwise_append.mp compatible).1)
      (List.mem_append_left _ inOutputs) member long

omit lawful in
theorem Stops.append_right {breakdown : Breakdown} (stops : Stops right breakdown) : Stops (left ++ right) breakdown := by
  cases stops with
  | signalling stopped => exact .signalling fun calm => stopped (List.pairwise_append.mp calm).2.1
  | oversized clash inOutputs member long =>
    exact .oversized (fun compatible => clash (List.pairwise_append.mp compatible).2.1)
      (List.mem_append_right _ inOutputs) member long

/-- Two united mappings are merged, or the conflicts are told, or something stops the merge. -/
theorem Unites.values_cases {leftMerged rightMerged : Entries} (leftUnites : Unites among left leftMerged)
    (rightUnites : Unites among right rightMerged) (all : AreMappings among (left ++ right)) :
    ((entries leftMerged rightMerged).2 = [] ∧
        values (.map leftMerged) (.map rightMerged) = .ok (.map (entries leftMerged rightMerged).1)) ∨
      ((entries leftMerged rightMerged).2 ≠ [] ∧
        (values (.map leftMerged) (.map rightMerged) = .error (.issues (entries leftMerged rightMerged).2) ∨
          ∃ breakdown, values (.map leftMerged) (.map rightMerged) = .error (.breakdown breakdown) ∧
            Stops (left ++ right) breakdown)) := by
  obtain ⟨leftAll, rightAll⟩ := areMappings_append.mp all
  by_cases clear : (entries leftMerged rightMerged).2 = []
  · exact .inl ⟨clear, values_of_no_issues lawful (leftUnites.keysWithin leftAll) (rightUnites.keysWithin rightAll)
      (rightUnites.isMapping rightAll) clear⟩
  · refine .inr ⟨clear, ?_⟩
    cases stopped : signals leftMerged rightMerged with
    | true =>
      refine .inr ⟨_, values_of_signals stopped, .signalling fun calm => ?_⟩
      obtain ⟨entry, member, old, held, signals⟩ := signals_eq_true_iff.mp stopped
      obtain ⟨a, inLeft, first, firstMember, b, inRight, second, secondMember, shared, rfl, value⟩ :=
        leftUnites.exists_shared lawful rightUnites all member held
      have met := (List.pairwise_append.mp calm).2.2 a inLeft b inRight first firstMember second secondMember shared
      rw [← value, met] at signals
      cases signals
    | false =>
      rw [values_of_issues stopped clear]
      refine conflicts_entries.imp_right fun ⟨⟨entry, member, long⟩, told⟩ => ⟨_, told, ?_⟩
      obtain ⟨output, inOutputs, first, inOutput, same⟩ := rightUnites.exists_key member
      refine .oversized (fun compatible => clear ?_) (List.mem_append_right _ inOutputs) inOutput (same ▸ long)
      exact leftUnites.entries_issues_eq_nil lawful rightUnites all (List.pairwise_append.mp compatible).2.2

end Compatible

end TypedPath.Merge
