import TypedPath.Proofs.Validator.Overlap
import TypedPath.Validator.Plain

namespace TypedPath

open Merge (Entries Compatible IsConflict Unites AreMappings Stops)

/-- Several validators, put side by side two at a time. -/
inductive Bracketing
  | leaf (validator : Validator)
  | both (left right : Bracketing)

namespace Bracketing

def validator : Bracketing → Validator
  | leaf validator => validator
  | both left right => .both left.validator right.validator

def leaves : Bracketing → List Validator
  | leaf validator => [validator]
  | both left right => left.leaves ++ right.leaves

inductive Answers : Verdict → Prop
  | accepted {entries : Entries} (mapping : Value.IsMapping entries) : Answers (.ok (.map entries))
  | rejected (rejection : Rejection) : Answers (.error (.rejected rejection))

def output? : Verdict → Option Entries
  | .ok (.map entries) => some entries
  | _ => none

def issues? : Verdict → Option (List Issue)
  | .error (.rejected rejection) => some rejection.issues
  | _ => none

def outputs (leaves : List Validator) (input : Value) : List Entries :=
  leaves.filterMap fun leaf => output? (leaf.validate input)

def rejections (leaves : List Validator) (input : Value) : List (List Issue) :=
  leaves.filterMap fun leaf => issues? (leaf.validate input)

def produced (outputs : List Entries) : List Value :=
  outputs.flatten.flatMap fun entry => [entry.1, entry.2]

/-- The blocks in their order, each whole, with conflicts before, between and after them. -/
inductive Interleaved : List (List Issue) → List Issue → Prop
  | nil : Interleaved [] []
  | block (issues : List Issue) {blocks : List (List Issue)} {rest : List Issue} :
    Interleaved blocks rest → Interleaved (issues :: blocks) (issues ++ rest)
  | conflict {issue : Issue} {blocks : List (List Issue)} {rest : List Issue} (conflict : IsConflict issue) :
    Interleaved blocks rest → Interleaved blocks (issue :: rest)

theorem Interleaved.append {leftBlocks rightBlocks : List (List Issue)} {left right : List Issue}
    (first : Interleaved leftBlocks left) (second : Interleaved rightBlocks right) :
    Interleaved (leftBlocks ++ rightBlocks) (left ++ right) := by
  induction first with
  | nil => exact second
  | block issues _ ih =>
    rw [List.cons_append, List.append_assoc]
    exact .block issues ih
  | conflict conflict _ ih => exact .conflict conflict ih

theorem interleaved_of_conflicts {issues : List Issue} (all : ∀ issue ∈ issues, IsConflict issue) :
    Interleaved [] issues := by
  induction issues with
  | nil => exact .nil
  | cons issue issues ih =>
    rw [List.forall_mem_cons] at all
    exact .conflict all.1 (ih all.2)

theorem interleaved_single (issues : List Issue) : Interleaved [issues] issues := by
  have alone : Interleaved [issues] (issues ++ []) := .block issues .nil
  rwa [List.append_nil] at alone

/-- Why neither a mapping nor issues come out: a leaf rejects the value without any issue, or the outputs
    cannot be compared or told apart. -/
inductive Breaks (outputs : List Entries) (rejections : List (List Issue)) : Breakdown → Prop
  | unpaired {results : Nat} (silent : [] ∈ rejections) : Breaks outputs rejections (.unpaired results)
  | merge {breakdown : Breakdown} (stops : Stops outputs breakdown) : Breaks outputs rejections breakdown

/-- What may become of a value, told by the outputs and the rejections alone. -/
inductive Report (among : Value → Prop) (outputs : List Entries) (rejections : List (List Issue)) : Verdict → Prop
  | united {merged : Entries} (accepted : rejections = []) (compatible : outputs.Pairwise Compatible)
    (unites : Unites among outputs merged) : Report among outputs rejections (.ok (.map merged))
  | refused {rejection : Rejection} (failed : rejections ≠ [] ∨ ¬ outputs.Pairwise Compatible)
    (silent : rejection.issues = [] → [] ∈ rejections) (interleaved : Interleaved rejections rejection.issues)
    (whole : outputs.Pairwise Compatible → rejection.issues = rejections.flatten) :
    Report among outputs rejections (.error (.rejected rejection))
  | broken {breakdown : Breakdown} (failed : rejections ≠ [] ∨ ¬ outputs.Pairwise Compatible)
    (breaks : Breaks outputs rejections breakdown) : Report among outputs rejections (.error (.broken breakdown))

section Report

variable {among : Value → Prop} {outputs leftOutputs rightOutputs : List Entries}
  {rejections leftRejections rightRejections : List (List Issue)} {left right : Verdict}

theorem Breaks.append_left {breakdown : Breakdown} (breaks : Breaks leftOutputs leftRejections breakdown) :
    Breaks (leftOutputs ++ rightOutputs) (leftRejections ++ rightRejections) breakdown := by
  cases breaks with
  | unpaired silent => exact .unpaired (List.mem_append_left _ silent)
  | merge stops => exact .merge stops.append_left

theorem Breaks.append_right {breakdown : Breakdown} (breaks : Breaks rightOutputs rightRejections breakdown) :
    Breaks (leftOutputs ++ rightOutputs) (leftRejections ++ rightRejections) breakdown := by
  cases breaks with
  | unpaired silent => exact .unpaired (List.mem_append_right _ silent)
  | merge stops => exact .merge stops.append_right

theorem failed_append_left (failed : leftRejections ≠ [] ∨ ¬ leftOutputs.Pairwise Compatible) :
    leftRejections ++ rightRejections ≠ [] ∨ ¬ (leftOutputs ++ rightOutputs).Pairwise Compatible := by
  rcases failed with some | clash
  · exact .inl (List.append_ne_nil_of_left_ne_nil some _)
  · exact .inr fun compatible => clash (List.pairwise_append.mp compatible).1

theorem failed_append_right (failed : rightRejections ≠ [] ∨ ¬ rightOutputs.Pairwise Compatible) :
    leftRejections ++ rightRejections ≠ [] ∨ ¬ (leftOutputs ++ rightOutputs).Pairwise Compatible := by
  rcases failed with some | clash
  · exact .inl (List.append_ne_nil_of_right_ne_nil _ some)
  · exact .inr fun compatible => clash (List.pairwise_append.mp compatible).2.1

theorem Report.ofSides {issues : List Issue} (results : Nat)
    (failed : rejections ≠ [] ∨ ¬ outputs.Pairwise Compatible) (silent : issues = [] → [] ∈ rejections)
    (interleaved : Interleaved rejections issues)
    (whole : outputs.Pairwise Compatible → issues = rejections.flatten) :
    Report among outputs rejections (.error (.ofSides results issues)) := by
  cases issues with
  | nil => exact .broken failed (.unpaired (silent rfl))
  | cons issue issues => exact .refused failed nofun interleaved whole

theorem report_of_answers {verdict : Verdict} (answers : Answers verdict) :
    Report among (output? verdict).toList (issues? verdict).toList verdict := by
  cases answers with
  | accepted mapping => exact .united rfl (List.pairwise_singleton _ _) (Merge.unites_single mapping)
  | rejected rejection =>
    refine .refused (.inl nofun) ?_ (interleaved_single rejection.issues) ?_
    · intro none
      exact List.mem_singleton.mpr none.symm
    · intro _
      exact (List.append_nil _).symm

/-- When no leaf rejects the value, the merge of both sides decides. -/
theorem report_of_unites {leftMerged rightMerged : Entries} (lawful : Value.IsLawful among)
    (all : AreMappings among (leftOutputs ++ rightOutputs)) (leftUnites : Unites among leftOutputs leftMerged)
    (rightUnites : Unites among rightOutputs rightMerged) (leftCompatible : leftOutputs.Pairwise Compatible)
    (rightCompatible : rightOutputs.Pairwise Compatible) :
    Report among (leftOutputs ++ rightOutputs) []
      (Refusal.ofCheck (Merge.values (.map leftMerged) (.map rightMerged))) := by
  have agree := leftUnites.entries_issues_eq_nil_iff lawful rightUnites all leftCompatible rightCompatible
  have clash : (Merge.entries leftMerged rightMerged).2 ≠ [] →
      ¬ (leftOutputs ++ rightOutputs).Pairwise Compatible := by
    intro some compatible
    exact some (agree.mpr (List.pairwise_append.mp compatible).2.2)
  rcases leftUnites.values_cases lawful rightUnites all with ⟨clear, merged⟩ | ⟨some, told | ⟨breakdown, ended, stops⟩⟩
  · rw [merged]
    refine .united rfl ?_ (leftUnites.append lawful rightUnites all)
    exact List.pairwise_append.mpr ⟨leftCompatible, rightCompatible, agree.mp clear⟩
  · rw [told]
    refine .refused (.inr (clash some)) (fun none => absurd none some) ?_ fun compatible =>
      absurd compatible (clash some)
    exact interleaved_of_conflicts fun issue member => Merge.isConflict_of_mem_entries member
  · rw [ended]
    exact .broken (.inr (clash some)) (.merge stops)

/-- One step: the report on both sides together from the report on each. -/
theorem Report.combine (lawful : Value.IsLawful among) (all : AreMappings among (leftOutputs ++ rightOutputs))
    (leftReport : Report among leftOutputs leftRejections left)
    (rightReport : Report among rightOutputs rightRejections right) :
    Report among (leftOutputs ++ rightOutputs) (leftRejections ++ rightRejections)
      (Validator.combine left right) := by
  have parts : (leftOutputs ++ rightOutputs).Pairwise Compatible →
      leftOutputs.Pairwise Compatible ∧ rightOutputs.Pairwise Compatible := by
    intro compatible
    rw [List.pairwise_append] at compatible
    exact ⟨compatible.1, compatible.2.1⟩
  cases leftReport with
  | @broken breakdown leftFailed breaks =>
    have ended : Validator.combine (.error (.broken breakdown)) right = .error (.broken breakdown) := rfl
    rw [ended]
    exact .broken (failed_append_left leftFailed) breaks.append_left
  | @united leftMerged leftAccepted leftCompatible leftUnites =>
    subst leftAccepted
    cases rightReport with
    | broken rightFailed breaks => exact .broken (failed_append_right rightFailed) breaks.append_right
    | @united rightMerged rightAccepted rightCompatible rightUnites =>
      subst rightAccepted
      exact report_of_unites lawful all leftUnites rightUnites leftCompatible rightCompatible
    | @refused rejection failed silent interleaved whole =>
      exact .ofSides 1 (failed_append_right failed) silent interleaved fun compatible => whole (parts compatible).2
  | @refused leftRejection leftFailed leftSilent leftInterleaved leftWhole =>
    cases rightReport with
    | broken rightFailed breaks => exact .broken (failed_append_right rightFailed) breaks.append_right
    | @united rightMerged rightAccepted rightCompatible rightUnites =>
      subst rightAccepted
      have failed : leftRejections ++ [] ≠ [] ∨ ¬ (leftOutputs ++ rightOutputs).Pairwise Compatible :=
        failed_append_left leftFailed
      rw [List.append_nil] at failed ⊢
      exact .ofSides 1 failed leftSilent leftInterleaved fun compatible => leftWhole (parts compatible).1
    | @refused rightRejection rightFailed rightSilent rightInterleaved rightWhole =>
      refine .ofSides 0 (failed_append_left leftFailed) ?_ (leftInterleaved.append rightInterleaved) ?_
      · intro none
        exact List.mem_append_left _ (leftSilent (List.append_eq_nil_iff.mp none).1)
      · intro compatible
        rw [leftWhole (parts compatible).1, rightWhole (parts compatible).2, List.flatten_append]

variable {verdict : Verdict}

theorem Report.exists_ok_iff (report : Report among outputs rejections verdict) :
    (∃ merged, verdict = .ok (.map merged)) ↔ rejections = [] ∧ outputs.Pairwise Compatible := by
  cases report with
  | united accepted compatible unites => exact iff_of_true ⟨_, rfl⟩ ⟨accepted, compatible⟩
  | refused failed | broken failed =>
    refine iff_of_false nofun fun h => ?_
    rcases failed with some | clash
    · exact some h.1
    · exact clash h.2

theorem Report.exists_unites {value : Value} (report : Report among outputs rejections (.ok value)) :
    ∃ merged, value = .map merged ∧ Unites among outputs merged := by
  cases report with
  | united accepted compatible unites => exact ⟨_, rfl, unites⟩

theorem Report.of_error {refusal : Refusal} (report : Report among outputs rejections (.error refusal)) :
    (∃ rejection, refusal = .rejected rejection ∧ Interleaved rejections rejection.issues ∧
        (outputs.Pairwise Compatible → rejection.issues = rejections.flatten)) ∨
      ∃ breakdown, refusal = .broken breakdown ∧ Breaks outputs rejections breakdown := by
  cases report with
  | refused failed silent interleaved whole => exact .inl ⟨_, rfl, interleaved, whole⟩
  | broken failed breaks => exact .inr ⟨_, rfl, breaks⟩

/-- Nothing but the outputs and the rejections decides what the mapping is. -/
theorem Report.ok_unique (lawful : Value.IsLawful among) (all : AreMappings among outputs) {value : Value}
    (accepted : Report among outputs rejections (.ok value)) (report : Report among outputs rejections verdict) :
    verdict = .ok value := by
  obtain ⟨merged, rfl, unites⟩ := accepted.exists_unites
  obtain ⟨other, rfl⟩ := report.exists_ok_iff.mpr (accepted.exists_ok_iff.mp ⟨merged, rfl⟩)
  obtain ⟨_, same, otherUnites⟩ := report.exists_unites
  cases same
  rw [otherUnites.unique lawful unites all]

end Report

section Leaves

variable {input : Value} {leaves left right : List Validator}

theorem outputs_append : outputs (left ++ right) input = outputs left input ++ outputs right input :=
  List.filterMap_append

theorem rejections_append : rejections (left ++ right) input = rejections left input ++ rejections right input :=
  List.filterMap_append

theorem outputs_leaf (validator : Validator) :
    outputs [validator] input = (output? (validator.validate input)).toList := by
  unfold outputs
  rw [List.filterMap_cons]
  cases output? (validator.validate input) <;> rfl

theorem rejections_leaf (validator : Validator) :
    rejections [validator] input = (issues? (validator.validate input)).toList := by
  unfold rejections
  rw [List.filterMap_cons]
  cases issues? (validator.validate input) <;> rfl

theorem isMapping_of_mem_outputs (answers : ∀ leaf ∈ leaves, Answers (leaf.validate input)) {output : Entries}
    (member : output ∈ outputs leaves input) : Value.IsMapping output := by
  obtain ⟨leaf, inLeaves, made⟩ := List.mem_filterMap.mp member
  have answer := answers leaf inLeaves
  generalize leaf.validate input = verdict at made answer
  cases answer with
  | accepted mapping =>
    cases made
    exact mapping
  | rejected rejection => cases made

theorem areMappings_outputs (answers : ∀ leaf ∈ leaves, Answers (leaf.validate input)) :
    AreMappings (· ∈ produced (outputs leaves input)) (outputs leaves input) := by
  intro output inOutputs
  have produces : ∀ entry ∈ output, ∀ value ∈ [entry.1, entry.2], value ∈ produced (outputs leaves input) := by
    intro entry inOutput value inEntry
    exact List.mem_flatMap.mpr ⟨entry, List.mem_flatten.mpr ⟨output, inOutputs, inOutput⟩, inEntry⟩
  refine ⟨isMapping_of_mem_outputs answers inOutputs, ?_, ?_⟩
  · exact fun entry member => produces entry member entry.1 List.mem_cons_self
  · exact fun entry member => produces entry member entry.2 (List.mem_cons_of_mem _ List.mem_cons_self)

theorem rejections_eq_nil_iff (answers : ∀ leaf ∈ leaves, Answers (leaf.validate input)) :
    rejections leaves input = [] ↔ ∀ leaf ∈ leaves, ∃ entries, leaf.validate input = .ok (.map entries) := by
  unfold rejections
  rw [List.filterMap_eq_nil_iff]
  apply forall₂_congr
  intro leaf member
  have answer := answers leaf member
  generalize leaf.validate input = verdict at answer
  cases answer with
  | accepted mapping => exact iff_of_true rfl ⟨_, rfl⟩
  | rejected rejection => exact iff_of_false nofun nofun

/-- The run: the report on a whole bracketing, by induction on it. -/
theorem report {among : Value → Prop} (lawful : Value.IsLawful among) (tree : Bracketing)
    (answers : ∀ leaf ∈ tree.leaves, Answers (leaf.validate input))
    (all : AreMappings among (outputs tree.leaves input)) :
    Report among (outputs tree.leaves input) (rejections tree.leaves input) (tree.validator.validate input) := by
  induction tree with
  | leaf validator =>
    rw [Bracketing.leaves, outputs_leaf, rejections_leaf]
    exact report_of_answers (answers validator List.mem_cons_self)
  | both left right leftIh rightIh =>
    rw [Bracketing.leaves, outputs_append] at all
    obtain ⟨leftAll, rightAll⟩ := Merge.areMappings_append.mp all
    have leftReport := leftIh (fun leaf member => answers leaf (List.mem_append_left _ member)) leftAll
    have rightReport := rightIh (fun leaf member => answers leaf (List.mem_append_right _ member)) rightAll
    rw [Bracketing.leaves, outputs_append, rejections_append]
    exact leftReport.combine lawful all rightReport

end Leaves

/-- The value is accepted just when every leaf accepts it and the leaves agree on the keys they share. The
    mapping and the issues are then those of the leaves in their order, however they are bracketed; but the
    validation breaks down where a leaf rejects the value and has no issue to tell, and where values that
    are to be merged cannot be compared or told apart. -/
theorem validate_of_leaves (tree : Bracketing) (input : Value)
    (answers : ∀ leaf ∈ tree.leaves, Answers (leaf.validate input))
    (lawful : Value.IsLawful (· ∈ produced (outputs tree.leaves input))) :
    ((∃ merged, tree.validator.validate input = .ok (.map merged)) ↔
        (∀ leaf ∈ tree.leaves, ∃ entries, leaf.validate input = .ok (.map entries)) ∧
          (outputs tree.leaves input).Pairwise Compatible) ∧
      (∀ value, tree.validator.validate input = .ok value →
        ∃ merged, value = .map merged ∧
          merged.map Prod.fst = Value.firstKeys ((outputs tree.leaves input).flatten.map Prod.fst) ∧
          (∀ entry ∈ merged, Value.lastValue? entry.1 (outputs tree.leaves input) = some entry.2) ∧
          ∀ other : Bracketing, other.leaves = tree.leaves → other.validator.validate input = .ok value) ∧
      ∀ refusal, tree.validator.validate input = .error refusal →
        (∃ rejection, refusal = .rejected rejection ∧
          Interleaved (rejections tree.leaves input) rejection.issues ∧
          ((outputs tree.leaves input).Pairwise Compatible →
            rejection.issues = (rejections tree.leaves input).flatten)) ∨
        ∃ breakdown, refusal = .broken breakdown ∧
          Breaks (outputs tree.leaves input) (rejections tree.leaves input) breakdown := by
  have all := areMappings_outputs answers
  have told := report lawful tree answers all
  refine ⟨?_, ?_, ?_⟩
  · rw [told.exists_ok_iff, rejections_eq_nil_iff answers]
  · intro value accepted
    rw [accepted] at told
    obtain ⟨merged, same, unites⟩ := told.exists_unites
    refine ⟨merged, same, unites.keys, fun entry member => unites.lastValue?_of_mem lawful all member, ?_⟩
    intro other leaves
    rw [← leaves] at told all answers lawful
    exact told.ok_unique lawful all (report lawful other answers all)
  · intro refusal refused
    rw [refused] at told
    exact told.of_error

-- Three mappings with one number under the key `n`, each in a kind of its own.

def asInt : Bracketing := .leaf (.constant (.map [(.text "n", .int 1)]))

def asBool : Bracketing := .leaf (.constant (.map [(.text "b", .int 5), (.text "n", .bool true)]))

def asDecimal : Bracketing := .leaf (.constant (.map [(.text "n", .decimal (.finite ⟨false, 10, -1⟩))]))

def counts : Bracketing := .both (.both asInt asBool) asDecimal

theorem counts_answers : ∀ leaf ∈ counts.leaves, Answers (leaf.validate (.map [])) := by
  have first : Value.IsMapping [(.text "n", .int 1)] := ⟨by decide, by decide⟩
  have second : Value.IsMapping [(.text "b", .int 5), (.text "n", .bool true)] := ⟨by decide, by decide⟩
  have third : Value.IsMapping [(.text "n", .decimal (.finite ⟨false, 10, -1⟩))] := ⟨by decide, by decide⟩
  exact List.forall_mem_cons.mpr ⟨.accepted first, List.forall_mem_cons.mpr ⟨.accepted second,
    List.forall_mem_singleton.mpr (.accepted third)⟩⟩

theorem counts_lawful : Value.IsLawful (· ∈ produced (outputs counts.leaves (.map []))) := by
  have symm : ∀ a ∈ produced (outputs counts.leaves (.map [])),
      ∀ b ∈ produced (outputs counts.leaves (.map [])), a.same b = true → b.same a = true := by decide
  have trans : ∀ a ∈ produced (outputs counts.leaves (.map [])),
      ∀ b ∈ produced (outputs counts.leaves (.map [])),
      ∀ c ∈ produced (outputs counts.leaves (.map [])),
        a.same b = true → b.same c = true → a.same c = true := by decide
  exact ⟨fun inA inB => symm _ inA _ inB, fun inA inB inC => trans _ inA _ inB _ inC⟩

theorem validate_of_leaves_counts :
    (both asInt (both asBool asDecimal)).validator.validate (.map []) =
      .ok (.map [(.text "n", .decimal (.finite ⟨false, 10, -1⟩)), (.text "b", .int 5)]) := by
  have accepted : counts.validator.validate (.map []) =
      .ok (.map [(.text "n", .decimal (.finite ⟨false, 10, -1⟩)), (.text "b", .int 5)]) := rfl
  obtain ⟨_, value, _⟩ := validate_of_leaves counts (.map []) counts_answers counts_lawful
  obtain ⟨_, _, _, _, regrouped⟩ := value _ accepted
  exact regrouped _ rfl

def silent : Bracketing := .both (.leaf (.reject [])) (.leaf .echo)

/-- Where one leaf rejects the value without any issue and the other one takes it, no list of issues comes
    out. -/
theorem silent_refused_unpaired :
    (∀ leaf ∈ silent.leaves, Answers (leaf.validate (.map []))) ∧
      Value.IsLawful (· ∈ produced (outputs silent.leaves (.map []))) ∧
      silent.validator.validate (.map []) = .error (.broken (.unpaired 1)) ∧
      ¬ ∃ rejection, silent.validator.validate (.map []) = .error (.rejected rejection) := by
  refine ⟨?_, ⟨?_, ?_⟩, rfl, ?_⟩
  · exact List.forall_mem_cons.mpr ⟨.rejected _, List.forall_mem_singleton.mpr (.accepted ⟨by decide, by decide⟩)⟩
  · exact fun inA => absurd inA List.not_mem_nil
  · exact fun inA => absurd inA List.not_mem_nil
  · rintro ⟨rejection, rejected⟩
    cases rejected

end Bracketing

end TypedPath
