import TypedPath.Proofs.Schema.RecordFree
import TypedPath.Proofs.Schema.Telling
import TypedPath.Proofs.Validator.Remaining

namespace TypedPath

namespace ExtraPolicy

theorem keep_text_eq_ok {policy : ExtraPolicy} {reads : Text → Bool} {key : Text} {value : Value}
    {result : Option (Text × Value)} (kept : policy.keep reads (.text key, value) = .ok result) :
    result = if decide (policy = .allow) && !reads key then some (key, value) else none := by
  cases policy with
  | ignore =>
    cases kept
    rfl
  | forbid =>
    change (if reads key then .ok none else (Outcome.fail .extraForbidden value).within (.text key)) =
      .ok result at kept
    split at kept <;> cases kept
    rfl
  | allow =>
    change (if reads key then .ok none else .ok (some (key, value))) = Except.ok result at kept
    cases read : reads key <;> rw [read] at kept <;> cases kept <;> rfl

theorem kept_keyed_eq_ok {policy : ExtraPolicy} {reads : Text → Bool} {pairs found : List (Text × Value)}
    (kept : policy.kept reads (Value.keyed pairs) = .ok found) :
    found = pairs.filter fun pair => decide (policy = .allow) && !reads pair.1 := by
  obtain ⟨results, gathered, rfl⟩ := map_eq_ok_iff.mp kept
  have each := Outcome.gather_eq_ok_iff.mp gathered
  clear kept gathered
  induction pairs generalizing results with
  | nil =>
    cases results with
    | nil => rfl
    | cons => cases each
  | cons pair pairs ih =>
    cases results with
    | nil => cases each
    | cons result results =>
      obtain ⟨first, later⟩ := List.cons.inj each
      rw [keep_text_eq_ok first, List.filter_cons, List.filterMap_cons, ih results later]
      cases decide (policy = .allow) && !reads pair.1 <;> rfl

end ExtraPolicy

namespace Field

variable {field other : Field Shape} {extra : ExtraPolicy} {pairs : List (Text × Value)} {filled filled' : Filled}

end Field

namespace Model

variable {m n : Model Shape} {pairs : List (Text × Value)} {filled filled' : List Filled}

def allowedExtra (m : Model Shape) (pairs : List (Text × Value)) : List (Text × Value) :=
  pairs.filter fun pair => decide (m.extra = .allow) && !m.reads pair.1

theorem extras_keyed_eq_ok {loose : List (Slot Value)} (extras : m.extras (Value.keyed pairs) = .ok loose) :
    loose = (m.allowedExtra pairs).map fun pair => looseSlot pair.1 pair.2 := by
  obtain ⟨found, kept, rfl⟩ := map_eq_ok_iff.mp extras
  rw [ExtraPolicy.kept_keyed_eq_ok kept]
  rfl

theorem nodup_suppliedNames (unaliased : m.IsUnaliased) (distinct : (pairs.map Prod.fst).Nodup) :
    (m.fields.map Field.name ++ (m.allowedExtra pairs).map Prod.fst).Nodup := by
  refine List.nodup_append.mpr ⟨unaliased.nodup, distinct.sublist (List.filter_sublist.map _), ?_⟩
  rintro name isName other isExtra rfl
  obtain ⟨field, member, rfl⟩ := List.mem_map.mp isName
  obtain ⟨pair, inExtra, same⟩ := List.mem_map.mp isExtra
  have unread := (Bool.and_eq_true_iff.mp (List.mem_filter.mp inExtra).2).2
  rw [same, reads_name member (unaliased.inputKey field member) rfl] at unread
  cases unread

theorem run_keyed (unaliased : m.IsUnaliased) (distinct : (pairs.map Prod.fst).Nodup) (suppliedOnly : Bool)
    {v : Value} (accepted : m.run suppliedOnly (.map (Value.keyed pairs)) = .ok v) :
    ∃ filled : List Filled, m.fields.map (Field.validateIn m.extra (Value.keyed pairs)) = filled.map .ok ∧
      v = .map (Value.keyed (filled.filterMap (Filled.writtenAs? suppliedOnly) ++
        (m.allowedExtra pairs).map fun pair => (pair.1, pair.2.dump suppliedOnly))) := by
  obtain ⟨r, validated, rfl⟩ := run_eq_ok_iff.mp accepted
  obtain ⟨filled, loose, read, extras, rfl⟩ := validate_map_eq_ok_iff.mp validated
  cases extras_keyed_eq_ok extras
  refine ⟨filled, read, ?_⟩
  have names : (filled.map (·.1.name) ++
      ((m.allowedExtra pairs).map fun pair => looseSlot pair.1 pair.2).map Slot.name).Nodup := by
    rw [names_of_validateIn read, List.map_map]
    exact nodup_suppliedNames unaliased distinct
  rw [fields_build_append names, List.map_map]
  cases suppliedOnly <;> rfl

theorem IsUnaliased.relaxed (unaliased : m.IsUnaliased) (relaxed : m.relaxed = .ok n) : n.IsUnaliased := by
  obtain ⟨_, fields⟩ := relaxed_eq_ok relaxed
  refine ⟨fun other member => ?_, map_name_relaxed fields ▸ unaliased.nodup⟩
  obtain ⟨field, _, relaxes⟩ := exists_of_mem_relaxed fields member
  obtain ⟨shape, _, rfl⟩ := Field.relaxed_eq_ok relaxes
  rfl

end Model

def Verdict.issues : Verdict → List Issue
  | .error (.rejected rejection) => rejection.issues
  | _ => []

namespace Model

variable {m n : Model Shape} {pairs : List (Text × Value)} {v : Value}

end Model

end TypedPath
