import TypedPath.Pattern.Matching

namespace TypedPath.Bindings

/-- The bindings hold each name once, with what `value?` says. -/
structure Represents (bound : Bindings) (value? : Text → Option Text) : Prop where
  nodup : (bound.map Prod.fst).Nodup
  lookup_eq : ∀ name, bound.lookup name = value? name

theorem lookup_bind (bound : Bindings) (name value other : Text) :
    (bound.bind name value).lookup other = if other = name then some value else bound.lookup other := by
  induction bound with
  | nil =>
    by_cases same : other = name
    · simp [bind, same]
    · simp only [bind, List.lookup_cons, List.lookup_nil, beq_eq_false_iff_ne.mpr same, same, ite_false]
  | cons entry rest ih =>
    obtain ⟨key, old⟩ := entry
    unfold bind
    by_cases held : key = name
    · subst held
      by_cases same : other = key
      · simp [same]
      · simp only [ite_true, List.lookup_cons, beq_eq_false_iff_ne.mpr same, same, ite_false]
    · by_cases same : other = key
      · subst same
        simp [held]
      · rw [if_neg held]
        simp only [List.lookup_cons, beq_eq_false_iff_ne.mpr same, ih]

theorem mem_keys_bind {bound : Bindings} {name value key : Text} :
    key ∈ (bound.bind name value).map Prod.fst ↔ key = name ∨ key ∈ bound.map Prod.fst := by
  induction bound with
  | nil => simp [bind]
  | cons entry rest ih =>
    obtain ⟨other, old⟩ := entry
    unfold bind
    by_cases held : other = name
    · subst held
      simp
    · rw [if_neg held]
      simp only [List.map_cons, List.mem_cons, ih]
      grind

theorem nodup_bind {bound : Bindings} (nodup : (bound.map Prod.fst).Nodup) (name value : Text) :
    ((bound.bind name value).map Prod.fst).Nodup := by
  induction bound with
  | nil => simp [bind]
  | cons entry rest ih =>
    obtain ⟨other, old⟩ := entry
    rw [List.map_cons, List.nodup_cons] at nodup
    unfold bind
    by_cases held : other = name
    · subst held
      simpa using nodup
    · rw [if_neg held, List.map_cons, List.nodup_cons, mem_keys_bind]
      refine ⟨?_, ih nodup.2⟩
      intro h
      rcases h with same | member
      · exact held same
      · exact nodup.1 member

theorem bind_of_not_mem {bound : Bindings} {name : Text} (fresh : name ∉ bound.map Prod.fst) (value : Text) :
    bound.bind name value = bound ++ [(name, value)] := by
  induction bound with
  | nil => rfl
  | cons entry rest ih =>
    rw [List.map_cons, List.mem_cons, not_or] at fresh
    simp [bind, Ne.symm fresh.1, ih fresh.2]

theorem Represents.bind {bound : Bindings} {value? : Text → Option Text} (represents : bound.Represents value?)
    (name value : Text) :
    (bound.bind name value).Represents fun other => if other = name then some value else value? other := by
  refine ⟨nodup_bind represents.nodup name value, fun other => ?_⟩
  rw [lookup_bind, represents.lookup_eq]

theorem represents_nil : Represents [] fun _ => none := ⟨List.nodup_nil, fun _ => rfl⟩

end TypedPath.Bindings
