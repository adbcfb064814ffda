import Mathlib.Data.List.Basic
import TypedPath.Value.Equality

namespace TypedPath

namespace Value

def keyed (pairs : List (Text × Value)) : List (Value × Value) :=
  pairs.map fun (name, value) => (.text name, value)

theorem same_text (a b : Text) : same (.text a) (.text b) = decide (a = b) := by
  simp only [same]

theorem same_text_right {value : Value} {t : Text} : value.same (.text t) = true ↔ value = .text t := by
  cases value <;> simp [same, sameQuantity, quantity?]

theorem same_text_left {value : Value} {t : Text} : (Value.text t).same value = true ↔ value = .text t := by
  cases value <;> simp [same, sameQuantity, quantity?, eq_comm]

theorem sameMember_of_same {a b : Value} (same : a.same b = true) : a.sameMember b = true := by
  rw [sameMember, same, Bool.or_true]

theorem eq_of_isIdentical {a b : Value} (one : a.isIdentical b = true) : a = b := by
  unfold isIdentical at one
  split at one
  · rw [Bool.and_eq_true, decide_eq_true_eq] at one
    rw [one.2]
  · rw [Bool.and_eq_true, decide_eq_true_eq] at one
    rw [one.2]
  · cases one

theorem sameMember_iff {a b : Value} : a.sameMember b = true ↔ a.isIdentical b = true ∨ a.same b = true :=
  Bool.or_eq_true_iff

theorem sameMember_symm {a b : Value} (symm : a.same b = true → b.same a = true) (same : a.sameMember b = true) :
    b.sameMember a = true := by
  rcases sameMember_iff.mp same with one | same
  · cases eq_of_isIdentical one
    exact sameMember_iff.mpr (.inl one)
  · exact sameMember_of_same (symm same)

theorem sameMember_trans {a b c : Value} (trans : a.same b = true → b.same c = true → a.same c = true)
    (first : a.sameMember b = true) (second : b.sameMember c = true) : a.sameMember c = true := by
  rcases sameMember_iff.mp first with one | same
  · cases eq_of_isIdentical one
    exact second
  · rcases sameMember_iff.mp second with one | alsoSame
    · cases eq_of_isIdentical one
      exact first
    · exact sameMember_of_same (trans same alsoSame)

theorem sameMember_text (a b : Text) : sameMember (.text a) (.text b) = decide (a = b) := same_text a b

theorem sameMember_text_right {value : Value} {t : Text} : value.sameMember (.text t) = true ↔ value = .text t := by
  rw [sameMember_iff, same_text_right, or_iff_right_of_imp eq_of_isIdentical]

theorem findText?_put (name other : Text) (value : Value) (entries : List (Value × Value)) :
    findText? name (put (.text other) value entries) = if other = name then some value else findText? name entries := by
  induction entries with
  | nil => simp only [put, findText?]
  | cons entry entries ih =>
    obtain ⟨key, old⟩ := entry
    rw [put]
    split
    · rename_i same
      rw [sameMember_text_right.mp same]
      simp only [findText?]
      split <;> rfl
    · rename_i apart
      cases key with
      | text held =>
        simp only [findText?, ih]
        split
        · rename_i found
          rw [if_neg fun twice => apart (sameMember_text_right.mpr (congrArg text (found.trans twice.symm)))]
        · rfl
      | _ => exact ih

theorem mem_of_findText? {name : Text} {value : Value} {entries : List (Value × Value)}
    (found : findText? name entries = some value) : (.text name, value) ∈ entries := by
  induction entries with
  | nil => cases found
  | cons entry entries ih =>
    unfold findText? at found
    split at found
    · cases ‹_ :: _ = _›
    · cases ‹_ :: _ = _›
      split at found
      · rename_i same
        cases found
        exact same ▸ List.mem_cons_self
      · exact List.mem_cons_of_mem _ (ih found)
    · cases ‹_ :: _ = _›
      exact List.mem_cons_of_mem _ (ih found)

theorem findText?_keyed (name : Text) (pairs : List (Text × Value)) :
    findText? name (keyed pairs) = pairs.lookup name := by
  induction pairs with
  | nil => rfl
  | cons pair rest ih =>
    obtain ⟨key, value⟩ := pair
    show findText? name ((.text key, value) :: keyed rest) = _
    by_cases same : key = name
    · subst same
      simp [findText?]
    · have other : (name == key) = false := beq_eq_false_iff_ne.mpr (Ne.symm same)
      simp only [findText?, if_neg same, ih, List.lookup_cons, other]

theorem find?_keyed (name : Text) (pairs : List (Text × Value)) :
    find? (.text name) (keyed pairs) = pairs.lookup name := by
  induction pairs with
  | nil => rfl
  | cons pair rest ih =>
    obtain ⟨key, value⟩ := pair
    show find? (.text name) ((.text key, value) :: keyed rest) = _
    by_cases same : key = name
    · subst same
      simp [find?, sameMember_text]
    · have other : (name == key) = false := beq_eq_false_iff_ne.mpr (Ne.symm same)
      simp only [find?, sameMember_text, decide_eq_false same, Bool.false_eq_true, if_false, ih, List.lookup_cons, other]

theorem put_keyed {name : Text} {pairs : List (Text × Value)} (fresh : name ∉ pairs.map Prod.fst) (value : Value) :
    put (.text name) value (keyed pairs) = keyed (pairs ++ [(name, value)]) := by
  induction pairs with
  | nil => rfl
  | cons pair rest ih =>
    obtain ⟨key, old⟩ := pair
    rw [List.map_cons, List.mem_cons, not_or] at fresh
    have other : decide (key = name) = false := decide_eq_false (Ne.symm fresh.1)
    show put (.text name) value ((.text key, old) :: keyed rest) = (.text key, old) :: keyed (rest ++ [(name, value)])
    simp only [put, sameMember_text, other, Bool.false_eq_true, if_false, ih fresh.2]

theorem put_keyed_of_lookup {name : Text} {value : Value} {pairs : List (Text × Value)}
    (held : pairs.lookup name = some value) : put (.text name) value (keyed pairs) = keyed pairs := by
  induction pairs with
  | nil => cases held
  | cons pair rest ih =>
    obtain ⟨key, old⟩ := pair
    show put (.text name) value ((.text key, old) :: keyed rest) = (.text key, old) :: keyed rest
    rw [List.lookup_cons] at held
    by_cases same : key = name
    · subst same
      rw [beq_self_eq_true] at held
      cases held
      simp only [put, sameMember_text, decide_true, if_true]
    · rw [beq_eq_false_iff_ne.mpr (Ne.symm same)] at held
      simp only [put, sameMember_text, decide_eq_false same, Bool.false_eq_true, if_false, ih held]

theorem exists_put_keyed_of_mem {name : Text} {pairs : List (Text × Value)} (held : name ∈ pairs.map Prod.fst)
    (value : Value) :
    ∃ more, put (.text name) value (keyed pairs) = keyed more ∧ more.map Prod.fst = pairs.map Prod.fst := by
  induction pairs with
  | nil => cases held
  | cons pair rest ih =>
    obtain ⟨key, old⟩ := pair
    rw [List.map_cons, List.mem_cons] at held
    by_cases same : key = name
    · subst same
      refine ⟨(key, value) :: rest, ?_, rfl⟩
      show put (.text key) value ((.text key, old) :: keyed rest) = _
      simp only [put, sameMember_text, decide_true, if_true]
      rfl
    · obtain ⟨more, put_eq, keys⟩ := ih (held.resolve_left (Ne.symm same))
      refine ⟨(key, old) :: more, ?_, congrArg (key :: ·) keys⟩
      show put (.text name) value ((.text key, old) :: keyed rest) = (.text key, old) :: keyed more
      simp only [put, sameMember_text, decide_eq_false same, Bool.false_eq_true, if_false, put_eq]

theorem exists_put_keyed {pairs : List (Text × Value)} (nodup : (pairs.map Prod.fst).Nodup) (name : Text)
    (value : Value) : ∃ more, put (.text name) value (keyed pairs) = keyed more ∧ (more.map Prod.fst).Nodup := by
  by_cases held : name ∈ pairs.map Prod.fst
  · obtain ⟨more, put_eq, keys⟩ := exists_put_keyed_of_mem held value
    exact ⟨more, put_eq, keys ▸ nodup⟩
  · refine ⟨_, put_keyed held value, ?_⟩
    rw [List.map_append, List.nodup_append]
    refine ⟨nodup, List.pairwise_singleton _ _, fun key inPairs other new same => held ?_⟩
    rw [List.map_singleton, List.mem_singleton] at new
    rwa [same, new] at inPairs

/-- Values that are put under new names one after the other come at the end, in their order. -/
theorem foldl_put_keyed {start pairs : List (Text × Value)}
    (nodup : ((start ++ pairs).map Prod.fst).Nodup) :
    pairs.foldl (fun built (pair : Text × Value) => put (.text pair.1) pair.2 built) (keyed start) =
      keyed (start ++ pairs) := by
  induction pairs generalizing start with
  | nil => rw [List.foldl_nil, List.append_nil]
  | cons pair rest ih =>
    obtain ⟨name, value⟩ := pair
    have fresh : name ∉ start.map Prod.fst := by
      rw [List.map_append, List.nodup_append] at nodup
      exact fun held => nodup.2.2 name held name List.mem_cons_self rfl
    rw [List.foldl_cons, put_keyed fresh, ih, List.append_assoc, List.singleton_append]
    rwa [List.append_assoc, List.singleton_append]

end Value

theorem lookup_eq_none_of_not_mem {α : Type} {pairs : List (Text × α)} {name : Text}
    (absent : name ∉ pairs.map Prod.fst) : pairs.lookup name = none := by
  rw [List.lookup_eq_none_iff]
  intro pair member
  have apart : name ≠ pair.1 := by
    intro same
    exact absent (List.mem_map.mpr ⟨pair, member, same.symm⟩)
  exact bne_iff_ne.mpr apart

theorem lookup_isSome_iff_mem {α : Type} {pairs : List (Text × α)} {name : Text} :
    (pairs.lookup name).isSome ↔ name ∈ pairs.map Prod.fst := by
  constructor
  · intro held
    obtain ⟨pair, member, same⟩ := List.lookup_isSome_iff.mp held
    exact List.mem_map.mpr ⟨pair, member, (eq_of_beq same).symm⟩
  · intro member
    obtain ⟨pair, inside, rfl⟩ := List.mem_map.mp member
    exact List.lookup_isSome_iff.mpr ⟨pair, inside, beq_self_eq_true pair.1⟩

theorem lookup_eq_some_iff_mem {α : Type} {pairs : List (Text × α)} (nodup : (pairs.map Prod.fst).Nodup)
    {name : Text} {value : α} : pairs.lookup name = some value ↔ (name, value) ∈ pairs := by
  induction pairs with
  | nil => simp
  | cons pair rest ih =>
    obtain ⟨key, held⟩ := pair
    rw [List.map_cons, List.nodup_cons] at nodup
    rw [List.lookup_cons, List.mem_cons, Prod.mk.injEq]
    by_cases same : name = key
    · subst same
      have absent : (name, value) ∉ rest := fun member => nodup.1 (List.mem_map.mpr ⟨_, member, rfl⟩)
      simp [absent, eq_comm]
    · rw [beq_eq_false_iff_ne.mpr same]
      simp [same, ih nodup.2]

theorem lookup_perm {α : Type} {left right : List (Text × α)} (perm : left.Perm right)
    (nodup : (left.map Prod.fst).Nodup) (name : Text) : left.lookup name = right.lookup name := by
  have nodup' : (right.map Prod.fst).Nodup := (perm.map Prod.fst).nodup_iff.mp nodup
  ext value
  rw [lookup_eq_some_iff_mem nodup, lookup_eq_some_iff_mem nodup', perm.mem_iff]

theorem lookup_map_snd {α β : Type} (pairs : List (Text × α)) (write : α → β) (name : Text) :
    (pairs.map fun pair => (pair.1, write pair.2)).lookup name = (pairs.lookup name).map write := by
  induction pairs with
  | nil => rfl
  | cons pair rest ih =>
    rw [List.map_cons, List.lookup_cons, List.lookup_cons, ih]
    cases name == pair.1 <;> rfl

section Named

variable {α : Type}

def named (names : List Text) (value? : Text → Option α) : List (Text × α) :=
  names.filterMap fun name => (value? name).map fun value => (name, value)

theorem named_cons (name : Text) (names : List Text) (value? : Text → Option α) :
    named (name :: names) value? =
      ((value? name).map fun value => (name, value)).toList ++ named names value? := by
  unfold named
  rw [List.filterMap_cons]
  cases value? name <;> rfl

theorem mem_named_iff {names : List Text} {value? : Text → Option α} {pair : Text × α} :
    pair ∈ named names value? ↔ pair.1 ∈ names ∧ value? pair.1 = some pair.2 := by
  unfold named
  rw [List.mem_filterMap]
  constructor
  · rintro ⟨name, member, found⟩
    obtain ⟨value, held, rfl⟩ := Option.map_eq_some_iff.mp found
    exact ⟨member, held⟩
  · rintro ⟨member, held⟩
    exact ⟨pair.1, member, Option.map_eq_some_iff.mpr ⟨pair.2, held, rfl⟩⟩

theorem map_fst_named (names : List Text) (value? : Text → Option α) :
    (named names value?).map Prod.fst = names.filter fun name => (value? name).isSome := by
  induction names with
  | nil => rfl
  | cons name names ih =>
    rw [named_cons, List.map_append, ih, List.filter_cons]
    cases value? name <;> rfl

theorem nodup_named {names : List Text} (nodup : names.Nodup) (value? : Text → Option α) :
    ((named names value?).map Prod.fst).Nodup := by
  rw [map_fst_named]
  exact nodup.sublist List.filter_sublist

theorem lookup_named (names : List Text) (value? : Text → Option α) (name : Text) :
    (named names value?).lookup name = if name ∈ names then value? name else none := by
  induction names with
  | nil => rfl
  | cons other names ih =>
    rw [named_cons, List.lookup_append, ih]
    by_cases same : name = other
    · subst same
      cases value? name <;> simp
    · have differs : (name == other) = false := beq_eq_false_iff_ne.mpr same
      cases value? other <;> simp [same, List.lookup_cons, differs]

theorem eq_named_of_firstNames {pairs : List (Text × α)} {names : List Text} (nodup : names.Nodup)
    (first : pairs.map Prod.fst <+: names) : pairs = named names fun name => pairs.lookup name := by
  induction pairs generalizing names with
  | nil => exact (List.filterMap_eq_nil_iff.mpr fun _ _ => rfl).symm
  | cons pair pairs ih =>
    obtain ⟨rest, rfl⟩ := first
    obtain ⟨name, value⟩ := pair
    rw [List.map_cons, List.cons_append, List.nodup_cons] at nodup
    have later := ih nodup.2 (List.prefix_append ..)
    rw [List.map_cons, List.cons_append, named_cons, List.lookup_cons_self]
    simp only [Option.map_some, Option.toList_some, List.singleton_append, List.cons.injEq, true_and]
    refine later.trans (List.filterMap_congr fun other member => ?_)
    have apart : other ≠ name := fun same => nodup.1 (same ▸ member)
    simp only [List.lookup_cons, beq_false_of_ne apart]

end Named

end TypedPath
