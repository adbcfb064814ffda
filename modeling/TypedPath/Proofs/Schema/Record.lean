import Mathlib.Data.List.Nodup
import TypedPath.Proofs.Schema.Scalar
import TypedPath.Proofs.Value.Keyed

namespace TypedPath

namespace Outcome

section Read

variable {α β : Type} {items : List β} {validate : β → Outcome α} {results : List α}

theorem exists_item_of_mem (read : items.map validate = results.map .ok) {result : α} (member : result ∈ results) :
    ∃ item ∈ items, validate item = .ok result := by
  have inside : (.ok result : Outcome α) ∈ items.map validate := read ▸ List.mem_map_of_mem member
  exact List.mem_map.mp inside

theorem exists_result_of_mem (read : items.map validate = results.map .ok) {item : β} (member : item ∈ items) :
    ∃ result ∈ results, validate item = .ok result := by
  have inside : validate item ∈ results.map .ok := read ▸ List.mem_map_of_mem member
  obtain ⟨result, isResult, same⟩ := List.mem_map.mp inside
  exact ⟨result, isResult, same.symm⟩

end Read

theorem within_eq_ok_iff {α : Type} {step : Value} {outcome : Outcome α} {a : α} :
    outcome.within step = .ok a ↔ outcome = .ok a := by
  rcases outcome with (issues | breakdown) | b
  · exact iff_of_false nofun nofun
  · exact iff_of_false nofun nofun
  · exact Iff.rfl

end Outcome

theorem map_eq_ok_iff {ε α β : Type} {f : α → β} {result : Except ε α} {b : β} :
    result.map f = .ok b ↔ ∃ a, result = .ok a ∧ f a = b := by
  cases result with
  | error reason => exact iff_of_false nofun nofun
  | ok a => simp [Except.map]

namespace Field

def validateIn (extra : ExtraPolicy) (entries : List (Value × Value)) (field : Field Shape) : Outcome Filled :=
  field.readWith (field.shape.validateIn extra field.limits)
    (fun suppliedOnly => field.shape.dump suppliedOnly extra) entries

variable {field : Field Shape} {extra : ExtraPolicy} {entries : List (Value × Value)} {filled : Filled}

theorem filled_of_validateIn (read : field.validateIn extra entries = .ok filled) :
    filled.1.name = field.name ∧ filled.2 = (Value.findText? field.key entries).isSome := by
  unfold validateIn readWith at read
  split at read
  · rename_i input found
    obtain ⟨value, _, rfl⟩ := map_eq_ok_iff.mp read
    exact ⟨rfl, by rw [found]; rfl⟩
  · rename_i absent
    split at read
    · cases read
      exact ⟨rfl, by rw [absent]; rfl⟩
    · cases read

end Field

theorem validateFields_eq_map (fields : List (Field Shape)) (extra : ExtraPolicy) (entries : List (Value × Value)) :
    validateFields fields extra entries = fields.map (Field.validateIn extra entries) := by
  induction fields with
  | nil => rfl
  | cons field rest ih =>
    rw [List.map_cons, ← ih]
    rfl

theorem validateEntries_eq_map (entries : List (Entry Shape)) (extra : ExtraPolicy) (given : List (Value × Value)) :
    validateEntries entries extra given =
      entries.map fun entry => entry.readWith (entry.shape.validateIn extra .free) given := by
  induction entries with
  | nil => rfl
  | cons entry rest ih =>
    rw [List.map_cons, ← ih]
    rfl

namespace Shape

theorem dump_none (suppliedOnly : Bool) (extra : ExtraPolicy) :
    (shape : Shape) → shape.dump suppliedOnly extra .none = .none
  | .optional inner => dump_none suppliedOnly extra inner
  | .text | .int | .float | .bool | .uuid | .decimal | .moment | .any | .list _ | .mapping _ _ | .literal _
  | .fixedKeys _ _ | .model _ => rfl
termination_by structural shape => shape

theorem eq_none_of_dump {suppliedOnly : Bool} {extra : ExtraPolicy} {v : Value} :
    (shape : Shape) → shape.dump suppliedOnly extra v = .none → v = .none
  | .optional inner, dumped => eq_none_of_dump inner dumped
  | .text, dumped | .int, dumped | .float, dumped | .bool, dumped | .uuid, dumped | .decimal, dumped
  | .moment, dumped | .any, dumped | .list _, dumped | .mapping _ _, dumped | .literal _, dumped
  | .fixedKeys _ _, dumped | .model ⟨_, _, _, _, _⟩, dumped => by cases v <;> first | rfl | cases dumped
termination_by structural shape => shape

end Shape

namespace ExtraPolicy

theorem kept_eq_nil {policy : ExtraPolicy} {reads : Text → Bool} {entries : List (Value × Value)}
    (kept : ∀ entry ∈ entries, policy.keep reads entry = .ok none) : policy.kept reads entries = .ok [] := by
  have results : entries.map (policy.keep reads) = (entries.map fun _ => none).map .ok := by
    rw [List.map_map]
    exact List.map_congr_left kept
  unfold ExtraPolicy.kept
  rw [Outcome.gather_eq_ok_iff.mpr results]
  simp [Except.map]

theorem keep_ignore (reads : Text → Bool) (entry : Value × Value) :
    ExtraPolicy.ignore.keep reads entry = .ok none := by
  unfold keep
  split <;> rfl

theorem keep_of_reads (policy : ExtraPolicy) {reads : Text → Bool} {key : Text} (read : reads key = true)
    (value : Value) : policy.keep reads (.text key, value) = .ok none := by
  cases policy <;> simp only [keep, read, ite_true]

theorem of_keep_eq_ok {policy : ExtraPolicy} {reads : Text → Bool} {entry : Value × Value} {pair : Text × Value}
    (keeps : policy.keep reads entry = .ok (some pair)) : entry = (.text pair.1, pair.2) ∧ reads pair.1 = false := by
  obtain ⟨key, value⟩ := entry
  unfold keep at keeps
  split at keeps
  · cases keeps
  · rename_i isText _
    dsimp only at isText
    split at keeps
    · cases keeps
    · rename_i unread
      split at keeps
      · cases keeps
      · cases keeps
        exact ⟨congrArg (·, value) isText, Bool.not_eq_true _ ▸ unread⟩
  · cases keeps

theorem of_mem_kept {policy : ExtraPolicy} {reads : Text → Bool} {entries : List (Value × Value)}
    {found : List (Text × Value)} (kept : policy.kept reads entries = .ok found) {pair : Text × Value}
    (member : pair ∈ found) : (.text pair.1, pair.2) ∈ entries ∧ reads pair.1 = false := by
  obtain ⟨results, gathered, rfl⟩ := map_eq_ok_iff.mp kept
  obtain ⟨_, inResults, rfl⟩ := List.mem_filterMap.mp member
  obtain ⟨entry, inEntries, keeps⟩ := Outcome.exists_item_of_mem (Outcome.gather_eq_ok_iff.mp gathered) inResults
  obtain ⟨rfl, unread⟩ := of_keep_eq_ok keeps
  exact ⟨inEntries, unread⟩

end ExtraPolicy

namespace Model

variable {m : Model Shape} {entries : List (Value × Value)} {filled : List Filled} {r : Instance Value}

theorem extras_ignore (ignores : m.extra = .ignore) (entries : List (Value × Value)) :
    m.extras entries = .ok [] := by
  unfold extras
  rw [ExtraPolicy.kept_eq_nil fun entry _ => ignores ▸ ExtraPolicy.keep_ignore m.reads entry]
  rfl

theorem extras_keyed {pairs : List (Text × Value)} (read : ∀ pair ∈ pairs, m.reads pair.1 = true) :
    m.extras (Value.keyed pairs) = .ok [] := by
  have kept : ∀ entry ∈ Value.keyed pairs, m.extra.keep m.reads entry = .ok none := by
    intro entry member
    obtain ⟨pair, found, rfl⟩ := List.mem_map.mp member
    exact m.extra.keep_of_reads (read pair found) pair.2
  unfold extras
  rw [ExtraPolicy.kept_eq_nil kept]
  rfl

theorem validate_map (m : Model Shape) (entries : List (Value × Value)) :
    m.validate (.map entries) =
      (Outcome.both (Outcome.gather (m.fields.map (Field.validateIn m.extra entries))) (m.extras entries)).map
        fun read => m.build read.1 read.2 := by
  rw [← validateFields_eq_map]
  cases m
  simp only [validate, readWith]

/-- A mapping is accepted when every field and every extra key is. -/
theorem validate_map_eq_ok_iff :
    m.validate (.map entries) = .ok r ↔ ∃ filled extras,
      m.fields.map (Field.validateIn m.extra entries) = filled.map .ok ∧ m.extras entries = .ok extras ∧
        r = m.build filled extras := by
  rw [validate_map, map_eq_ok_iff]
  constructor
  · rintro ⟨⟨filled, extras⟩, both, rfl⟩
    obtain ⟨fields, loose⟩ := Outcome.both_eq_ok_iff.mp both
    exact ⟨filled, extras, Outcome.gather_eq_ok_iff.mp fields, loose, rfl⟩
  · rintro ⟨filled, extras, fields, loose, rfl⟩
    exact ⟨(filled, extras), Outcome.both_eq_ok_iff.mpr ⟨Outcome.gather_eq_ok_iff.mpr fields, loose⟩, rfl⟩

theorem names_of_validateIn {fields : List (Field Shape)} {extra : ExtraPolicy}
    (read : fields.map (Field.validateIn extra entries) = filled.map .ok) :
    filled.map (·.1.name) = fields.map Field.name := by
  induction fields generalizing filled with
  | nil =>
    cases filled with
    | nil => rfl
    | cons _ _ => cases read
  | cons field fields ih =>
    cases filled with
    | nil => cases read
    | cons first filled =>
      obtain ⟨head, tail⟩ := List.cons.inj read
      rw [List.map_cons, List.map_cons, ih tail, (Field.filled_of_validateIn head).1]

theorem contains_supplied_of_filled {loose : List (Slot Value)}
    (nodup : (filled.map (·.1.name) ++ loose.map Slot.name).Nodup) {entry : Filled} (member : entry ∈ filled) :
    (m.build filled loose).supplied.contains entry.1.name = entry.2 := by
  obtain ⟨inFilled, _, apart⟩ := List.nodup_append.mp nodup
  rw [Bool.eq_iff_iff, List.contains_iff_mem]
  simp only [build, List.mem_eraseDups, List.mem_append, List.mem_map, List.mem_filter]
  constructor
  · rintro (⟨other, ⟨found, given⟩, same⟩ | ⟨slot, isLoose, same⟩)
    · rw [List.inj_on_of_nodup_map inFilled found member same] at given
      exact given
    · exact absurd same.symm
        (apart _ (List.mem_map.mpr ⟨entry, member, rfl⟩) _ (List.mem_map.mpr ⟨slot, isLoose, rfl⟩))
  · intro given
    exact .inl ⟨entry, ⟨member, given⟩, rfl⟩

theorem contains_supplied_of_loose {loose : List (Slot Value)} {slot : Slot Value} (member : slot ∈ loose) :
    (m.build filled loose).supplied.contains slot.name = true := by
  rw [List.contains_iff_mem]
  simp only [build, List.mem_eraseDups, List.mem_append]
  exact .inr (List.mem_map_of_mem member)

theorem contains_supplied (nodup : (filled.map (·.1.name)).Nodup) {entry : Filled} (member : entry ∈ filled) :
    (m.build filled []).supplied.contains entry.1.name = entry.2 := by
  refine contains_supplied_of_filled ?_ member
  rwa [List.map_nil, List.append_nil]

end Model

namespace Instance

def writtenAs (suppliedOnly : Bool) (write : Slot Value → Option Value) (r : Instance Value) (slot : Slot Value) :
    Option (Text × Value) :=
  if suppliedOnly && !r.supplied.contains slot.name then none
  else (write slot).map fun value => (slot.name, value)

theorem map_fst_writtenAs (suppliedOnly : Bool) (write : Slot Value → Option Value) (r : Instance Value)
    (slots : List (Slot Value)) :
    ((slots.filterMap (r.writtenAs suppliedOnly write)).map Prod.fst).Sublist (slots.map Slot.name) := by
  induction slots with
  | nil => exact List.Sublist.refl _
  | cons slot slots ih =>
    rw [List.filterMap_cons]
    cases written : r.writtenAs suppliedOnly write slot with
    | none => exact ih.cons _
    | some pair =>
      have name : pair.1 = slot.name := by
        unfold writtenAs at written
        split at written
        · cases written
        · obtain ⟨value, _, rfl⟩ := Option.map_eq_some_iff.mp written
          rfl
      rw [List.map_cons, List.map_cons, name]
      exact ih.cons_cons _

theorem dumpWith_eq {r : Instance Value} (nodup : (r.slots.map Slot.name).Nodup) (suppliedOnly : Bool)
    (write : Slot Value → Option Value) :
    r.dumpWith suppliedOnly write = .map (Value.keyed (r.slots.filterMap (r.writtenAs suppliedOnly write))) := by
  have distinct := nodup.sublist (map_fst_writtenAs suppliedOnly write r r.slots)
  have put := @Value.foldl_put_keyed [] _ distinct
  rw [List.nil_append, List.foldl_filterMap] at put
  unfold dumpWith
  rw [← put]
  apply congrArg (fun step => Value.map (List.foldl step [] r.slots))
  funext built slot
  unfold writtenAs
  split
  · rfl
  · cases write slot <;> rfl

end Instance

def Filled.writtenAs? (suppliedOnly : Bool) (entry : Filled) : Option (Text × Value) :=
  if entry.2 then some (entry.1.name, entry.1.dump suppliedOnly)
  else if !suppliedOnly && !entry.1.value.isNone then some (entry.1.name, entry.1.written)
  else none

namespace Model

variable {m : Model Shape} {filled : List Filled} {loose : List (Slot Value)}

theorem dumpWith_build (nodup : (filled.map (·.1.name) ++ loose.map Slot.name).Nodup) {suppliedOnly : Bool}
    {write : Slot Value → Option Value}
    (fields : ∀ entry ∈ filled, (m.build filled loose).writtenAs suppliedOnly write entry.1 =
      Filled.writtenAs? suppliedOnly entry)
    (extra : ∀ slot ∈ loose, write slot = some (slot.dump suppliedOnly)) :
    (m.build filled loose).dumpWith suppliedOnly write = .map (Value.keyed
      (filled.filterMap (Filled.writtenAs? suppliedOnly) ++
        loose.map fun slot => (slot.name, slot.dump suppliedOnly))) := by
  have slots : (m.build filled loose).slots = filled.map (·.1) ++ loose := rfl
  have distinct : ((m.build filled loose).slots.map Slot.name).Nodup := by
    rw [slots, List.map_append, List.map_map]
    exact nodup
  rw [Instance.dumpWith_eq distinct, slots, List.filterMap_append, List.filterMap_map]
  refine congrArg (fun pairs => Value.map (Value.keyed pairs)) (congrArg₂ (· ++ ·) (List.filterMap_congr fields) ?_)
  rw [← List.filterMap_eq_map]
  refine List.filterMap_congr fun slot member => ?_
  rw [Instance.writtenAs, contains_supplied_of_loose member, Bool.not_true, Bool.and_false,
    if_neg Bool.false_ne_true, extra slot member]
  rfl

theorem fields_build_append (nodup : (filled.map (·.1.name) ++ loose.map Slot.name).Nodup) (suppliedOnly : Bool) :
    (m.build filled loose).fields suppliedOnly = .map (Value.keyed (filled.filterMap (Filled.writtenAs? suppliedOnly) ++
      loose.map fun slot => (slot.name, slot.dump suppliedOnly))) := by
  cases suppliedOnly with
  | true =>
    refine dumpWith_build nodup (fun entry member => ?_) fun _ _ => rfl
    rw [Instance.writtenAs, contains_supplied_of_filled nodup member, Filled.writtenAs?]
    cases entry.2 <;> rfl
  | false =>
    refine dumpWith_build nodup (fun entry member => ?_) fun slot member => ?_
    · rw [Instance.writtenAs, contains_supplied_of_filled nodup member, Filled.writtenAs?]
      cases entry.2 <;> cases entry.1.value.isNone <;> rfl
    · rw [contains_supplied_of_loose member]
      rfl

end Model

end TypedPath
