import TypedPath.Pattern.Basic

namespace TypedPath

/-- A pattern that was compiled, or put together from such patterns. -/
inductive Pattern.Built : Pattern → Prop
  | compiled (text : Text) : (Pattern.compile text).Built
  | appended {left right : Pattern} (hl : left.Built) (hr : right.Built) : (left ++ right).Built

theorem Text.not_mem_of_mem_splitOn {separator : Char} {text part : Text}
    (member : part ∈ text.splitOn separator) : separator ∉ part := by
  induction text generalizing part with
  | nil =>
    simp only [List.splitOn_nil, List.mem_singleton] at member
    simp [member]
  | cons c text ih =>
    rw [List.splitOn_cons_eq_if_modifyHead] at member
    split at member
    · rcases List.mem_cons.mp member with rfl | member
      · exact List.not_mem_nil
      · exact ih member
    · rename_i other
      cases hs : text.splitOn separator with
      | nil => simp [hs] at member
      | cons head parts =>
        rw [hs] at ih member
        rcases List.mem_cons.mp member with rfl | member
        · intro found
          rcases List.mem_cons.mp found with same | found
          · exact other (by simp [same])
          · exact ih (List.mem_cons_self ..) found
        · exact ih (List.mem_cons_of_mem _ member)

namespace Segment

theorem ofBody_literal_subset (optional : Bool) (body : Text) : (ofBody optional body).literal ⊆ body := by
  unfold ofBody
  split
  · exact List.nil_subset _
  · exact List.Subset.refl _

theorem ofComponent_literal_subset (component : Text) : (ofComponent component).literal ⊆ component := by
  unfold ofComponent
  split
  · exact List.Subset.trans (ofBody_literal_subset ..) (List.dropLast_subset _)
  · exact ofBody_literal_subset ..

end Segment

namespace Pattern

theorem splitOn_join {parts : List Text} (some : parts ≠ []) (enclosed : ∀ part ∈ parts, separator ∉ part) :
    (Text.join [separator] parts).splitOn separator = parts :=
  List.splitOn_intercalate separator enclosed some

theorem compile_append_compile (left right : Text) :
    compile left ++ compile right = compile (left ++ separator :: right) := by
  change Pattern.mk _ _ = Pattern.mk _ _
  congr 1
  simp only [compile, List.splitOn_append_cons_self, List.map_append]

theorem Built.eq_compile {pattern : Pattern} (built : pattern.Built) : pattern = compile pattern.text := by
  induction built with
  | compiled text => rfl
  | appended _ _ ihl ihr =>
    rw [append_text, ← compile_append_compile, ← ihl, ← ihr]

theorem compile_segments_ne_nil (text : Text) : (compile text).segments ≠ [] := by
  simp [compile]

theorem Built.segments_ne_nil {pattern : Pattern} (built : pattern.Built) : pattern.segments ≠ [] := by
  rw [built.eq_compile]
  exact compile_segments_ne_nil _

theorem Built.separator_not_mem_literal {pattern : Pattern} (built : pattern.Built) {segment : Segment}
    (member : segment ∈ pattern.segments) : separator ∉ segment.literal := by
  rw [built.eq_compile] at member
  obtain ⟨component, found, rfl⟩ := List.mem_map.mp member
  exact fun inside => Text.not_mem_of_mem_splitOn found (Segment.ofComponent_literal_subset _ inside)

end Pattern

end TypedPath
