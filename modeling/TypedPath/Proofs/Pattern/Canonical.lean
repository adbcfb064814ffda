import TypedPath.Proofs.Pattern.Specialization

namespace TypedPath

namespace Segment

/-- No marker stands in the text of a segment where it would be read as a marker. -/
structure IsCanonical (segment : Segment) : Prop where
  enclosed : Pattern.separator ∉ segment.literal ++ segment.name
  static : segment.kind = .static → segment.literal.head? ≠ some ':' ∧ segment.literal.getLast? ≠ some '?'
  optionalStatic : segment.kind = .optionalStatic → segment.literal.head? ≠ some ':'
  param : segment.kind = .param → segment.name.getLast? ≠ some '?'
  unused : if segment.isParam then segment.literal = [] else segment.name = []

theorem ofBody_of_head {body : Text} (literal : body.head? ≠ some ':') (optional : Bool) :
    ofBody optional body = ⟨if optional then .optionalStatic else .static, body, []⟩ := by
  unfold ofBody
  split
  · exact absurd rfl literal
  · rfl

theorem ofComponent_append (body : Text) : ofComponent (body ++ ['?']) = ofBody true body := by
  rw [ofComponent, if_pos (by simp), List.dropLast_concat]

theorem ofComponent_of_getLast {component : Text} (unmarked : component.getLast? ≠ some '?') :
    ofComponent component = ofBody false component := if_neg unmarked

theorem getLast?_param_iff {name : Text} : (':' :: name).getLast? = some '?' ↔ name.getLast? = some '?' := by
  rw [List.getLast?_cons]
  cases name.getLast? <;> simp

theorem isCanonical_ofBody {optional : Bool} {body : Text} (enclosed : Pattern.separator ∉ body)
    (unmarked : optional = false → body.getLast? ≠ some '?') : (ofBody optional body).IsCanonical := by
  by_cases param : body.head? = some ':'
  · obtain ⟨name, rfl⟩ := List.head?_eq_some_iff.mp param
    have inside : Pattern.separator ∉ name := fun member => enclosed (List.mem_cons_of_mem _ member)
    cases optional with
    | true => exact ⟨inside, nofun, nofun, nofun, rfl⟩
    | false => exact ⟨inside, nofun, nofun, fun _ marked => unmarked rfl (getLast?_param_iff.mpr marked), rfl⟩
  · rw [ofBody_of_head param]
    have inside : Pattern.separator ∉ body ++ [] := (List.append_nil body).symm ▸ enclosed
    cases optional with
    | true => exact ⟨inside, nofun, fun _ => param, nofun, rfl⟩
    | false => exact ⟨inside, fun _ => ⟨param, unmarked rfl⟩, nofun, nofun, rfl⟩

theorem isCanonical_ofComponent {component : Text} (enclosed : Pattern.separator ∉ component) :
    (ofComponent component).IsCanonical := by
  unfold ofComponent
  split
  · exact isCanonical_ofBody (fun member => enclosed (List.dropLast_subset _ member)) nofun
  · rename_i unmarked
    exact isCanonical_ofBody enclosed fun _ => unmarked

theorem IsCanonical.isCompiled {segment : Segment} (canonical : segment.IsCanonical) : segment.IsCompiled := by
  obtain ⟨kind, literal, name⟩ := segment
  obtain ⟨enclosed, static, optionalStatic, param, unused⟩ := canonical
  -- by the definition of `token`, one case for each way of writing a segment
  cases kind with
  | static =>
    cases unused
    obtain ⟨noParam, unmarked⟩ := static rfl
    refine ⟨?_, fun member => enclosed (List.mem_append_left _ member)⟩
    exact (ofComponent_of_getLast unmarked).trans (ofBody_of_head noParam false)
  | optionalStatic =>
    cases unused
    refine ⟨(ofComponent_append literal).trans (ofBody_of_head (optionalStatic rfl) true), ?_⟩
    simpa [token, isParam, isOptional, Pattern.separator] using enclosed
  | param =>
    cases unused
    refine ⟨ofComponent_of_getLast fun marked => param rfl (getLast?_param_iff.mp marked), ?_⟩
    simpa [token, isParam, isOptional, Pattern.separator] using enclosed
  | optionalParam =>
    cases unused
    refine ⟨ofComponent_append (':' :: name), ?_⟩
    simpa [token, isParam, isOptional, Pattern.separator] using enclosed

/-- The canonical segments are those that components are compiled to. -/
theorem isCanonical_iff_isCompiled {segment : Segment} : segment.IsCanonical ↔ segment.IsCompiled := by
  refine ⟨IsCanonical.isCompiled, fun compiled => ?_⟩
  rw [← compiled.1]
  exact isCanonical_ofComponent compiled.2

end Segment

namespace Pattern

theorem join_token_compile (text : Text) :
    Text.join [separator] ((compile text).segments.map Segment.token) = text := by
  have again : Segment.token ∘ Segment.ofComponent = id := funext Segment.token_ofComponent
  unfold compile
  rw [List.map_map, again, List.map_id]
  exact List.intercalate_splitOn separator

theorem compile_same_compile_iff {left right : Text} : (compile left).same (compile right) = true ↔ left = right := by
  unfold same
  rw [decide_eq_true_iff]
  constructor
  · intro segments
    rw [← join_token_compile left, segments, join_token_compile]
  · exact fun texts => texts ▸ rfl

/-- Compiling is a bijection between texts and lists of canonical segments that are not empty, and it
    takes joined texts to joined patterns. -/
theorem compile_bijective :
    (∀ text, (compile text).segments ≠ [] ∧ (∀ segment ∈ (compile text).segments, segment.IsCanonical) ∧
      Text.join [separator] ((compile text).segments.map Segment.token) = text ∧ (compile text).text = text) ∧
    (∀ segments : List Segment, segments ≠ [] → (∀ segment ∈ segments, segment.IsCanonical) →
      (compile (Text.join [separator] (segments.map Segment.token))).segments = segments) ∧
    (∀ left right, (compile left).same (compile right) = true ↔ left = right) ∧
    ∀ left right, compile left ++ compile right = compile (left ++ separator :: right) := by
  refine ⟨fun text => ⟨compile_segments_ne_nil text, ?_, join_token_compile text, rfl⟩, ?_,
    fun _ _ => compile_same_compile_iff, compile_append_compile⟩
  · intro segment member
    exact Segment.isCanonical_iff_isCompiled.mpr ((Built.compiled text).isCompiled member)
  · intro segments some canonical
    exact segments_compile_join (fun segment member => (canonical segment member).isCompiled) some

example : (compile "//::x/a??/:?").segments =
    [⟨.static, [], []⟩, ⟨.static, [], []⟩, ⟨.param, [], ":x"⟩, ⟨.optionalStatic, "a?", []⟩,
      ⟨.optionalParam, [], []⟩] := by decide

end Pattern

end TypedPath
