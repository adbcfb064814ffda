import TypedPath.Proofs.Number.WholeNumber
import TypedPath.Proofs.Pattern.Built
import TypedPath.Proofs.Route.Basic
import TypedPath.Proofs.Validator.Repetition

namespace TypedPath

namespace Text

theorem join_singleton (separator text : Text) : join separator [text] = text := List.intercalate_singleton

theorem join_cons_cons (separator : Char) (text tail : Text) (tails : List Text) :
    join [separator] (text :: tail :: tails) = join [separator] ((text ++ separator :: tail) :: tails) := by
  unfold join
  rw [List.intercalate_cons_of_ne_nil (List.cons_ne_nil _ _)]
  cases tails with
  | nil => rw [List.intercalate_singleton, List.intercalate_singleton, List.append_assoc, List.singleton_append]
  | cons next tails =>
    rw [List.intercalate_cons_of_ne_nil (List.cons_ne_nil _ _), List.intercalate_cons_of_ne_nil (List.cons_ne_nil _ _)]
    simp only [List.append_assoc, List.cons_append, List.nil_append]

end Text

theorem Pattern.names_compile_sublist (text : Text) (tails : List Text) :
    (compile text).names.Sublist (compile (Text.join [separator] (text :: tails))).names := by
  induction tails generalizing text with
  | nil =>
    have alone : Text.join [separator] [text] = text := Text.join_singleton _ _
    exact alone.symm ▸ List.Sublist.refl _
  | cons tail tails ih =>
    rw [Text.join_cons_cons]
    refine List.Sublist.trans ?_ (ih _)
    rw [← compile_append_compile, append_names]
    exact List.sublist_append_left _ _

def Schema.IsUsable (schema : Schema) : Prop := ∃ validator, schema.toValidator = .ok validator

/-- A tail to extend a route by, with the default for formatting. -/
structure Extension where
  tail : Text
  schema : Schema
  exact : Option Bool

def Extension.wholeText (base : Text) (extensions : List Extension) : Text :=
  Text.join [Pattern.separator] (base :: extensions.map Extension.tail)

namespace Route

open Extension (wholeText)

def extendBy (route : Route) (extension : Extension) : Except Failure Route :=
  route.extend extension.tail ⟨extension.schema, none, none⟩ extension.exact

def chain (base : Text) (schema : Schema) (exact : Bool) (extensions : List Extension) : Except Failure Route := do
  let route ← build (.compile base) ⟨schema, none, none⟩ exact
  extensions.foldlM extendBy route

/-- The route for this text that formats by the default, with so many more defaults after it. -/
structure IsRepeated (text : Text) (more : Nat) (route : Route) : Prop where
  pattern : route.pattern = .compile text
  formatSchema : route.formatSchema = .repeated more
  relaxedSchema : route.relaxedSchema = .repeated more

variable {route : Route} {text : Text} {more : Nat} {schema : Schema}

theorem build_of_nodup (usable : schema.IsUsable) (exact : Bool) (nodup : (Pattern.compile text).names.Nodup) :
    ∃ route, build (.compile text) ⟨schema, none, none⟩ exact = .ok route ∧ route.IsRepeated text 0 := by
  obtain ⟨validator, validates⟩ := usable
  unfold build
  rw [dif_pos nodup, validates]
  exact ⟨_, rfl, rfl, rfl, rfl⟩

theorem IsRepeated.extendBy_eq (isRepeated : route.IsRepeated text more) {extension : Extension}
    (usable : extension.schema.IsUsable) :
    ((Pattern.compile (text ++ Pattern.separator :: extension.tail)).names.Nodup → ∃ joint,
        route.extendBy extension = .ok joint ∧
          joint.IsRepeated (text ++ Pattern.separator :: extension.tail) (more + 1)) ∧
      (¬ (Pattern.compile (text ++ Pattern.separator :: extension.tail)).names.Nodup → ∃ names pattern,
        route.extendBy extension = .error (.repeatedNames names pattern)) := by
  obtain ⟨validator, validates⟩ := usable
  have step : route.extendBy extension =
      route.joined (.compile extension.tail) validator .stringify .stringify extension.exact := by
    unfold extendBy extend
    simp only [validates]
    rfl
  have whole : route.pattern ++ .compile extension.tail =
      .compile (text ++ Pattern.separator :: extension.tail) := by
    rw [isRepeated.pattern, Pattern.compile_append_compile]
  rw [step]
  unfold joined
  rw [← whole]
  constructor
  · intro nodup
    refine ⟨_, dif_pos nodup, whole, ?_, ?_⟩
    · rw [Validator.repeated, ← isRepeated.formatSchema]
    · rw [Validator.repeated, ← isRepeated.relaxedSchema]
  · intro repeated
    exact ⟨_, _, dif_neg repeated⟩

/-- The run: the patterns grow, and one that has a name twice is never made good again. -/
theorem IsRepeated.foldlM_extendBy (isRepeated : route.IsRepeated text more) {extensions : List Extension}
    (usable : ∀ extension ∈ extensions, extension.schema.IsUsable) :
    ((Pattern.compile (wholeText text extensions)).names.Nodup → ∃ joint,
        extensions.foldlM extendBy route = .ok joint ∧
          joint.IsRepeated (wholeText text extensions)
            (more + extensions.length)) ∧
      (¬ (Pattern.compile (wholeText text extensions)).names.Nodup →
        ∃ names pattern, extensions.foldlM extendBy route = .error (.repeatedNames names pattern)) := by
  induction extensions generalizing route text more with
  | nil =>
    have nodup : (Pattern.compile text).names.Nodup := isRepeated.pattern ▸ route.names_nodup
    have whole : wholeText text [] = text := Text.join_singleton _ _
    rw [whole]
    exact ⟨fun _ => ⟨route, rfl, isRepeated⟩, fun repeated => absurd nodup repeated⟩
  | cons extension extensions ih =>
    obtain ⟨first, later⟩ := List.forall_mem_cons.mp usable
    obtain ⟨accepts, refuses⟩ := isRepeated.extendBy_eq first
    have whole : wholeText text (extension :: extensions) =
        wholeText (text ++ Pattern.separator :: extension.tail) extensions := Text.join_cons_cons _ _ _ _
    rw [whole, List.foldlM_cons]
    by_cases nodup : (Pattern.compile (text ++ Pattern.separator :: extension.tail)).names.Nodup
    · obtain ⟨joint, extended, jointRepeated⟩ := accepts nodup
      rw [extended, List.length_cons, Nat.add_comm extensions.length 1, ← Nat.add_assoc]
      exact ih jointRepeated later
    · obtain ⟨names, pattern, refused⟩ := refuses nodup
      rw [refused]
      exact ⟨fun whole => absurd (whole.sublist (Pattern.names_compile_sublist _ _)) nodup,
        fun _ => ⟨names, pattern, rfl⟩⟩

/-- What two routes give by a verdict of the default. What it makes of the values is filled into the pattern by
    both; its issues are told by the second route `count` times over, and its breakdown ends both. -/
inductive Agrees (count : Nat) (pattern : Text) (fill : Assignment → Except Failure Text) :
    Verdict → Except Failure Text → Except Failure Text → Prop
  | filled (texts : List (Value × Value)) :
    Agrees count pattern fill (.ok (.map texts)) (fill (.ofEntries texts)) (fill (.ofEntries texts))
  | rejected {once whole : Rejection} (same : whole.issues = (List.replicate count once.issues).flatten) :
    Agrees count pattern fill (.error (.rejected once)) (.error (.format (.rejected pattern once)))
      (.error (.format (.rejected pattern whole)))
  | broken (breakdown : Breakdown) :
    Agrees count pattern fill (.error (.broken breakdown)) (.error (.broken breakdown)) (.error (.broken breakdown))

structure AgreeOn (count : Nat) (pattern : Pattern) (params : Value) (flat route : Route) : Prop where
  format : Agrees count pattern.text
    (fun values => (pattern.fill values).mapError fun missing => .format (.missing missing.name pattern.text))
    (Validator.stringify.validate params) (flat.format params) (route.format params)
  specialize : Agrees count pattern.text (fun values => .ok (pattern.specialize values))
    (Validator.stringify.validate params) (flat.specialize params) (route.specialize params)

section Agrees

variable {flat : Route} {count : Nat} {params : Value} {once whole : Verdict} {first second : Validator}
  {pattern : Pattern} {write fill : Assignment → Except Failure Text}

theorem agrees_of_repeats (produces : Stringify.Produces once) (repeats : Verdict.Repeats count once whole)
    (fills : ∀ pairs : List (Text × Value), (∀ pair ∈ pairs, pair.2.isWritable = true) →
      write (.ofEntries (Value.keyed pairs)) = fill (.ofEntries (Value.keyed pairs)))
    (isOnce : first.validate params = once) (isWhole : second.validate params = whole) :
    Agrees count pattern.text fill once (inverse first pattern params >>= write)
      (inverse second pattern params >>= write) := by
  unfold inverse
  rw [isOnce, isWhole]
  cases repeats with
  | rejected same => exact .rejected same
  | broken breakdown => exact .broken breakdown
  | accepted entries =>
    cases produces with
    | @written pairs distinct texts =>
      have writable : ∀ pair ∈ pairs, pair.2.isWritable = true := by
        intro pair member
        obtain ⟨t, isText⟩ := texts pair member
        rw [isText]
        rfl
      show Agrees count pattern.text fill _ (write _) (write _)
      rw [fills pairs writable]
      exact .filled _

theorem IsRepeated.agreeOn (isRepeated : route.IsRepeated text more) (isFlat : flat.IsRepeated text 0)
    (params : Value) : AgreeOn (more + 1) (.compile text) params flat route := by
  have produces := Stringify.produces_run params
  have repeats := Validator.repeats_repeated more params
  constructor
  · unfold format
    rw [isRepeated.pattern, isFlat.pattern, isRepeated.formatSchema, isFlat.formatSchema]
    exact agrees_of_repeats produces repeats (fun pairs writable => Pattern.write_of_writable writable _) rfl rfl
  · unfold specialize
    rw [isRepeated.pattern, isFlat.pattern, isRepeated.relaxedSchema, isFlat.relaxedSchema]
    exact agrees_of_repeats produces repeats (fun pairs writable => Pattern.writePart_of_writable writable _) rfl rfl

end Agrees

/-- Extending a route again and again fails just when the whole pattern has a name twice. Otherwise the route
    that comes out formats as the route for the whole pattern does: both fill in what the default makes of the
    values, or both tell what is wrong with them, the extended one once for each part. -/
theorem chain_flat (base : Text) (schema : Schema) (exact : Bool) (extensions : List Extension)
    (usable : schema.IsUsable) (allUsable : ∀ extension ∈ extensions, extension.schema.IsUsable) :
    ((∃ names pattern, chain base schema exact extensions = .error (.repeatedNames names pattern)) ↔
        ¬ (Pattern.compile (wholeText base extensions)).names.Nodup) ∧
      ((Pattern.compile (wholeText base extensions)).names.Nodup →
        ∃ route, chain base schema exact extensions = .ok route ∧
          route.pattern = .compile (wholeText base extensions) ∧
          ∀ flatSchema : Schema, flatSchema.IsUsable → ∀ flatExact, ∃ flat,
            build (.compile (wholeText base extensions))
                ⟨flatSchema, none, none⟩ flatExact = .ok flat ∧
              ∀ params, AgreeOn (extensions.length + 1) (.compile (wholeText base extensions)) params flat
                route) := by
  unfold chain
  by_cases baseNodup : (Pattern.compile base).names.Nodup
  · obtain ⟨first, built, isFirst⟩ := build_of_nodup usable exact baseNodup
    obtain ⟨accepts, refuses⟩ := isFirst.foldlM_extendBy allUsable
    rw [built]
    refine ⟨⟨fun ⟨names, pattern, refused⟩ nodup => ?_, refuses⟩, fun nodup => ?_⟩
    · obtain ⟨route, extended, _⟩ := accepts nodup
      cases extended.symm.trans refused
    · obtain ⟨route, extended, isRepeated⟩ := accepts nodup
      rw [Nat.zero_add] at isRepeated
      refine ⟨route, extended, isRepeated.pattern, fun flatSchema flatUsable flatExact => ?_⟩
      obtain ⟨flat, flatBuilt, isFlat⟩ := build_of_nodup flatUsable flatExact nodup
      exact ⟨flat, flatBuilt, isRepeated.agreeOn isFlat⟩
  · have repeated : ¬ (Pattern.compile (wholeText base extensions)).names.Nodup := fun nodup =>
      baseNodup (nodup.sublist (Pattern.names_compile_sublist base _))
    have refused : build (.compile base) ⟨schema, none, none⟩ exact = _ := dif_neg baseNodup
    rw [refused]
    exact ⟨iff_of_true ⟨_, _, rfl⟩ repeated, fun nodup => absurd nodup repeated⟩

theorem isUsable_any : (Schema.shape .any).IsUsable := ⟨.adapter .any, rfl⟩

theorem chain_flat_tab :
    ∃ route flat, chain "/a/:id" (.shape .any) true [⟨":tab?", .shape .any, none⟩, ⟨"b", .shape .any, some false⟩] =
        .ok route ∧ build (.compile "/a/:id/:tab?/b") ⟨.shape .any, none, none⟩ true = .ok flat ∧
      route.pattern = .compile "/a/:id/:tab?/b" ∧
      AgreeOn 3 (.compile "/a/:id/:tab?/b") (.map [(.text "id", .list [])]) flat route := by
  obtain ⟨route, made, pattern, agrees⟩ := (chain_flat "/a/:id" (.shape .any) true
    [⟨":tab?", .shape .any, none⟩, ⟨"b", .shape .any, some false⟩] isUsable_any
    (List.forall_mem_cons.mpr ⟨isUsable_any, List.forall_mem_singleton.mpr isUsable_any⟩)).2 (by decide)
  obtain ⟨flat, built, formats⟩ := agrees (.shape .any) isUsable_any true
  exact ⟨route, flat, made, built, pattern, formats _⟩

/-- A number with one digit too many breaks both routes down: neither gives a path or tells of an issue. -/
theorem long_not_formatted :
    ∃ route flat, chain "/:a" (.shape .any) true [⟨"b", .shape .any, none⟩] = .ok route ∧
      build (.compile "/:a/b") ⟨.shape .any, none, none⟩ true = .ok flat ∧
      let params : Value := .map (Value.keyed [("a", .int WholeNumber.leastLong)])
      ¬ ((∃ path, flat.format params = .ok path ∧ route.format params = .ok path) ∨
        ∃ one other, flat.format params = .error (.format one) ∧ route.format params = .error (.format other)) := by
  let extensions : List Extension := [⟨"b", .shape .any, none⟩]
  have usable : ∀ extension ∈ extensions, extension.schema.IsUsable := List.forall_mem_singleton.mpr isUsable_any
  have startNodup : (Pattern.compile "/:a").names.Nodup := by decide
  have wholeNodup : (Pattern.compile "/:a/b").names.Nodup := by decide
  obtain ⟨first, firstBuilt, isFirst⟩ := build_of_nodup isUsable_any true startNodup
  obtain ⟨flat, flatBuilt, isFlat⟩ := build_of_nodup isUsable_any true wholeNodup
  obtain ⟨route, extended, isRepeated⟩ := (isFirst.foldlM_extendBy usable).1 wholeNodup
  have made : chain "/:a" (.shape .any) true [⟨"b", .shape .any, none⟩] = .ok route := by
    unfold chain
    rw [firstBuilt]
    exact extended
  refine ⟨route, flat, made, flatBuilt, ?_⟩
  intro params
  have agrees := (isRepeated.agreeOn isFlat params).format
  have stopped : Validator.stringify.validate params = .error (.broken .oversized) :=
    Stringify.run_keyed_of_long (List.pairwise_singleton _ _) (List.forall_mem_singleton.mpr rfl)
      fun short => absurd (short _ List.mem_cons_self) (Bool.eq_false_iff.mp WholeNumber.isWritable_leastLong)
  rw [stopped] at agrees
  generalize flat.format params = one, route.format params = other at agrees
  cases agrees
  rintro (⟨_, failed, _⟩ | ⟨_, _, failed, _⟩) <;> cases failed

end Route

end TypedPath
