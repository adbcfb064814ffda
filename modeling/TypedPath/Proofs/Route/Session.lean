import TypedPath.Proofs.Pattern.Cache
import TypedPath.Route.Session

namespace TypedPath

namespace Session

theorem run_bind {α β : Type} (first : Session α) (next : α → Session β) (state : SessionState) :
    (first >>= next).run state = match first.run state with
      | (.ok a, later) => (next a).run later
      | (.error failure, later) => (.error failure, later) := by
  unfold run
  rw [ExceptT.run_bind, StateT.run_bind]
  show (match (StateT.run (ExceptT.run first) state) with | (a, s) => _) = _
  rcases StateT.run (ExceptT.run first) state with ⟨failure | a, later⟩ <;> rfl

theorem ok_bind {α β : Type} (a : α) (next : α → Except Failure β) : (Except.ok a >>= next) = next a :=
  rfl

theorem run_lift {α : Type} (outcome : Except Failure α) (state : SessionState) :
    (liftM outcome : Session α).run state = (outcome, state) := by
  cases outcome <;> rfl

theorem safeParse_result (validator : Validator) (value : Value) (state : SessionState) :
    ((safeParse validator value).run state).1 = validator.safeParse value := by
  unfold safeParse Session.run
  cases validator.safeParse value with
  | error failure => rfl
  | ok result =>
    rcases result with data | failure
    · rfl
    · cases failure <;> rfl

theorem parsePath_result (route : Route) (path : Text) (state : SessionState) :
    ((parsePath route path).run state).1 = route.safeParse path := by
  unfold parsePath Route.safeParse Route.matchPath matchPath
  cases route.pattern.matchPath route.exact path with
  | error mismatch => rfl
  | ok bound => exact safeParse_result route.schema bound.toValue state

/-- What is noted down on the way changes nothing of what is parsed. -/
theorem parse_result (route : Route) (path : Text) (state : SessionState) :
    ((parse route path).run state).1 = route.parse path := by
  have parsed := parsePath_result route path state
  unfold parse Route.parse
  rw [run_bind, ← parsed]
  rcases (parsePath route path).run state with ⟨failure | result, later⟩
  · rfl
  · cases result <;> rfl

theorem run_fetch (text : Text) (state : SessionState) :
    (fetch text).run state =
      (.ok ((state.cache.compile text).1, (state.cache.compile text).2.1),
        { cache := (state.cache.compile text).2.2
          events := if (state.cache.compile text).2.1 then state.events
            else .compiled text (state.cache.compile text).1.pattern.segments.length :: state.events }) := by
  have fetched : (fetch text).run state =
      (do
        set { state with cache := (state.cache.compile text).2.2 }
        unless (state.cache.compile text).2.1 do
          note (.compiled text (state.cache.compile text).1.pattern.segments.length)
        return ((state.cache.compile text).1, (state.cache.compile text).2.1) : Session (Compilation × Bool)).run
          state := rfl
  rw [fetched]
  cases (state.cache.compile text).2.1 <;> rfl

theorem compile_result (text : Text) {state : SessionState} (faithful : state.cache.IsFaithful) :
    ∃ later, (compile text).run state = (.ok (Pattern.compile text), later) ∧ later.cache.IsFaithful := by
  obtain ⟨compiled, kept⟩ := faithful.compile text
  unfold compile
  rw [run_bind, run_fetch, ← compiled]
  exact ⟨_, rfl, kept⟩

/-- A route is extended as it is without a cache. -/
theorem extend_result (route : Route) (tail : Text) (schemas : RouteSchemas) (exact : Option Bool)
    {state : SessionState} (faithful : state.cache.IsFaithful) :
    ((extend route tail schemas exact).run state).1 = route.extend tail schemas exact ∧
      ((extend route tail schemas exact).run state).2.cache.IsFaithful := by
  obtain ⟨later, compiled, kept⟩ := compile_result tail faithful
  unfold extend Route.extend
  rw [run_bind, run_lift]
  cases schemas.format with
  | error failure => exact ⟨rfl, faithful⟩
  | ok format =>
    rw [ok_bind]
    dsimp only
    rw [run_bind, run_lift]
    cases schemas.relaxed format with
    | error failure => exact ⟨rfl, faithful⟩
    | ok relaxed =>
      rw [ok_bind]
      dsimp only
      rw [run_bind, compiled]
      dsimp only
      rw [run_bind, run_lift]
      cases schemas.schema.toValidator with
      | error failure => exact ⟨rfl, kept⟩
      | ok schema =>
        rw [ok_bind]
        dsimp only
        rw [run_bind, run_lift]
        cases route.joined (Pattern.compile tail) schema format relaxed exact with
        | error failure => exact ⟨rfl, kept⟩
        | ok extension => exact ⟨rfl, kept⟩

end Session

end TypedPath
