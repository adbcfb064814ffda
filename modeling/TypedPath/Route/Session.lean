import TypedPath.Pattern.Cache
import TypedPath.Route.Journal

namespace TypedPath

structure SessionState where
  cache : PatternCache
  events : List Event

abbrev Session := ExceptT Failure (StateM SessionState)

namespace SessionState

def start : SessionState := ⟨.empty, []⟩

def messages (state : SessionState) : List Text := state.events.reverse.map Event.message

end SessionState

namespace Session

def run {α : Type} (session : Session α) (state : SessionState) :
    Except Failure α × SessionState :=
  StateT.run (ExceptT.run session) state

def note (event : Event) : Session Unit :=
  modify fun state => { state with events := event :: state.events }

def fetch (text : Text) : Session (Compilation × Bool) := do
  let state ← get
  let (compilation, held, cache) := state.cache.compile text
  set { state with cache := cache }
  unless held do note (.compiled text compilation.pattern.segments.length)
  return (compilation, held)

def compile (text : Text) : Session Pattern := return (← fetch text).1.pattern

def matchPath (pattern : Pattern) (exact : Bool) (path : Text) : Session (Option Bindings) := do
  match pattern.matchPath exact path with
  | .ok bindings => return some bindings
  | .error mismatch =>
    note (.mismatched path pattern.text mismatch)
    return none

def safeParse (validator : Validator) (value : Value) : Session ParseResult := do
  let result ← validator.safeParse value
  if let .fail (.rejected rejection) := result then
    note (.rejected validator value rejection.issues)
  return result

def extend (route : Route) (tail : Text) (schemas : RouteSchemas) (exact : Option Bool) :
    Session Route := do
  let format ← schemas.format
  let relaxed ← schemas.relaxed format
  let pattern ← compile tail
  let schema ← schemas.schema.toValidator
  let extension ← route.joined pattern schema format relaxed exact
  note (.extended route.pattern.text extension.pattern.text)
  return extension

def parsePath (route : Route) (path : Text) : Session ParseResult := do
  match ← matchPath route.pattern route.exact path with
  | some bindings => safeParse route.schema bindings.toValue
  | none => return .fail .mismatch

def parse (route : Route) (path : Text) : Session Value := do
  match ← parsePath route path with
  | .ok data => return data
  | .fail failure => throw failure

end Session

structure RoundTrip where
  data : Value
  path : Text
  again : Value
  specialized : Text

def Session.roundTrip (route : Route) (path : Text) : Session RoundTrip := do
  let data ← parse route path
  let written ← route.format data
  let again ← parse route written
  let specialized ← route.specialize data
  return ⟨data, written, again, specialized⟩

end TypedPath
