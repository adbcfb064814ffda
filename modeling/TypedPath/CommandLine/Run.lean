import TypedPath.CommandLine.Arguments
import TypedPath.CommandLine.Json
import TypedPath.CommandLine.Terminal
import TypedPath.Route.Session

namespace TypedPath

structure Report where
  exitCode : Nat
  output : Text
  errors : Text
deriving DecidableEq, Repr

namespace CommandLine

def rawSchema : Schema := .validator (.adapter (.mapping .text .text))

def rawSchemas : RouteSchemas := ⟨rawSchema, some rawSchema, none⟩

def line (text : Text) : Text := text ++ ['\n']

def printed (text : Text) : Text := line (Terminal.plain text)

def route (pattern : Text) (exact : Bool) : Session Route := do
  Route.build (← Session.compile pattern) rawSchemas exact

def assignment? (argument : Text) : Option (Text × Text) :=
  match Text.cut? '=' argument with
  | some ([], _) => none
  | found => found

def assignments (given : Bindings) : List Text → Except Text Bindings
  | [] => .ok given
  | argument :: rest =>
    match assignment? argument with
    | some (name, text) => assignments (given.bind name text) rest
    | none => .error argument

abbrev Answer := Except Text Text

def matching (pattern path : Text) (exact : Bool) : Session Answer := do
  let route ← route pattern exact
  match ← Session.matchPath route.pattern route.exact path with
  | some bindings => return .ok (printed (Json.object bindings))
  | none =>
    return .error (Text.quoted path ++ " doesn't match pattern " ++ Text.quoted pattern ++ ".")

def formatting (pattern : Text) (arguments : List Text) (partly : Bool) : Session Answer := do
  let route ← route pattern true
  match assignments [] arguments with
  | .error argument => return .error ("expected NAME=VALUE, got " ++ Text.quoted argument ++ ".")
  | .ok given =>
    let path ← if partly then route.specialize given.toValue else route.format given.toValue
    return .ok (printed path)

def segmentLine (segment : Segment) : Text :=
  printed (segment.kind.label ++
    '\t' :: if segment.isParam then segment.name else segment.literal)

def listing (pattern : Text) : Session Answer := do
  let compiled ← Session.compile pattern
  return .ok (compiled.segments.flatMap segmentLine)

def answer : Command → Session Answer
  | .matchPath pattern path exact => matching pattern path exact
  | .format pattern arguments partly => formatting pattern arguments partly
  | .segments pattern => listing pattern

def journalLines (verbose : Bool) (state : SessionState) : Text :=
  if verbose then state.messages.flatMap fun message => line ("routeschema: " ++ message) else []

def report (invocation : Invocation) : Report :=
  let (result, state) := (answer invocation.command).run .start
  let journal := journalLines invocation.verbose state
  let complaint (text : Text) : Report := ⟨1, [], journal ++ printed ("Error: " ++ text)⟩
  match result with
  | .ok (.ok output) => ⟨0, output, journal⟩
  | .ok (.error text) => complaint text
  | .error failure => complaint failure.message

def usage : Text := "Usage: [--verbose] match|format|segments PATTERN ...\n"

def run (arguments : List Text) : Report :=
  match invocation? false arguments with
  | some invocation => report invocation
  | none => ⟨2, [], usage⟩

end CommandLine

end TypedPath
