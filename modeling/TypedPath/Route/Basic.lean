import TypedPath.Pattern.Filling
import TypedPath.Pattern.Matching
import TypedPath.Validator.Schema

namespace TypedPath

structure Route where
  pattern : Pattern
  schema : Validator
  formatSchema : Validator
  relaxedSchema : Validator
  exact : Bool
  names_nodup : pattern.names.Nodup

structure RouteSchemas where
  schema : Schema
  formatSchema : Option Schema
  relaxedSchema : Option Schema

def Bindings.toValue (bindings : Bindings) : Value :=
  .map (bindings.map fun (name, text) => (.text name, .text text))

def Assignment.ofEntries (entries : List (Value × Value)) : Assignment :=
  fun name => Value.findText? name entries

namespace Pattern

/-- The path of the values, unless one of them is too long before one is missing. -/
def write (pattern : Pattern) (values : Assignment) : Except Failure Text :=
  if pattern.canFill values then
    (pattern.fill values).mapError fun missing => .format (.missing missing.name pattern.text)
  else .error (.broken .oversized)

def writePart (pattern : Pattern) (values : Assignment) : Except Failure Text :=
  if pattern.canSpecialize values then .ok (pattern.specialize values)
  else .error (.broken .oversized)

end Pattern

namespace RouteSchemas

def format (schemas : RouteSchemas) : Except Failure Validator :=
  match schemas.formatSchema with
  | some schema => schema.toValidator
  | none => .ok .stringify

def relaxed (schemas : RouteSchemas) (format : Validator) : Except Failure Validator :=
  match schemas.relaxedSchema with
  | some schema => schema.toValidator
  | none => format.relaxed

end RouteSchemas

namespace Route

def build (pattern : Pattern) (schemas : RouteSchemas) (exact : Bool) : Except Failure Route :=
  if distinct : pattern.names.Nodup then do
    let schema ← schemas.schema.toValidator
    let format ← schemas.format
    let relaxed ← schemas.relaxed format
    return ⟨pattern, schema, format, relaxed, exact, distinct⟩
  else .error (.repeatedNames pattern.repeatedNames pattern.text)

def joined (route : Route) (tail : Pattern) (schema format relaxed : Validator)
    (exact : Option Bool) : Except Failure Route :=
  let pattern := route.pattern ++ tail
  if distinct : pattern.names.Nodup then
    .ok {
      pattern
      schema := .both route.schema schema
      formatSchema := .both route.formatSchema format
      relaxedSchema := .both route.relaxedSchema relaxed
      exact := exact.getD route.exact
      names_nodup := distinct }
  else .error (.repeatedNames pattern.repeatedNames pattern.text)

def extend (route : Route) (tail : Text) (schemas : RouteSchemas) (exact : Option Bool) :
    Except Failure Route := do
  let format ← schemas.format
  let relaxed ← schemas.relaxed format
  let schema ← schemas.schema.toValidator
  route.joined (Pattern.compile tail) schema format relaxed exact

def matchPath (route : Route) (path : Text) : Except Mismatch Bindings :=
  route.pattern.matchPath route.exact path

def safeParse (route : Route) (path : Text) : Except Failure ParseResult :=
  match route.matchPath path with
  | .ok bindings => route.schema.safeParse bindings.toValue
  | .error _ => .ok (.fail .mismatch)

def parse (route : Route) (path : Text) : Except Failure Value :=
  match route.safeParse path with
  | .ok (.ok data) => .ok data
  | .ok (.fail failure) => .error failure
  | .error failure => .error failure

def inverse (validator : Validator) (pattern : Pattern) (params : Value) :
    Except Failure Assignment :=
  match validator.validate params with
  | .ok (.map entries) => .ok (.ofEntries entries)
  | .ok other => .error (.format (.notMapping validator.shown other.typeName))
  | .error (.rejected rejection) => .error (.format (.rejected pattern.text rejection))
  | .error (.broken breakdown) => .error (.broken breakdown)

def format (route : Route) (params : Value) : Except Failure Text := do
  let values ← inverse route.formatSchema route.pattern params
  route.pattern.write values

def specialize (route : Route) (params : Value) : Except Failure Text := do
  let values ← inverse route.relaxedSchema route.pattern params
  route.pattern.writePart values

def shown (route : Route) : Text :=
  "Route(" ++ Text.quoted route.pattern.text ++ ", " ++ route.schema.shown ++ ", exact=" ++
    Value.boolShown route.exact ++ ")"

end Route

end TypedPath
