import TypedPath.Failure
import TypedPath.Schema.Relaxed
import TypedPath.Schema.Validation
import TypedPath.Validator.Merge
import TypedPath.Value.Dump

namespace TypedPath

/-- A rejection lists issues; a breakdown lists none. -/
inductive Refusal
  | rejected (rejection : Rejection)
  | broken (breakdown : Breakdown)

abbrev Verdict := Except Refusal Value

structure Custom where
  name : Text
  run : Value → Verdict

/-- With `suppliedOnly`, a model gives back exactly the fields that were supplied. -/
inductive Validator
  | model (m : Model Shape) (suppliedOnly : Bool)
  | adapter (shape : Shape)
  | stringify
  | both (left right : Validator)
  | custom (c : Custom)

namespace Refusal

def ofSetback (origin : Origin) : Setback → Refusal
  | .issues issues => .rejected ⟨issues, origin⟩
  | .breakdown breakdown => .broken breakdown

def ofSchema {α : Type} (outcome : Outcome α) : Except Refusal α :=
  outcome.mapError (ofSetback .schema)

def ofCheck {α : Type} (outcome : Outcome α) : Except Refusal α :=
  outcome.mapError (ofSetback .check)

def ofSides (results : Nat) : List Issue → Refusal
  | [] => .broken (.unpaired results)
  | issues => .rejected ⟨issues, .check⟩

theorem ofSides_of_ne_nil {results : Nat} {issues : List Issue} (some : issues ≠ []) :
    ofSides results issues = .rejected ⟨issues, .check⟩ := by
  cases issues with
  | nil => exact absurd rfl some
  | cons issue issues => rfl

end Refusal

def Instance.fields (suppliedOnly : Bool) (r : Instance Value) : Value :=
  if suppliedOnly then r.dump true
  else r.dumpWith false fun slot =>
    if r.supplied.contains slot.name || !slot.value.isNone then some slot.written else none

def Model.input (m : Model Shape) (value : Value) : Value :=
  match value with
  | .record r => if m.holds r then value else r.dump true
  | _ => value

def Model.run (m : Model Shape) (suppliedOnly : Bool) (value : Value) : Verdict :=
  (Refusal.ofSchema (m.validate (m.input value))).map (Instance.fields suppliedOnly)

namespace Stringify

def shape : Shape := .mapping .text .any

def input (value : Value) : Value :=
  match value with
  | .record r => r.dump true
  | _ => value

def scalarText : Value → Text
  | .bool b => if b then "true" else "false"
  | value => value.toText

def containerIssue? (entry : Value × Value) : Option Issue :=
  if entry.2.isContainer then some ⟨.notSingle, some [entry.1], some entry.2⟩ else none

def written? (entry : Value × Value) : Option (Value × Value) :=
  if entry.2.isNone then none else some (entry.1, .text (scalarText entry.2))

def entries (checked : List (Value × Value)) : Outcome Value :=
  match checked.filterMap containerIssue? with
  | [] =>
    if checked.all (·.2.isWritable) then .ok (.map (checked.filterMap written?))
    else .broken .oversized
  | issues => .error (.issues issues)

def run (value : Value) : Verdict :=
  match Refusal.ofSchema (shape.validate (input value)) with
  | .ok (.map checked) => Refusal.ofCheck (entries checked)
  | .ok other => .ok other
  | .error refusal => .error refusal

end Stringify

namespace Validator

def combine (left right : Verdict) : Verdict :=
  match left, right with
  | .error (.broken breakdown), _ => .error (.broken breakdown)
  | _, .error (.broken breakdown) => .error (.broken breakdown)
  | .error (.rejected a), .error (.rejected b) => .error (.ofSides 0 (a.issues ++ b.issues))
  | .error (.rejected a), .ok _ => .error (.ofSides 1 a.issues)
  | .ok _, .error (.rejected b) => .error (.ofSides 1 b.issues)
  | .ok a, .ok b => Refusal.ofCheck (Merge.values a b)

def validate : Validator → Value → Verdict
  | .model m suppliedOnly, value => m.run suppliedOnly value
  | .adapter shape, value => Refusal.ofSchema (shape.validate value)
  | .stringify, value => Stringify.run value
  | .both left right, value => combine (left.validate value) (right.validate value)
  | .custom c, value => c.run value

def relaxed : Validator → Except Failure Validator
  | .model m _ => match m.relaxed with
    | .ok relaxed => .ok (.model relaxed true)
    | .error reason => .error (.broken (.unhashable reason))
  | .both left right => do return .both (← left.relaxed) (← right.relaxed)
  | other => .ok other

def className : Validator → Text
  | .model _ _ => "ModelValidator"
  | .adapter _ => "AdapterValidator"
  | .stringify => "StringifyValidator"
  | .both _ _ => "IntersectionValidator"
  | .custom c => c.name

def shown : Validator → Text
  | .model m _ => "ModelValidator(" ++ m.name ++ ")"
  | .adapter shape => "AdapterValidator(" ++ shape.shown ++ ")"
  | .stringify => "StringifyValidator()"
  | .both left right => "(" ++ left.shown ++ " & " ++ right.shown ++ ")"
  | .custom c => c.name ++ "()"

end Validator

inductive ParseResult
  | ok (data : Value)
  | fail (failure : Failure)

namespace ParseResult

def shown : ParseResult → Text
  | .ok data => "ParseResult(success=True, data=" ++ data.shown ++ ")"
  | .fail failure => "ParseResult(success=False, error=" ++ failure.shown ++ ")"

def same : ParseResult → ParseResult → Bool
  | .ok a, .ok b => a.sameMember b
  | .fail a, .fail b => a.same b
  | _, _ => false

def signals : ParseResult → ParseResult → Bool
  | .ok a, .ok b => !a.isIdentical b && a.signals b
  | .fail a, .fail b => a.signals b
  | _, _ => false

def ofVerdict : Verdict → Except Failure ParseResult
  | .ok data => .ok (.ok data)
  | .error (.rejected rejection) => .ok (.fail (.rejected rejection))
  | .error (.broken breakdown) => .error (.broken breakdown)

end ParseResult

def Validator.safeParse (validator : Validator) (value : Value) : Except Failure ParseResult :=
  ParseResult.ofVerdict (validator.validate value)

def Validator.parse (validator : Validator) (value : Value) : Except Failure Value :=
  match validator.validate value with
  | .ok data => .ok data
  | .error (.rejected rejection) => .error (.rejected rejection)
  | .error (.broken breakdown) => .error (.broken breakdown)

end TypedPath
