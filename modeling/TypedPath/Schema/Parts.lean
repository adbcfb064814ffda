import TypedPath.Schema.Outcome
import TypedPath.Value.Member
import TypedPath.Value.Writable

namespace TypedPath

namespace Value

def items? : Value → Option (List Value)
  | .list items | .tuple items | .set items _ => some items
  | .record r => some (r.slots.map fun slot => .tuple [.text slot.name, slot.value])
  | _ => Option.none

def asStep (key : Value) : Value :=
  let described : Value :=
    .text (if key.isWritable then key.shown else "<unprintable " ++ key.typeName ++ " object>")
  match key with
  | .text t => .text t
  | .int n => if isWord n then .int n else described
  | .bool b => .int (if b then 1 else 0)
  | _ => described

end Value

namespace Limits

def tooFew? (limits : Limits) (counted : Counted) (n : Nat) : Option Problem :=
  limits.shortest.bind fun least => if n < least then some (.tooShort counted least n) else none

def tooMany? (limits : Limits) (counted : Counted) (n : Nat) (found : Option Nat) :
    Option Problem :=
  limits.longest.bind fun most => if most < n then some (.tooLong counted most found) else none

end Limits

def validateItems (validate : Value → Outcome Value) (items : List Value) :
    Outcome (List Value) :=
  Outcome.gather (items.zipIdx.map fun (item, i) => (validate item).within (.int i))

def takesWhole (ofAnything : Bool) : Value → Bool
  | .list _ => ofAnything
  | _ => false

def readItems (validate : Value → Outcome Value) (ofAnything : Bool) (limits : Limits)
    (value : Value) (items : List Value) : Outcome Value :=
  let few := limits.tooFew? .list items.length
  let many := limits.tooMany? .list items.length value.length?
  let read := match limits.longest with
    | some most => items.take (most + 1)
    | none => items
  match validateItems validate read, if takesWhole ofAnything value then few.or many else many with
  | .error (.breakdown breakdown), _ => .broken breakdown
  | _, some problem => .fail problem value
  | .error setback, none => .error setback
  | .ok results, none => match few with
    | some problem => .fail problem value
    | none => .ok (.list results)

def validateEntry (key value : Value → Outcome Value) (entry : Value × Value) :
    Outcome (Value × Value) :=
  let step := entry.1.asStep
  Outcome.both ((Outcome.within (.text "[key]") (key entry.1)).within step)
    ((value entry.2).within step)

def putEntries (limits : Limits) (whole : Value) (built : List (Value × Value))
    (found : List Issue) : List (Outcome (Value × Value)) → Outcome (List (Value × Value))
  | [] => if found.isEmpty then .ok built else .error (.issues found)
  | .error (.breakdown breakdown) :: _ => .broken breakdown
  | .error (.issues issues) :: rest => putEntries limits whole built (found ++ issues) rest
  | .ok (key, value) :: rest =>
    match key.unhashable? with
    | some reason => .broken (.unhashable reason)
    | none =>
      let more := Value.put key value built
      match limits.tooMany? .mapping more.length none with
      | some problem => .fail problem whole
      | none => putEntries limits whole more found rest

def readEntries (key value : Value → Outcome Value) (limits : Limits) (whole : Value)
    (entries : List (Value × Value)) : Outcome Value :=
  (putEntries limits whole [] [] (entries.map (validateEntry key value))).bind fun built =>
    match limits.tooFew? .mapping built.length with
    | some problem => Outcome.fail problem whole
    | none => Except.ok (.map built)

end TypedPath
