import TypedPath.Value.Basic
import TypedPath.Text.Quoted

namespace TypedPath

namespace Moment

def calendarZone (minutes : Int) : Text :=
  if minutes = 0 then "datetime.timezone.utc"
  else if minutes < 0 then
    "datetime.timezone(datetime.timedelta(days=-1, seconds=" ++
      Text.ofInt (86400 + minutes * 60) ++ "))"
  else "datetime.timezone(datetime.timedelta(seconds=" ++ Text.ofInt (minutes * 60) ++ "))"

def zoneShown (form : ZoneForm) (minutes : Int) : Text :=
  match form with
  | .calendar => calendarZone minutes
  | .seconds => "TzInfo(" ++ Text.ofInt (minutes * 60) ++ ")"

def offsetShown (m : Moment) : Text :=
  match m.offset with
  | none => []
  | some minutes => ", tzinfo=" ++ zoneShown m.zone minutes

def shown (m : Moment) : Text :=
  let numbers := [m.year, m.month, m.day, m.hour, m.minute] ++
    (if m.microsecond ≠ 0 then [m.second, m.microsecond]
     else if m.second ≠ 0 then [m.second] else [])
  "datetime.datetime(" ++ Text.join ", " (numbers.map Text.ofNat) ++ m.offsetShown ++ ")"

end Moment

namespace Value

def boolShown (b : Bool) : Text := if b then "True" else "False"

def tupleShown : List Text → Text
  | [item] => "(" ++ item ++ ",)"
  | items => "(" ++ Text.join ", " items ++ ")"

def setShown (frozen : Bool) (items : List Text) : Text :=
  let inner : Text := if items = [] then [] else "\x7b" ++ Text.join ", " items ++ "\x7d"
  if frozen then "frozenset(" ++ inner ++ ")"
  else if items = [] then ("set()" : Text) else inner

mutual

def shown : Value → Text
  | .none => "None"
  | .bool b => boolShown b
  | .int n => Text.ofInt n
  | .float x => x.toText
  | .decimal d => "Decimal(" ++ Text.quoted d.toText ++ ")"
  | .text t => Text.quoted t
  | .uuid u => "UUID(" ++ Text.quoted u.toText ++ ")"
  | .moment m => m.shown
  | .list items => "[" ++ Text.join ", " (allShown items) ++ "]"
  | .tuple items => tupleShown (allShown items)
  | .set items frozen => setShown frozen (allShown items)
  | .map entries => "\x7b" ++ Text.join ", " (entriesShown entries) ++ "\x7d"
  | .record r => instanceShown r
termination_by structural value => value

def allShown : List Value → List Text
  | [] => []
  | item :: rest => shown item :: allShown rest
termination_by structural items => items

def entriesShown : List (Value × Value) → List Text
  | [] => []
  | (key, value) :: rest => (shown key ++ ": " ++ shown value) :: entriesShown rest
termination_by structural entries => entries

def instanceShown : Instance Value → Text
  | ⟨name, _, _, slots⟩ => name ++ "(" ++ Text.join ", " (slotsShown slots) ++ ")"
termination_by structural r => r

def slotsShown : List (Slot Value) → List Text
  | [] => []
  | ⟨name, value, _, _, _⟩ :: rest => (name ++ "=" ++ shown value) :: slotsShown rest
termination_by structural slots => slots

end

def toText : Value → Text
  | .text t => t
  | .decimal d => d.toText
  | .uuid u => u.toText
  | .moment m => m.toText ' '
  | .record r => Text.join " " (slotsShown r.slots)
  | value => value.shown

end Value

end TypedPath
