import TypedPath.Value.Equality

namespace TypedPath.Value

def quantitiesOrdered (strict : Bool) (left right : Quantity) : Bool :=
  if strict then left.less right else left.atMost right

def textsOrdered (strict : Bool) (left right : Text) : Bool :=
  Text.precedes left right && !(strict && left = right)

def isDecimal : Value → Bool
  | .decimal _ => true
  | _ => false

def orderStops (left right : Value) : Bool :=
  (left.isDecimal || right.isDecimal) &&
    match left.quantity?, right.quantity? with
    | some .undefined, some _ | some _, some .undefined => true
    | _, _ => false

mutual

def ordered? (strict : Bool) : Value → Value → Option Bool
  | .text a, .text b => some (textsOrdered strict a b)
  | .uuid a, .uuid b => some (textsOrdered strict a.toText b.toText)
  | .moment a, .moment b =>
    if a.comparable b then
      some (if strict then a.instant < b.instant else a.instant ≤ b.instant)
    else Option.none
  | .list a, .list b => itemsOrdered? strict a b
  | .tuple a, .tuple b => itemsOrdered? strict a b
  | .set a _, .set b _ => some (allIn a b && !(strict && a.length = b.length))
  | a, b => match a.quantity?, b.quantity? with
    | some p, some q => if orderStops a b then Option.none else some (quantitiesOrdered strict p q)
    | _, _ => Option.none
termination_by structural left => left

def itemsOrdered? (strict : Bool) : List Value → List Value → Option Bool
  | [], right => some (!strict || !right.isEmpty)
  | _ :: _, [] => some false
  | a :: left, b :: right =>
    if sameMember a b then itemsOrdered? strict left right else ordered? strict a b
termination_by structural left => left

end

mutual

def orderSignals : Value → Value → Bool
  | .list a, .list b | .tuple a, .tuple b => itemsOrderSignal a b
  | a, b => orderStops a b
termination_by structural left => left

def itemsOrderSignal : List Value → List Value → Bool
  | a :: left, b :: right =>
    if sameMember a b then itemsOrderSignal left right else signals a b || orderSignals a b
  | _, _ => false
termination_by structural left => left

end

end TypedPath.Value
