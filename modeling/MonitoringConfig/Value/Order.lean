import MonitoringConfig.Value.Text
/-!
# Items of values and their order

A list has items, a mapping its keys, and a text its characters. Texts are ordered by their code
points and numbers by value; values of other types, or of different types, are in no order.
-/

namespace MonitoringConfig

namespace Promql.Scalar

/-- How two numbers compare. -/
def compare? : Scalar → Scalar → Option Ordering
  | int a, int b => some (compare a b)
  | int a, float y => (y.compareInt? a).map Ordering.swap
  | float x, int b => x.compareInt? b
  | float x, float y => x.compare? y

end Promql.Scalar

namespace Value

/-- The items of a value, if it has any. -/
def items? : Value → Option (List Value)
  | list xs => some xs
  | tuple xs => some xs
  | set xs => some xs
  | map entries => some (entries.map (·.1))
  | text s => some (s.toList.map fun c => text (String.singleton c))
  | member _ s => some (s.toList.map fun c => text (String.singleton c))
  | bytes data => some (data.map fun b => int b.toNat)
  | _ => none

/-- The items of a value that is asked for them. -/
def items (v : Value) : Except Failure (List Value) :=
  match v.items? with
  | some xs => .ok xs
  | none => .error (.plain .wrongType)

/-- The text of a value that is asked for its parts. -/
def ownText (v : Value) : Except Failure String :=
  match v, v.asText? with
  | _, some s => .ok s
  | bytes _, none => .error (.plain .wrongType)
  | _, none => .error (.plain .noSuchMember)

/-- Two lists behind each other, or two texts; both must be of one type. -/
def joined (a b : Value) : Except Failure Value :=
  match a, b with
  | list xs, list ys => .ok (list (xs ++ ys))
  | tuple xs, tuple ys => .ok (tuple (xs ++ ys))
  | a, b =>
    match a.asText?, b.asText? with
    | some s, some t => .ok (text (s ++ t))
    | _, _ => .error (.plain .wrongType)

/-- Texts in increasing order. -/
def sortTexts (texts : List String) : List String :=
  texts.mergeSort fun a b => !(b < a : Bool)

/-- Values in increasing order, if all are texts or all are numbers; a value that stands alone
needs no order. -/
def sort? (values : List Value) : Option (List Value) :=
  if values.length ≤ 1 then some values
  else if values.all fun v => v.asText?.isSome then
    some (values.mergeSort fun a b => !((b.asText?.getD "") < (a.asText?.getD "") : Bool))
  else if values.all fun v => v.asScalar?.isSome then
    some (values.mergeSort fun a b =>
      match a.asScalar?, b.asScalar? with
      | some x, some y => y.compare? x != some .lt
      | _, _ => true)
  else none

/-- How two values without parts compare; `none` where a number is not a number. -/
def orderLeaf (a b : Value) : Except Failure (Option Ordering) :=
  match a, b with
  | duration x, duration y => .ok (some (compare x.nanoseconds y.nanoseconds))
  | timeSpan x, timeSpan y => .ok (some (compare x.microseconds y.microseconds))
  | secret x, secret y => .ok (some (compare x.reveal y.reveal))
  | bytes x, bytes y => .ok (some (compare (x.map UInt8.toNat) (y.map UInt8.toNat)))
  | date x _, date y _ => .ok (some (compare x.toDays y.toDays))
  | moment x _, moment y _ =>
    match x.instant?, y.instant? with
    | some i, some j => .ok (some (compare i j))
    | none, none => .ok (some (compare x.localMicros y.localMicros))
    | _, _ => .error (.plain .wrongType)
  | a, b =>
    match a.asText?, b.asText?, a.asScalar?, b.asScalar? with
    | some s, some t, _, _ => .ok (some (compare s t))
    | _, _, some x, some y => .ok (x.compare? y)
    | _, _, _, _ => .error (.plain .wrongType)

mutual

/-- How two values compare, if their types have an order. -/
def order : Value → Value → Except Failure (Option Ordering)
  | list xs, list ys => orderLists xs ys
  | tuple xs, tuple ys => orderLists xs ys
  | a, b => orderLeaf a b

/-- How two lists compare: by their first items that differ. -/
def orderLists : List Value → List Value → Except Failure (Option Ordering)
  | [], [] => .ok (some .eq)
  | [], _ => .ok (some .lt)
  | _, [] => .ok (some .gt)
  | x :: xs, y :: ys => if x.equal y then orderLists xs ys else order x y

end

/-- Whether one value comes before another. -/
def isLess (a b : Value) : Except Failure Bool :=
  (a.order b).map (· == some .lt)

end Value

end MonitoringConfig
