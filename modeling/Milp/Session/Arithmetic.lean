import Milp.Session.Value

/-!
# Arithmetic of values

The constants and the factors of an expression are numbers as a rule, but any value can be one of
them. Texts and tuples are put together and repeated, and of other values it is told here why they
do not go together. What needs the state of the session, such as a sum of lists, is left to it.
-/

namespace Milp.Session

/-- What a value is in an operation. -/
inductive Part where
  | quantity (a : Quantity)
  | text (s : String)
  | bytes (bytes : List Nat)
  | list
  | tuple (items : List Value)
  | array
  /-- A variable or an expression. -/
  | affine
  | other

/-- The characters of a text as texts. -/
def characters (t : String) : List Value :=
  (Text.singles t).map .ofText

/-! ### Operations -/

/-- An operation on two values. -/
inductive Operation where
  | sum
  | difference
  | product
  | quotient
  /-- The quotient rounded down. -/
  | wholeQuotient
  /-- What remains beside the quotient rounded down. -/
  | remainder
  deriving DecidableEq, Repr

namespace Operation

def symbol : Operation → String
  | sum => "+"
  | difference => "-"
  | product => "*"
  | quotient => "/"
  | wholeQuotient => "//"
  | remainder => "%"

/-- What the operation is called where it is carried out on arrays. -/
def name : Operation → String
  | sum => "add"
  | difference => "subtract"
  | product => "multiply"
  | quotient => "divide"
  | wholeQuotient => "floor_divide"
  | remainder => "remainder"

/-- There is no form of the operation for arrays with entries of two types. -/
def noForm (o : Operation) (left right : String) : ScalarError :=
  match o with
  | sum | difference | product => .noLoop o.name left right
  | quotient | wholeQuotient | remainder => .noCoercion o.name

/-- The operation on quantities. -/
def onQuantities : Operation → Quantity → Quantity → Except ScalarError Quantity
  | sum => Quantity.add
  | difference => Quantity.sub
  | product => Quantity.mul
  | quotient => Quantity.div
  | wholeQuotient => Quantity.floorDiv
  | remainder => Quantity.floorMod

end Operation

namespace Value

def part (v : Value) : Part :=
  match v.content with
  | .quantity a => .quantity a
  | .text s => .text s
  | .bytes bytes => .bytes bytes
  | .tuple items => .tuple items
  | .term factor x => .tuple [factor, x]
  | .var _ | .object .expression => .affine
  | .object .list => .list
  | .array .. => .array
  | _ => .other

/-- The value is a variable or an expression. -/
def isAffine (v : Value) : Bool :=
  match v.part with
  | .affine => true
  | _ => false

/-- The value is an array. -/
def isArray (v : Value) : Bool :=
  match v.part with
  | .array => true
  | _ => false

/-- Two values are taken as arrays, one of them being an array or an element of one. -/
def meetInArray (a b : Value) : Bool :=
  match a.part, b.part with
  | .affine, _ | _, .affine => false
  | .array, _ | _, .array => true
  | .quantity x, .list | .quantity x, .tuple _ | .list, .quantity x | .tuple _, .quantity x =>
    x.kind.isElement
  | _, _ => false

/-! ### Why two values do not go together -/

/-- Why two values have no sum, difference or product. -/
def refusal (o : Operation) (a b : Value) : ScalarError :=
  let width := fun s : String => "<U" ++ toString (max 1 (Text.size s))
  let plain := .unsupported o.symbol a.kind.fullName b.kind.fullName
  let onElements := ScalarError.unsupportedElements o.symbol
  match a.part, b.part with
  | .affine, _ | _, .affine => plain
  | .quantity x, .text t =>
    if x.kind.isElement then o.noForm x.kind.name (width t) else plain
  | .text s, .quantity y =>
    if y.kind.isElement then o.noForm (width s) y.kind.name else plain
  | .quantity x, _ =>
    if x.kind.isElement then onElements x.kind.bareName b.kind.fullName else plain
  | _, .quantity y =>
    if y.kind.isElement then onElements a.kind.fullName y.kind.bareName else plain
  | _, _ => plain

/-- An operation on quantities; anything else is refused. -/
def combine (o : Operation) (a b : Value) : Except ScalarError Value :=
  match a.quantity?, b.quantity? with
  | some x, some y => ofQuantity <$> o.onQuantities x y
  | _, _ => .error (refusal o a b)

/-! ### Sums -/

/-- The value is a tuple without names for its items. -/
def isBareTuple (v : Value) : Bool := v.content matches .tuple _

/-- The sum; texts and tuples are put together. Beside an empty one, the other one stays what it is.
-/
def add (a b : Value) : Except ScalarError Value :=
  let strange := fun kind => ScalarError.concatenation kind b.kind.fullName
  match a.part, b.part with
  | .text s, .text t =>
    .ok (if s.isEmpty then b else if t.isEmpty then a else ofText (s ++ t))
  | .tuple xs, .tuple ys =>
    .ok (if xs.isEmpty && b.isBareTuple then b else if ys.isEmpty && a.isBareTuple then a
      else .mk 0 (.tuple (xs ++ ys)))
  | .bytes xs, .bytes ys => .ok (if xs.isEmpty then b else if ys.isEmpty then a
      else .mk 0 (.bytes (xs ++ ys)))
  | .bytes _, _ => .error (.concatenation "bytes" b.kind.fullName)
  | .text _, _ => .error (strange "str")
  | .list, _ => .error (strange "list")
  | .tuple _, _ => .error (strange "tuple")
  | _, _ => combine .sum a b

/-- A sum that does not exist is reported as one that was to be extended. -/
def extending : ScalarError → ScalarError
  | .unsupported "+" left right => .unsupported "+=" left right
  | .concatenation "list" right => .extension right
  | e => e

/-- The sum that takes the place of the first value. -/
def extend (a b : Value) : Except ScalarError Value := (add a b).mapError extending

/-! ### Products -/

/-- How many items or characters a value may have in the end. -/
def roomForCopies : Nat := tenPow 8

/-- Items several times over. -/
def copies {τ : Type} (items : List τ) (times : Int) : Except ScalarError (List τ) :=
  if ¬(-twoPow 63 ≤ times ∧ times < twoPow 63) then .error .tooManyCopies
  else if items.isEmpty then .ok []
  else if roomForCopies < items.length * times.toNat then .error .noRoom
  else .ok (List.replicate times.toNat items).flatten

/-- The value can be repeated. -/
def isSequence (v : Value) : Bool :=
  match v.part with
  | .text _ | .bytes _ | .list | .tuple _ => true
  | _ => false

/-- A text or a tuple several times over; once is the value itself. -/
def repeated (v : Value) (x : Quantity) : Except ScalarError Value :=
  match v.part, x.integer? with
  | .text _, some 1 => .ok v
  | .text s, some n => do return ofText (String.ofList (← copies s.toList n))
  | .bytes bytes, some n => do
    if n = 1 then return v
    return .mk 0 (.bytes (← copies bytes n))
  | .tuple items, some n => do
    if n = 1 && v.isBareTuple then return v
    return .mk 0 (.tuple (← copies items n))
  | _, _ => .error (.repetition x.kind.fullName)

/-- The product; texts and tuples are repeated by integers. -/
def mul (a b : Value) : Except ScalarError Value :=
  match a.isSequence, b.isSequence, a.part, b.part with
  | true, _, _, .quantity y => repeated a y
  | _, true, .quantity x, _ => repeated b x
  | true, _, _, _ => .error (.repetition b.kind.fullName)
  | _, true, _, _ => .error (.repetition a.kind.fullName)
  | _, _, _, _ => combine .product a b

/-! ### Every operation -/

/-- An operation on two values. -/
def operate : Operation → Value → Value → Except ScalarError Value
  | .sum => add
  | .product => mul
  | o => combine o

/-! ### Measures and equality -/

/-- The value as a double; a double stays the value that it is. -/
def measure (v : Value) : Except ScalarError Value :=
  match v.content with
  | .quantity (.number (.double _)) => .ok v
  | .quantity a => ofNumber <$> a.measure
  | .text s =>
    match Double.ofText? s with
    | some x => .ok (ofNumber (.double x))
    | none => .error (.badReal (Text.quoted s))
  | .array .. => .error .notSingle
  | c => .error (.notReal c.kind.fullName)

/-- The two values are the same number or the same text, or they are one. -/
def sameScalar (a b : Value) : Except ScalarError Bool :=
  match a.quantity?, b.quantity?, a.text?, b.text? with
  | some x, some y, _, _ => x.same y
  | _, _, some s, some t => .ok (s == t)
  | _, _, _, _ => .ok (a.isNull && b.isNull || a.tag == b.tag && a.tag != 0)

end Value

instance : Scalar Value where
  ofInt n := .ofNumber (.whole n)
  truth b := .ofTruth b
  zero := .mk Value.zeroTag (.quantity (.number (.double 0)))
  one := .mk Value.oneTag (.quantity (.number (.double 1)))
  ofLiteral negative digits places := .ofNumber (Scalar.ofLiteral negative digits places)
  add := Value.add
  extend := Value.extend
  sub := Value.combine .difference
  mul := Value.mul
  div := Value.combine .quotient
  neg v := match v.content with
    | .quantity (.number n) => .ofNumber n.neg
    | _ => v
  measure := Value.measure
  same := Value.sameScalar
  integer? := Value.integer?
  kind := Value.kind
  plain := Value.written
  written v := match v.quantity? with
    | some a => a.toText
    | none => .ok v.written
  display := Value.shown

instance : Data Value Value := ⟨Value.null, id⟩

end Milp.Session
