import Milp.Numeric.Entries
import Milp.Problem.Solve
import Milp.Session.Identity
import Milp.Session.Text

/-!
# Values as data

What values are when they are looked at as data: records with fields, lists with items, numbers. As
data they go into messages, into numeric arrays and into JSON text, and JSON text and messages come
back as values.
-/

namespace Milp.Session

/-! ### Questions about values -/

/-- What a record, or a solution as a record of its values, holds under a text. -/
def fieldOf (s : Session) (v : Value) (key : String) : Except DatumError Value :=
  let name := Filing.ofText .null key
  let v := match s.object? v with
    | some (.solution _ values _) => values
    | _ => v
  match s.mapping? v with
  | some fields =>
    match fields.lookup name with
    | some w => .ok w
    | none => .error (.missing name.shown)
  | none =>
    match v.quantity?, members? v with
    | some a, _ =>
      .error (if a.kind.isElement then .invalidPlace else .notIndexed v.kind.fullName)
    | none, some _ => ((member? v key).map .ok).getD (.error (.missing name.shown))
    | none, none =>
      let kind := if v.content matches .term .. then "tuple" else v.kind.fullName
      .error (.notIndexed kind)

/-- As `fieldOf`, with nothing where there is no such field. -/
def findField (s : Session) (v : Value) (key : String) : Except DatumError Value :=
  match s.mapping? v with
  | some fields => .ok ((fields.lookup (Filing.ofText .null key)).getD .null)
  | none => .error (.noProperty v.kind.fullName "get")

/-- The kind of a value under which nothing can be filed. -/
def unfit? (v : Value) : Option String :=
  match Key.of? v with
  | .ok _ => none
  | .error kind => some kind

/-- The inquiry about the values of a session. -/
def inquiry (s : Session) : Inquiry Value Value where
  kind := Value.kind
  isNull := Value.isNull
  truth := s.truthOf
  text? := Value.text?
  isText v t := s.equals v (.ofText t)
  measure v := v.measure.mapError .scalar
  size := s.lengthOf
  items := s.walk
  get := s.fieldOf
  find := s.findField
  sameName a b :=
    match Key.of? a, Key.of? b with
    | .ok k, .ok l => k == l
    | _, _ => false
  unfit? := unfit?
  display := s.displayOf
  plain := s.plainOf

/-! ### Values as operands -/

/-- What stands in the place of an operand and is none. -/
def outsider (s : Session) (v : Value) : Outsider :=
  ⟨v.kind, v.text?, v.text?.isSome || (s.items? v).isSome, (s.count? v).getD 0⟩

/-- A value as an operand of the algebra. -/
def operandOf (s : Session) (v : Value) : Operand Filing Value :=
  match v.content with
  | .quantity (.number _) => .number v
  | .var x => .var x
  | _ =>
    match s.affine? v with
    | some e => .expression e
    | none => .other (s.outsider v)

/-- What the values of a session are to a model. Any of them can be the value of a variable. -/
def view (s : Session) : DataView Filing Value Value := ⟨s.inquiry, .number, s.plainOf⟩

/-! ### Values in arrays -/

/-- A value as an item of an array. -/
def item (s : Session) : (fuel : Nat) → Value → Numeric.Item
  | 0, _ => .null
  | fuel + 1, v =>
    match v.content, (s.items? v).orElse fun _ => v.rows? with
    | .null, _ => .null
    | .quantity a, _ => .quantity a
    | .text t, _ => .text t
    | .array type _, some rows =>
      .list (rows.map fun row => match row.content with
        | .quantity a => if type = .any then .quantity a else .entry a
        | _ => item s fuel row)
    | _, some items => .list (items.map (item s fuel))
    | .object .solution, _ => .indexed v.kind
    | .object .expression, _ | .var _, _ => .other v.kind true true (s.plainOf v)
    | _, _ => .other v.kind ((s.truthOf v).toOption.getD true) false (s.plainOf v)

/-- How values become the numbers of a program. -/
def arrays (s : Session) : Arrays Value Number := Numeric.arrays (s.item s.fuel)

/-! ### JSON -/

/-- A key of a record as a name in JSON. -/
def jsonName (f : Filing) : Except Json.Unwritable String :=
  match f.value.content with
  | .text t => .ok t
  | .null => .ok "null"
  | .quantity (.number (.truth b)) => .ok (if b then "true" else "false")
  | .quantity (.number (.double x)) | .quantity (.number (.cell x)) =>
    .ok (String.ofList (Json.doubleChars x))
  | .quantity (.number (.whole n)) => (Number.whole n).writtenOut.mapError .scalar
  | c => .error (.name c.kind.name)

/-- A value as a datum that JSON can write. A number that has no written form is noticed where it
stands. -/
def toJson (s : Session) : (fuel : Nat) → Value → Except Json.Unwritable (Datum Number)
  | 0, _ => .error .circular
  | fuel + 1, v =>
    match v.content, s.items? v, s.fields? v with
    | .null, _, _ => .ok .null
    | .quantity (.number n), _, _ => (Json.numberChars n).map fun _ => .number n
    | .text t, _, _ => .ok (.text t)
    | _, some items, _ => do return .list (← items.mapM (toJson s fuel))
    | _, _, some fields => do
      return .record (← fields.mapM fun f => do
        return (← jsonName f.1, ← toJson s fuel f.2))
    | c, _, _ => .error (.value c.kind.name)

mutual

/-- JSON as a value. -/
def giveJson : Datum Number → Act Value
  | .null => give .null
  | .number n => give (.quantity (.number n))
  | .text t => giveText t
  | .list items => do giveList (← giveJsons items)
  | .record fields => do giveFields (← giveJsonFields fields)

def giveJsons : List (Datum Number) → Act (List Value)
  | [] => return []
  | d :: rest => do
    let v ← giveJson d
    return v :: (← giveJsons rest)

def giveJsonFields : List (String × Datum Number) → Act (List (String × Value))
  | [] => return []
  | (key, d) :: rest => do
    let v ← giveJson d
    return (key, v) :: (← giveJsonFields rest)

end

mutual

/-- A datum with values in it as a value. -/
def giveDatum : Datum Value → Act Value
  | .null => give .null
  | .number v => settle v
  | .text t => giveText t
  | .list items => do giveList (← giveData items)
  | .record fields => do giveFields (← giveDatumFields fields)

def giveData : List (Datum Value) → Act (List Value)
  | [] => return []
  | d :: rest => do
    let v ← giveDatum d
    return v :: (← giveData rest)

def giveDatumFields : List (String × Datum Value) → Act (List (String × Value))
  | [] => return []
  | (key, d) :: rest => do
    let v ← giveDatum d
    return (key, v) :: (← giveDatumFields rest)

end

/-- The pairs of a key and a value in a list of such pairs. -/
def pairs (s : Session) (v : Value) : List (Value × Value) :=
  ((s.items? v).getD []).filterMap fun p =>
    match s.items? p with
    | some [key, x] => some (key, x)
    | _ => none

/-- Pairs as the fields of a record. Nothing is filed under what is no key. -/
def fieldsOfPairs (s : Session) (pairs : List (Value × Value)) :
    Except DatumError (List (Filing × Value)) := do
  let fields := pairs.map fun p => (s.filing p.1, p.2)
  match fields.findSome? fun f => f.1.unfit? with
  | some kind => throw (.unhashable kind)
  | none => return fieldsOfList fields

end Milp.Session
