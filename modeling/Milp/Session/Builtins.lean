import Milp.Session.Entries
import Milp.Session.Holding
import Milp.Session.Numerals

/-!
# Operations of plain data

What the operations of texts, lists, records and numbers do when they are called by their names, and
what the operations behind operators do. Operations on other values than plain data are none of
these.
-/

namespace Milp.Session

/-! ### Values of plain data -/

/-- An array as nested lists of plain values. The fuel is used up by one for every dimension. -/
def plainRows : (fuel : Nat) → Value → Act Value
  | 0, v => return v
  | fuel + 1, v => do
    match v.rows? with
    | some rows => giveList (← rows.mapM (plainRows fuel))
    | none => settle (plainEntry v)

/-- A text with what a table holds under the numbers of its characters in their place. A character
stays that the table does not know. -/
def translated (whole : List Nat) (table : Value) : Act Value := do
  let pieces ← whole.mapM fun (p : Nat) => do
    let known ← tryCatch (some <$> itemAt table (.ofNumber (.whole (p : Nat)))) fun f =>
      if f.errorClass = .key ∨ f.errorClass = .place then return none else throw f
    match known, known.bind Value.text?, known.bind Value.integer? with
    | none, _, _ => return [p]
    | some _, some t, _ => return Text.points t
    | some _, none, some n =>
      if 0 ≤ n ∧ n < 0x110000 then return [n.toNat]
      else fail .value "character mapping must be in range(0x110000)"
    | some v, none, none =>
      if v.isNull then return []
      else fail .kind "character mapping must return integer, None or str"
  givePoints pieces.flatten

/-- An operation of a kind, or one that all values have. -/
def operateAny (v : Value) (name : String) (args : List Value) : Act Value := do
  match v.content, name with
  | .typeOf kind, "mro" => giveList (← (kind :: ancestors kind).mapM fun k => give (.typeOf k))
  | .typeOf _, "fromkeys" => recordOfKeys (args.headD Value.null) (args.getD 1 Value.null)
  | .typeOf kind, _ => operateNumberKind kind name args
  | .array .., "tolist" => do plainRows (← get).fuel v
  | .array .., _ | .quantity _, _ => do operateArray (← ofData ((← get).gridOf v)) name args
  | c, "__getstate__" =>
    if hasRecord c then do giveFields ((← get).ownProperties v) else return Value.null
  | _, _ => return Value.null

/-- An operation of a value of plain data. -/
def operateData (v : Value) (name : String) (args : List Value) : Act Value := do
  let s ← get
  let kind := holderOf v
  if let some message := (spanOf kind.fullName name).refusal? kind.fullName name args.length then
    fail .kind message
  match name, args with
  | "__format__", [form] => do
    let role := if v.quantity?.any fun a => a.kind.isElement then " 1" else ""
    inForm v (← argumentIn "__format__" role form)
  | _, _ =>
    match s.mapping? v, s.items? v, v.text?, v.number? with
    | some fields, _, _, _ => operateRecord v fields name args
    | _, some items, _, _ =>
      if v.isObject .list then operateList v items name args else operateTuple v items name args
    | _, _, some t, _ =>
      if name = "translate" then translated (Text.points t) (args.headD Value.null)
      else operateText v t name args
    | _, _, _, some n =>
      if n.isElement && elementBuiltins.contains name && name ≠ "conjugate" then
        operateAny v name args
      else operateNumber v n name args
    | _, _, _, none => operateAny v name args

/-! ### Operators -/

/-- What two values have to be for an operator of the first one to take the second one. -/
def meetInOperator (a b : Value) : Bool :=
  match a.number?, b.number?, a.part, b.part with
  | some x, some y, _, _ => x.isElement || x.takes y
  | _, _, .text _, .text _ | _, _, .list, .list | _, _, .tuple _, .tuple _
  | _, _, .bytes _, .bytes _ => true
  | _, _, .array, _ => true
  | _, _, _, _ => a.isObject .record && b.isObject .record

/-- The operation that an operator carries out, and whether its values come in the other order. -/
def operationNamed? : String → Option (Operation × Bool)
  | "__add__" => some (.sum, false)
  | "__radd__" => some (.sum, true)
  | "__sub__" => some (.difference, false)
  | "__rsub__" => some (.difference, true)
  | "__mul__" => some (.product, false)
  | "__rmul__" => some (.product, true)
  | "__truediv__" => some (.quotient, false)
  | "__rtruediv__" => some (.quotient, true)
  | "__floordiv__" => some (.wholeQuotient, false)
  | "__mod__" => some (.remainder, false)
  | _ => none

/-- The test of order that an operator carries out. -/
def orderNamed? : String → Option OrderTest
  | "__lt__" => some .below
  | "__gt__" => some .above
  | "__le__" => some .atMost
  | "__ge__" => some .atLeast
  | _ => none

/-- The hash of a number, or of a tuple of such values. -/
def hash? : Value → Option Int
  | .mk _ (.quantity a) => a.toNumber.hash?
  | .mk _ (.tuple items) => hashOfAll 0 items hashSeed
  | _ => none
where
  /-- Joins the hashes of items to what the ones before them came to. -/
  hashOfAll (count : Nat) : List Value → UInt64 → Option Int
    | [], h =>
      let h := h + (UInt64.ofNat count ^^^ (hashSeed ^^^ 3527539))
      some (if h = UInt64.ofNat (twoPow 64 - 1) then 1546275796 else h.toInt64.toInt)
    | x :: rest, h => do
      let lane := UInt64.ofInt (← hash? x)
      let h := h + lane * 14029467366897019727
      hashOfAll (count + 1) rest (((h <<< 31) ||| (h >>> 33)) * 11400714785074694791)
  hashSeed : UInt64 := 2870177450012600261

/-- A sequence several times over. -/
def repeatedAsGiven (v count : Value) : Act Value := do
  let n ← indexOf count
  match (← get).items? v, v.isObject .list with
  | some items, true => do giveList (← ofExcept .ofScalar (Value.copies items n))
  | _, _ => do settle (← ofExcept .ofScalar (Value.repeated v (.number (.whole n))))

/-- What an operator does that belongs to a kind of sequences. -/
def operateSequence? (v : Value) (items : List Value) (name : String) (args : List Value) :
    Option (Act Value) :=
  let x := args.headD Value.null
  match name, v.isObject .list, x.isObject .list with
  | "__mul__", _, _ | "__rmul__", _, _ => some (repeatedAsGiven v x)
  | "__add__", true, true => some do giveList (items ++ (((← get).items? x).getD []))
  | "__add__", _, _ => some do settle (← ofExcept .ofScalar (Value.add v x))
  | "__setitem__", _, _ | "__delitem__", _, _ | "__iadd__", _, _ | "__imul__", _, _ =>
    some (operateList v items name args)
  | "__mod__", _, _ => if v.text?.isSome then some (remainder v x) else none
  | "__rmod__", _, _ =>
    if v.text?.isSome then some (if x.text?.isSome then remainder x v else noResult) else none
  | _, _, _ => none

/-- What an operator does that belongs to records and to what shows their fields. -/
def operateMapping? (v : Value) (fields : List (Filing × Value)) (name : String)
    (args : List Value) : Option (Act Value) :=
  let x := args.headD Value.null
  match name, v.content, orderNamed? name with
  | "__or__", _, _ => some (union v x false)
  | "__ror__", _, _ => some (union v x true)
  | "__ior__", .view _, _ =>
    some (fail .kind "'|=' is not supported by mappingproxy; use '|' instead")
  | "__ior__", _, _ | "__setitem__", _, _ | "__delitem__", _, _ =>
    some (operateRecord v fields name args)
  | "__eq__", .view w, _ => some (equality false w (shown x))
  | "__ne__", .view w, _ => some (equality true w (shown x))
  | _, .view w, some test =>
    some (match x.content with
      | .view y => order test.reversed y w
      | _ => order test w x)
  | _, _, _ => none
where
  /-- The record whose fields a value shows. -/
  shown (v : Value) : Value :=
    match v.content with
    | .view w => w
    | _ => v

/-- What an operator does that belongs to a kind of plain data. -/
def operateSpecially? (s : Session) (v : Value) (name : String) (args : List Value) :
    Option (Act Value) :=
  match v.number?.filter (!·.isElement), s.mapping? v, s.items? v with
  | some n, _, _ =>
    (operateAlone? v n name).orElse fun _ => (calculationNamed? name).map fun c =>
      operatePlain n c.1 c.2 args
  | none, some fields, _ => operateMapping? v fields name args
  | none, none, items? =>
    if v.isSequence then operateSequence? v (items?.getD []) name args else none

/-- What an operation behind an operator does. -/
def operateAs (v : Value) (name : String) (args : List Value) : Act Value := do
  if let some message := operatorRefusal? v.isSequence name args.length then fail .kind message
  if let some act := operateSpecially? (← get) v name args then return ← act
  let x := args.headD Value.null
  if let some a := v.quantity?.filter (·.kind.isElement) then
    if let some act := operateElement? v a name x then return ← act
  let answers := meetInOperator v x
  match name, operationNamed? name, orderNamed? name with
  | _, some (o, isReversed), _ =>
    if answers || (v.number?.isNone && v.kind.name ≠ "NoneType") then
      if isReversed then operate o x v else operate o v x
    else noResult
  | _, _, some test => if answers then order test v x else noResult
  | "__eq__", _, _ =>
    if answers then equality false v x else if same v x then giveTruth true else noResult
  | "__ne__", _, _ =>
    if answers then equality true v x else if same v x then giveTruth false else noResult
  | "__len__", _, _ => sizeOf v
  | "__getitem__", _, _ => itemAt v x
  | "__contains__", _, _ => do giveTruth (← contains v x)
  | "__iter__", _, _ => iterate v
  | "__next__", _, _ => nextItem v
  | "__repr__", _, _ => do giveText (← ofData ((← get).displayOf v))
  | "__str__", _, _ => write v
  | "__bool__", _, _ => do giveTruth (← isTrue v)
  | "__hash__", _, _ => do
    discard (keyOf v)
    return (← (hash? v).mapM giveInteger).getD Value.null
  | "__getattribute__", _, _ => do property v (← propertyName x)
  | "__setattr__", _, _ => do
    setProperty v (← propertyName x) (args.getD 1 Value.null)
    return Value.null
  | "__delattr__", _, _ => do
    removeProperty v (← propertyName x)
    return Value.null
  | "__call__", _, _ => call v args
  | _, _, _ => return Value.null

end Milp.Session
