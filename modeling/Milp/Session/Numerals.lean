import Milp.Number.Hexadecimal
import Milp.Session.Formatting
import Milp.Session.Wording

/-!
# Operations of numbers

What the operations of plain numbers do when they are called by their names, those behind operators
among them. An operator of a number has no result where it does not take the other value, and is
refused where the numbers have none.
-/

namespace Milp.Session

/-! ### Results -/

/-- A number, which is the given value if it is the same one. -/
def keepNumber (v : Value) (n : Number) : Act Value :=
  match v.number?, n with
  | some (.whole x), .whole y => if x = y then return v else settle (.ofNumber n)
  | some (.double x), .double y =>
    if x.toBits = y.toBits then return v else settle (.ofNumber n)
  | _, _ => settle (.ofNumber n)

/-- The result of a calculation. -/
def giveCalculated : Calculated → Act Value
  | .number n => settle (.ofNumber n)
  | .pair m n => do give (.tuple [← settle (.ofNumber m), ← settle (.ofNumber n)])
  | .complex => give (.sealed "complex")

/-- The result of a computation on numbers. -/
def ofCalculation {τ : Type} (r : Except CalculationError τ) : Act τ := ofExcept .ofCalculation r

/-! ### Operators -/

/-- The calculation that an operator carries out, and whether its values come in the other order. -/
def calculationNamed? : String → Option (Calculation × Bool)
  | "__add__" => some (.sum, false)
  | "__radd__" => some (.sum, true)
  | "__sub__" => some (.difference, false)
  | "__rsub__" => some (.difference, true)
  | "__mul__" => some (.product, false)
  | "__rmul__" => some (.product, true)
  | "__truediv__" => some (.quotient, false)
  | "__rtruediv__" => some (.quotient, true)
  | "__floordiv__" => some (.wholeQuotient, false)
  | "__rfloordiv__" => some (.wholeQuotient, true)
  | "__mod__" => some (.remainder, false)
  | "__rmod__" => some (.remainder, true)
  | "__divmod__" => some (.division, false)
  | "__rdivmod__" => some (.division, true)
  | "__pow__" => some (.power, false)
  | "__rpow__" => some (.power, true)
  | "__and__" => some (.bothBits, false)
  | "__rand__" => some (.bothBits, true)
  | "__or__" => some (.eitherBit, false)
  | "__ror__" => some (.eitherBit, true)
  | "__xor__" => some (.differentBits, false)
  | "__rxor__" => some (.differentBits, true)
  | "__lshift__" => some (.shiftUp, false)
  | "__rlshift__" => some (.shiftUp, true)
  | "__rshift__" => some (.shiftDown, false)
  | "__rrshift__" => some (.shiftDown, true)
  | _ => none

/-- What an operator with a single value does to a plain number. -/
def operateAlone? (v : Value) (n : Number) (name : String) : Option (Act Value) :=
  let keep := fun m => some (keepNumber v m)
  match name, n.integer? with
  | "__abs__", some i => keep (.whole i.natAbs)
  | "__abs__", none =>
    some (ofExcept .ofScalar n.toDouble >>= fun x => settle (.ofNumber (.double x.abs)))
  | "__neg__", some i => some (giveInteger (-i))
  | "__neg__", none => some (settle (.ofNumber n.neg))
  | "__invert__", some i => some (giveInteger (Bits.opposite i))
  | "__pos__", some i | "__int__", some i | "__index__", some i => keep (.whole i)
  | "__int__", none => some (truncated n >>= giveInteger)
  | "__pos__", none => keep n
  | "__float__", _ => some (ofExcept .ofScalar n.toDouble >>= fun x => keepNumber v (.double x))
  | "__hash__", _ => n.hash?.map giveInteger
  | _, _ => none

/-- An integer to the power of another one, modulo a third one, or why there is no such result. -/
def powerModulo (self : Number) (isReversed : Bool) (other modulus : Value) : Act Value := do
  match self.integer?, other.number?, modulus.number? with
  | none, _, _ => throw (.ofCalculation .strayModulus)
  | some _, some b, some m =>
    match self.takes b && self.takes m, self.integer?, b.integer?, m.integer? with
    | true, some x, some y, some m => do
      let r ← ofCalculation (if isReversed then Calculation.powerModulo y x m
        else Calculation.powerModulo x y m)
      giveInteger r
    | _, _, _, _ => noResult
  | some _, _, _ => noResult

/-- An operator of a plain number between it and another value. -/
def operatePlain (self : Number) (c : Calculation) (isReversed : Bool) (args : List Value) :
    Act Value := do
  let other := args.headD Value.null
  match args[1]?.filter (!·.isNull), other.number? with
  | some modulus, _ => powerModulo self isReversed other modulus
  | none, some b => do
    if !self.takes b then return ← noResult
    let b := if b.isElement then Number.double (b.toDouble.toOption.getD 0) else b
    match ← ofCalculation (if isReversed then c.run b self else c.run self b) with
    | some r => giveCalculated r
    | none => noResult
  | none, none => noResult

/-! ### Rounding and conversions -/

/-- A number rounded to an integer, or to so many places if any are given. -/
def rounded (v : Value) (n : Number) (places? : Option Value) : Act Value := do
  match n.integer?, places?.map fun p => (p, p.isNull) with
  | some i, none => keepNumber v (.whole i)
  | some i, some (p, _) => do keepNumber v (.whole (roundPlaces (← indexOf p) i))
  | none, places? => do
    let x ← ofExcept .ofScalar n.toDouble
    match places? with
    | none | some (_, true) => do giveInteger (← ofCalculation (Double.toInteger .nearest x))
    | some (p, false) => do
      settle (.ofNumber (.double (← ofCalculation (Double.roundPlaces (← indexOf p) x))))

/-- A number next to another one, as an integer. -/
def integerBeside (v : Value) (n : Number) (d : Double.Direction) : Act Value := do
  match n.integer? with
  | some i => keepNumber v (.whole i)
  | none => do
    giveInteger (← ofCalculation (Double.toInteger d (← ofExcept .ofScalar n.toDouble)))

/-- The last byte of a row comes first. -/
def isLittleEndian (operation : String) (order? : Option Value) : Act Bool := do
  match order? with
  | none => return false
  | some order => do
    let ps ← argumentIn operation " 'byteorder'" order
    let name := Text.ofPoints ps
    if name ≠ "little" ∧ name ≠ "big" then
      fail .value "byteorder must be either 'little' or 'big'"
    return name = "little"

/-- An integer as so many bytes. -/
def asBytes (n : Int) (args : List Value) : Act Value := do
  let count ← (args[0]?.map widthGiven).getD (pure 1)
  let isLittle ← isLittleEndian "to_bytes" args[1]?
  if count < 0 then fail .value "length argument must be non-negative"
  if n < 0 then throw (.ofCalculation .negativeBytes)
  if twoPow (8 * min count.toNat (Bits.length n)) ≤ n.toNat then
    throw (.ofCalculation .tooFewBytes)
  let bytes := Bits.toBytes count.toNat n.toNat
  give (.bytes (if isLittle then bytes else bytes.reverse))

/-- The bytes that a value is or has as its items. -/
def bytesIn (v : Value) : Act (List Nat) := do
  let s ← get
  match v.bytes?, v.text?, s.walk v with
  | some bytes, _, _ => return bytes
  | none, none, .ok items => items.mapM fun x => do
    let n ← indexOf x
    if 0 ≤ n ∧ n < 256 then return n.toNat
    fail .value "bytes must be in range(0, 256)"
  | none, _, _ => fail .kind ("cannot convert '" ++ v.kind.fullName ++ "' object to bytes")

/-- The integer of some bytes. -/
def fromBytes (isTruth : Bool) (args : List Value) : Act Value := do
  let isLittle ← isLittleEndian "from_bytes" args[1]?
  let bytes ← bytesIn (args.headD Value.null)
  let n := Bits.ofBytes (if isLittle then bytes else bytes.reverse)
  if isTruth then giveTruth (n ≠ 0) else giveInteger n

/-- The double of a hexadecimal writing; the kind of doubles is given. -/
def fromHexadecimal (kind : Kind) (x : Value) : Act Value := do
  match x.text? with
  | none => fail .kind "bad argument type for built-in operation"
  | some t => do
    discard (ofExcept .ofEncoding (Text.encode "utf-8" "strict" (Text.points t)))
    let y ← ofCalculation (Hexadecimal.ofText t)
    settle (.ofNumber (if kind = .plain "float" then .double y else .cell y))

/-- How doubles are laid out. -/
def layoutOfDoubles (x : Value) : Act Value := do
  let name := Text.ofPoints (← argumentIn "__getformat__" "" x)
  if name = "double" ∨ name = "float" then giveText "IEEE, little-endian"
  else fail .value "__getformat__() argument 1 must be 'double' or 'float'"

/-! ### All operations -/

/-- An operation of a kind of numbers. -/
def operateNumberKind (kind : Kind) (name : String) (args : List Value) : Act Value := do
  let x := args.headD Value.null
  match name with
  | "fromhex" => fromHexadecimal kind x
  | "from_bytes" => fromBytes (kind = .plain "bool") args
  | "__getformat__" => layoutOfDoubles x
  | _ => return Value.null

/-- An operation of a number. -/
def operateNumber (v : Value) (n : Number) (name : String) (args : List Value) : Act Value := do
  let double := ofExcept .ofScalar n.toDouble
  match name, n.integer? with
  | "is_integer", some _ => giveTruth true
  | "is_integer", none =>
    giveTruth ((n.toDouble.toOption.map fun x => x.isFinite && x.floor == x).getD false)
  | "conjugate", _ => keepNumber v n.plus
  | "bit_length", some i => giveInteger (Bits.length i)
  | "bit_count", some i => giveInteger (Bits.count i)
  | "as_integer_ratio", some i => do give (.tuple [← keepNumber v (.whole i), ← giveInteger 1])
  | "as_integer_ratio", none => do
    let (m, k) ← ofCalculation (Double.lowestTerms (← double))
    give (.tuple [← giveInteger m, ← giveInteger k])
  | "hex", _ => do giveText (Hexadecimal.text (← double))
  | "to_bytes", some i => asBytes i args
  | "__getnewargs__", some i => do give (.tuple [← giveInteger i])
  | "__getnewargs__", none => do give (.tuple [← settle (.ofNumber (.double (← double)))])
  | "__round__", _ => rounded v n args.head?
  | "__floor__", _ => integerBeside v n .down
  | "__ceil__", _ => integerBeside v n .up
  | "__trunc__", _ => integerBeside v n .towardZero
  | _, _ => return Value.null

end Milp.Session
