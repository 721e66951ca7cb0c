import Milp.Session.Calls

/-!
# Variables, expressions and constraints in a session

As a rule the coefficients of an expression are terms with numbers as factors, and then the algebra
of affine expressions does the work. An expression can be made with anything in the place of its
linear part, its factors and its constant, and its coefficients can be exchanged; such a loose
expression is taken apart step by step, up to the step that fails.
-/

namespace Milp.Session

open Numeric (EntryType Block)

/-! ### Making -/

/-- What is known of a variable with the given name, bounds, domain and starting value. -/
def variableOf (name min max integer initial : Value) : Act (Variable Filing Value) := do
  return ⟨(← get).filing name, min, max, integer, initial, .null⟩

/-- A variable that belongs to no problem. -/
def newVariable (name min max integer initial : Value) : Act Value := do
  let v ← variableOf name min max integer initial
  let s ← get
  set { s with store := s.store.push v }
  give (.var s.store.fresh)

/-- A linear part with the given keys, factors and variables. -/
def newLinear (terms : Value) : Act Value := do
  let s ← get
  let coefficients ← ((s.items? terms).getD []).filterMapM fun t => do
    match s.items? t with
    | some [key, factor, x] => do return some (← keyOf key, ← give (.term factor x))
    | _ => return none
  giveLinear (fieldsOfList coefficients)

/-- An expression with a linear part, which stays the value that it is, and a constant. -/
def newExpression (linear constant : Value) : Act Value := do
  let linear ← if linear.isNull then giveLinear [] else pure linear
  giveObject (.expression linear constant)

/-! ### Records out of other values -/

/-- Files what a pair says. The place of the pair is given. -/
def filePair (fields : List (Filing × Value)) (place : Nat) (pair : Value) :
    Act (List (Filing × Value)) := do
  let s ← get
  let element := "dictionary update sequence element #" ++ toString place
  match s.walk pair with
  | .ok [key, v] => do return setField (← keyOf key) v fields
  | .ok items =>
    fail .value (element ++ " has length " ++ toString items.length ++ "; 2 is required")
  | .error _ =>
    fail .kind ("cannot convert dictionary update sequence element #" ++ toString place ++
      " to a sequence")

/-- The fields of another record, or those that pairs say. -/
def recordFields (v : Value) : Act (List (Filing × Value)) := do
  let s ← get
  match s.mapping? v with
  | some fields => return fields
  | none => do
    let pairs ← walkThrough v
    pairs.zipIdx.foldlM (fun fields p => filePair fields p.2 p.1) []

/-! ### Loose expressions -/

/-- The name that a variable has is there. -/
def isNamed (s : Session) (x : Var) : Bool := !(s.store.get x).name.value.isAbsent

/-- The factors and the constant of an expression are quantities. -/
def isOrdinary (e : Affine Filing Value) : Bool :=
  e.constant.quantity?.isSome && e.linear.terms.all fun t => t.factor.quantity?.isSome

/-- An expression or a variable that is taken apart step by step. -/
def isLoose (s : Session) (v : Value) : Bool :=
  match v.var? with
  | some x => !s.isNamed x
  | none => v.isObject .expression && !(s.affine? v).any isOrdinary

/-- The expression that a value is, if all its coefficients are terms of variables with names, and
its factors and its constant are quantities. -/
def plainAffine? (s : Session) (v : Value) : Option (Affine Filing Value) :=
  (s.affine? v).filter fun e => isOrdinary e && e.vars.all s.isNamed

/-- A value as an operand; for a loose one stands one without terms. -/
def standIn (s : Session) (v : Value) : Operand Filing Value :=
  if s.isLoose v then .expression ⟨.empty, Scalar.zero⟩ else s.operandOf v

/-- The expression that an operation has as its result. -/
def affine
    (operation : (Var → Filing) → Except AlgebraError (Affine Filing Value)) : Act Value := do
  giveExpression (← ofExcept .ofAlgebra (operation (← get).store.name))

/-- A value as an expression; one that is an expression stays what it is. -/
def lift (v : Value) : Act Value := do
  let s ← get
  if s.isLoose v && v.var?.isSome then discard (property v "name")
  if v.isObject .expression then return v else affine (s.operandOf v).lift

/-- How an operation on two values is carried out. -/
abbrev Calculator := Operation → Value → Value → Act Value

/-- Adds `k` times a term to the coefficient under its key. -/
def addLoosely (operate : Calculator) (k : Value) (coefficients : List (Filing × Value))
    (key : Filing) (term : Value) : Act (List (Filing × Value)) := do
  let there := (coefficients.lookup key).filter (!·.isNull)
  let start ← (there.map (property · "factor")).getD (pure Scalar.zero)
  let x ← property (there.getD term) "variable"
  let product ← operate .product k (← property term "factor")
  let factor ← operate .sum start product
  return setField key (← give (.term factor x)) coefficients

/-- `base + k * other`, step by step. -/
def addScaledLoosely (operate : Calculator) (base k other : Value) : Act Value := do
  let base ← lift base
  let other ← lift other
  let start ← recordFields (← property (← property base "linear") "coeff")
  let added ← property (← property other "linear") "coeff"
  let added ← fieldsIn added
  let coefficients ← added.foldlM (fun fields f => addLoosely operate k fields f.1 f.2) start
  let constant ← property base "constant"
  let product ← operate .product k (← property other "constant")
  let constant ← operate .sum constant product
  giveObject (.expression (← giveLinear coefficients) constant)

/-- The result of an operation on operands, or what is done instead where some of them are loose. An
error of the operation that is not about numbers comes first in any case. -/
def unlessLoose {τ : Type} (operands : List Value)
    (operation : (Value → Operand Filing Value) → (Var → Filing) → Except AlgebraError τ)
    (result : τ → Act Value) (loosely : Act Value) : Act Value := do
  let s ← get
  match operation s.standIn s.store.name, operands.any s.isLoose with
  | .ok x, false => result x
  | .error (.scalar _), true | .ok _, true => loosely
  | .error e, _ => throw (.ofAlgebra e)

/-! ### Calculating -/

/-- An operation on two operands, and the three operands of `base + k * other` to which it comes. -/
structure Combination where
  operation : (Var → Filing) → Operand Filing Value → Operand Filing Value →
    Except AlgebraError (Affine Filing Value)
  scaled : Value → Value → Except ScalarError (Value × Value × Value)

namespace Combination

/-- An exact integer. -/
def integer (n : Int) : Value := .ofNumber (.whole n)

def add : Combination := ⟨Operand.add, fun a b => .ok (a, integer 1, b)⟩

def sub : Combination := ⟨Operand.sub, fun a b => .ok (a, integer (-1), b)⟩

def scale : Combination := ⟨Operand.scale, fun k a => .ok (integer 0, k, a)⟩

def divide : Combination :=
  ⟨Operand.divide, fun a k => do return (integer 0, ← Scalar.div Scalar.one k, a)⟩

def plus : Combination := { add with operation := Operand.plus }

def minus : Combination := { sub with operation := Operand.minus }

def times : Combination :=
  ⟨Operand.times, fun a b => .ok (if a.isAffine then (integer 0, b, a) else (integer 0, a, b))⟩

def dividedBy : Combination := { divide with operation := Operand.dividedBy }

end Combination

/-- The operation of the algebra that an operation is, if it is one. -/
def Operation.combination? : Operation → Option Combination
  | sum => some .plus
  | difference => some .minus
  | product => some .times
  | quotient => some .dividedBy
  | wholeQuotient | remainder => none

/-- Carries out an operation of the algebra. -/
def combineWith (operate : Calculator) (c : Combination) (a b : Value) : Act Value :=
  unlessLoose [a, b] (fun operand name => c.operation name (operand a) (operand b))
    giveExpression do
      let (base, k, other) ← ofExcept .ofScalar (c.scaled a b)
      addScaledLoosely operate base k other

/-- The two values are expressions, variables and numbers, not all of them numbers. -/
def meetInExpression (a b : Value) : Bool :=
  match a.part, b.part with
  | .affine, .affine | .affine, .quantity (.number _) | .quantity (.number _), .affine => true
  | _, _ => false

/-! ### Arrays -/

/-- The type of the entries that an operation on entries of two types results in. -/
def Operation.resultType (o : Operation) (a b : EntryType) : Except ScalarError EntryType :=
  match a, b with
  | .any, _ | _, .any => .ok .any
  | .text m, .text n => if o = .sum then .ok (.text (m + n)) else .error (o.noForm a.name b.name)
  | .text _, _ | _, .text _ => .error (o.noForm a.name b.name)
  | .truth, .truth =>
    match o with
    | .sum | .product => .ok .truth
    | .difference => .error .truthDifference
    | .quotient => .ok .double
    | .wholeQuotient | .remainder => .ok .byte
  | a, b => .ok (if o = .quotient then .double else a.join b)

/-- A value as an array beside another one: an integer does not widen the entries of that one. -/
def gridBeside (v : Value) (other : EntryType) : Act Grid := do
  match v.number?, other with
  | some (.whole n), .double => do
    let x ← ofExcept .ofScalar (Number.whole n).toDouble
    return ⟨.double, .single (.ofNumber (.cell x))⟩
  | some (.whole n), .byte =>
    if Numeric.Element.fits true 8 n then
      return ⟨.byte, .single (.ofNumber (.word (Int64.ofInt n)))⟩
    else throw (.ofScalar (.beyondType n EntryType.byte.name))
  | some (.whole n), .signed | some (.whole n), .truth => do
    let n ← ofExcept .ofScalar (Number.wordOfInt n)
    return ⟨.signed, .single (.ofNumber (.word n))⟩
  | _, _ => do ofData ((← get).gridOf v)

/-- Two values as arrays. -/
def gridsOf (a b : Value) : Act (Grid × Grid) := do
  let s ← get
  let x ← ofData (s.gridOf a)
  let y ← ofData (s.gridOf b)
  return (← gridBeside a y.type, ← gridBeside b x.type)

/-- An operation on two values as arrays. Entries that can be anything are taken one by one. -/
def operateEntries (operate : Calculator) (o : Operation) (a b : Value) : Act Value := do
  let (x, y) ← gridsOf a b
  let type ← ofExcept .ofScalar (o.resultType x.type y.type)
  let pairs ← ofData (x.pairs y type)
  let entries ← pairs.entries.mapM fun p => do
    let v ← if type = .any then operate o p.1 p.2 else ofExcept .ofScalar (Value.operate o p.1 p.2)
    return entryOf type v
  give (.array type ⟨pairs.shape, entries⟩)

/-- Entries of the first type can stand where there were entries of the second one. -/
def standsFor (a b : EntryType) : Bool :=
  match a, b with
  | _, .any | .truth, _ | .text _, .text _ => true
  | .byte, .byte | .byte, .signed | .signed, .byte | .byte, .double
  | .signed, .signed | .signed, .unsigned | .signed, .double => true
  | .unsigned, .unsigned | .unsigned, .signed | .unsigned, .double | .double, .double => true
  | _, _ => false

/-- The short name of a type of entries. -/
def entryCode (t : EntryType) : String := if t = .any then "O" else t.name

/-- Extends the entries of an array in a sum. Neither their type nor the shape changes. -/
def extendEntries (operate : Calculator) (type : EntryType) (block : Block Value) (a b : Value) :
    Act Value := do
  let y ← gridBeside b type
  let wanted ← ofExcept .ofScalar (Operation.sum.resultType type y.type)
  if !standsFor wanted type then
    throw (.ofScalar (.noCast Operation.sum.name (entryCode wanted) (entryCode type)))
  match Block.jointShape block.shape y.block.shape with
  | none => throw (.ofDatum (.block (.unmatched [block.shape, y.block.shape, block.shape])))
  | some shape =>
    if shape ≠ block.shape then throw (.ofDatum (.block (.noRoom block.shape shape)))
    let sum ← operateEntries operate .sum a b
    match sum.content with
    | .array result block => return .mk a.tag (.array type (Grid.cast ⟨result, block⟩ type))
    | _ => return sum

/-! ### Operations on values -/

/-- Two paths, or a path and a text, one after the other. -/
def joinedPath? (a b : Value) : Option String :=
  match a.content, b.content with
  | .path s, .path t | .path s, .text t | .text s, .path t => some (Path.join s t)
  | _, _ => none

/-- An operation on two values: on arrays, on lists, in the algebra, or on plain values. The fuel is
used up by one for every level of values in values. -/
def operateWith : (fuel : Nat) → Calculator
  | 0, o, a, b => do settle (← ofExcept .ofScalar (Value.operate o a b))
  | fuel + 1, o, a, b => do
    let s ← get
    let items := fun v => (s.items? v).getD []
    let plainly := do settle (← ofExcept .ofScalar (Value.operate o a b))
    if a.meetInArray b && (o ≠ .product || a.isArray || b.isArray) then
      operateEntries (operateWith fuel) o a b
    else
      match o, meetInExpression a b, a.part, b.part with
      | .sum, _, .list, .list => do giveList (← (items a ++ items b).mapM settle)
      | .product, _, .list, .quantity x | .product, _, .quantity x, .list =>
        match x.integer? with
        | some n => do
          let copies ← ofExcept .ofScalar (Value.copies (items a ++ items b) n)
          giveList (← copies.mapM settle)
        | none => plainly
      | .quotient, false, .other, _ | .quotient, false, _, .other =>
        match joinedPath? a b with
        | some path => give (.path path)
        | none => plainly
      | o, true, _, _ =>
        match o.combination? with
        | some c => combineWith (operateWith fuel) c a b
        | none => plainly
      | _, _, _, _ => plainly

/-- An operation on two values. -/
def operate (o : Operation) (a b : Value) : Act Value := do operateWith (← get).fuel o a b

/-- Carries out an operation of the algebra. -/
def combine (c : Combination) (a b : Value) : Act Value := combineWith operate c a b

/-- As `operate`; with a variable or an expression the algebra tells why there is no result. -/
def calculate (o : Operation) (a b : Value) : Act Value :=
  match a.isAffine || b.isAffine, o.combination? with
  | true, some c => combine c a b
  | _, _ => operate o a b

/-- Puts items at the end of a list. -/
def extendList (v : Value) (items : List Value) : Act Value := do
  put v.tag (.list (((← get).items? v).getD [] ++ (← items.mapM settle)))
  return v

/-- Extends a sum. A list is extended in place, by characters and by the items of a tuple too. -/
def extendSum (sum added : Value) : Act Value := do
  match sum.content, sum.meetInArray added with
  | .array type block, true => extendEntries operate type block sum added
  | _, true => operate .sum sum added
  | _, false =>
    match sum.part, added.part with
    | .list, .list => extendList sum (((← get).items? added).getD [])
    | .list, .text t => extendList sum (characters t)
    | .list, .tuple items => extendList sum items
    | _, _ =>
      if meetInExpression sum added then operate .sum sum added
      else settle (← ofExcept .ofScalar (Value.extend sum added))

/-! ### Results -/

/-- `base + k * other`. -/
def addScaled (base k other : Value) : Act Value :=
  unlessLoose [base, other]
    (fun operand name => Operand.addScaled name (operand base) (operand k) (operand other))
    giveExpression (addScaledLoosely operate base k other)

/-- The opposite of a value. -/
def opposite (v : Value) : Act Value :=
  unlessLoose [v] (fun operand name => Operand.neg name (operand v)) giveExpression
    (addScaledLoosely operate (Combination.integer 0) (Combination.integer (-1)) v)

/-- A sign in front of an array. There is none for truth values and texts. -/
def signEntries (name : String) (type : EntryType) (block : Block Value)
    (sign : Value → Act Value) : Act Value := do
  match type with
  | .truth => throw (.ofScalar (if name = "positive" then .noPlus else .truthDifference))
  | .text _ => throw (.ofScalar (.noSignedForm name type.name))
  | _ => do
    let entries ← block.entries.mapM sign
    give (.array type ⟨block.shape, entries.map (entryOf type)⟩)

/-- The sign `-` in front of a value. -/
def negatedWith : (fuel : Nat) → Value → Act Value
  | 0, v => return v
  | fuel + 1, v => do
    match v.number?, v.content with
    | some n, _ => settle (.ofNumber n.neg)
    | none, .array type block => signEntries "negative" type block (negatedWith fuel)
    | none, _ =>
      if v.isAffine then opposite v
      else affine (Operand.negated · ((← get).operandOf v))

/-- The sign `-` in front of a value. -/
def negated (v : Value) : Act Value := do negatedWith (← get).fuel v

/-- The sign `+` in front of a value. Doubles and integers stay the values that they are. -/
def unchangedWith : (fuel : Nat) → Value → Act Value
  | 0, v => return v
  | fuel + 1, v => do
    match v.number?, v.content with
    | some (.double _), _ | some (.whole _), _ => return v
    | some n, _ => settle (.ofNumber n.plus)
    | none, .array type block => signEntries "positive" type block (unchangedWith fuel)
    | none, .quantity (.mark _) => throw (.ofScalar .noPlus)
    | none, _ => if v.isAffine then lift v else affine (Operand.unchanged · ((← get).operandOf v))

/-- As `unchangedWith`, with fuel for all values. -/
def unchanged (v : Value) : Act Value := do unchangedWith (← get).fuel v

/-- The constraint that compares two values, step by step. -/
def compareLoosely (sense : Sense) (left right : Value) : Act Value := do
  let e ← if sense = .ge then combine .sub right left else combine .sub left right
  giveObject (.constraint e (← giveTruth (sense == .eq)))

/-- The comparison of two values by an operator. -/
def comparison (sense : Sense) (a b : Value) : Act Value :=
  unlessLoose [a, b] (fun operand name => Constraint.ofOperator name (operand a) sense (operand b))
    giveConstraint (compareLoosely sense a b)

/-- A sense, or the text of one. -/
def senseOf (v : Value) : Act Sense := do
  let s ← get
  let equal := [Sense.le, .ge, .eq].findM? fun t => s.equals v (.ofText t.text)
  match v.content, equal with
  | .sense t, _ | _, .ok (some t) => return t
  | _, _ => throw (.ofAlgebra (.unknownComparator (← ofData (s.displayOf v))))

/-- The constraint that compares two values. -/
def compare (left sense right : Value) : Act Value := do
  let sense ← senseOf sense
  unlessLoose [left, right]
    (fun operand name => Constraint.compare name (operand left) sense (operand right))
    giveConstraint (compareLoosely sense left right)

end Milp.Session
