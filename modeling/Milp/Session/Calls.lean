import Milp.Session.Property

/-!
# Operations under their names

What asks a value for one of its operations finds it under a name, and a value can be given anything
under the name of an operation. If that is still the operation that was defined for the kind, it is
carried out as such; anything else is called. In the same way records are asked for what they hold,
and linear parts for their factors.
-/

namespace Milp.Session

/-- What carries out an operation of a value. -/
def demand (v : Value) (name : String) : Act Target := do ofData ((← get).target v name)

/-- Carries out an operation; the one that was defined for the kind is given. -/
def Target.carryOut (args : List Value) (operation : Value → Act Value) : Target → Act Value
  | .own self => operation self
  | .other f => call f args

/-- Carries out an operation of a value; the operation that was defined for the kind is given. -/
def invoke (v : Value) (name : String) (args : List Value) (operation : Value → Act Value) :
    Act Value := do
  (← demand v name).carryOut args operation

/-- The items of what an operation of a value results in. -/
def itemsFrom (v : Value) (name : String) : Act (List Value) := do
  let r ← call (← property v name) []
  walkThrough r

/-- The two items of a value that has to have so many. -/
def twoOf (v : Value) : Act (Value × Value) := do
  match (← get).walk v with
  | .ok [x, y] => return (x, y)
  | .ok [] | .ok [_] => do
    let n := (((← get).walk v).toOption.getD []).length
    fail .value ("not enough values to unpack (expected 2, got " ++ toString n ++ ")")
  | .ok _ => fail .value "too many values to unpack (expected 2)"
  | .error (.notList kind) => fail .kind ("cannot unpack non-iterable " ++ kind ++ " object")
  | .error e => throw (.ofDatum e)

/-! ### Records -/

/-- A value as a key under which something may be filed. -/
def keyOf (v : Value) : Act Filing := do
  let f := (← get).filing v
  match f.unfit? with
  | some kind => throw (.ofDatum (.unhashable kind))
  | none => return f

/-- What a value holds as a record. -/
def valuesIn (v : Value) : Act (List Value) := do
  match (← get).mapping? v with
  | some fields => return fields.map Prod.snd
  | none => itemsFrom v "values"

/-- What a value holds as a record, with the keys. -/
def pairsIn (v : Value) : Act (List (Value × Value)) := do
  match (← get).mapping? v with
  | some fields => return fields.map fun f => (f.1.value, f.2)
  | none => do (← itemsFrom v "items").mapM twoOf

/-- As `pairsIn`, where something is filed under the keys. -/
def fieldsIn (v : Value) : Act (List (Filing × Value)) := do
  match (← get).mapping? v with
  | some fields => return fields
  | none => do (← pairsIn v).mapM fun p => do return (← keyOf p.1, p.2)

/-- What a value holds as a record under a key, or nothing. -/
def findIn (v key : Value) : Act Value := do
  match (← get).mapping? v with
  | some fields => return (fields.lookup (← keyOf key)).getD Value.null
  | none => do call (← property v "get") [key]

/-! ### Factors and equality -/

/-- The factor that a linear part has under a key, zero when there is none. -/
def factorOf (v key : Value) : Act Value := do
  let term ← findIn (← property v "_coeff") key
  if term.isNull then return Scalar.zero else property term "factor"

/-- The factor that a value tells under a key. -/
def factorFrom (v key : Value) : Act Value := invoke v "get_factor" [key] (factorOf · key)

/-- Asks with all that this may do. -/
def askingAll : Asking Act := ⟨ofData, fun v name => factorFrom v name.value⟩

/-- The two values are equal. -/
def areEqual (a b : Value) : Act Bool := do
  let s ← get
  equal askingAll s s.fuel a b

/-- The two values are the same or equal, as items of collections are. -/
def matchesItem (a b : Value) : Act Bool := do
  if same a b then return true else areEqual a b

/-- Equality of arrays, entry by entry. -/
def areEqualEntries (a b : Value) : Act (Numeric.Block Bool) := do
  equalEntries askingAll (← get) areEqual a b

end Milp.Session
