import Milp.Session.Algebra

/-!
# Asking expressions and changing variables

What an expression tells about itself: its terms, its variables, the factors under names, and its
value where variables have values under their names. An ordinary expression is asked as a whole, any
other one term by term.
-/

namespace Milp.Session

/-! ### Asking expressions -/

/-- The names and factors of the terms. -/
def termsOf (v : Value) : Act (List (Value × Value)) := do
  let s ← get
  match s.plainAffine? v with
  | some e => return (e.terms s.store.name).map fun t => (t.1.value, t.2)
  | none => do ofData (s.namedTerms (← property v "_linear"))

/-- The names and factors that a value tells as its terms. -/
def termsFrom (v : Value) : Act (List (Value × Value)) := do
  match ← demand v "terms" with
  | .own self => termsOf self
  | .other f => do
    let r ← call f []
    (← walkThrough r).mapM twoOf

/-- The names and factors of the terms, as a list of pairs. -/
def giveTerms (v : Value) : Act Value := do
  giveList (← (← termsOf v).mapM fun t => give (.tuple [t.1, t.2]))

/-- The variables of the terms. -/
def variablesOf (v : Value) : Act (List Value) := do
  let s ← get
  match s.plainAffine? v with
  | some e => return e.vars.map fun x => .mk 0 (.var x)
  | none => do ofData (s.readItems (← property v "_linear") (s.peek · "variable"))

/-- The variables that a value tells. -/
def variablesFrom (v : Value) : Act (List Value) := do
  match ← demand v "variables" with
  | .own self => variablesOf self
  | .other f => do
    let r ← call f []
    walkThrough r

/-- An expression has no terms. -/
def isConstant (v : Value) : Act Bool := do
  let s ← get
  match s.plainAffine? v with
  | some e => return e.isConstant
  | none => do return (← ofData (s.lengthOf (← property v "_linear"))) = 0

/-- The factor that an expression has under a key. -/
def coefficientOf (v key : Value) : Act Value := do
  factorFrom (← property v "_linear") key

/-- What is filed under a name. -/
def valueUnder (values : List (Filing × Value)) (name : Value) : Act Value := do
  let key ← keyOf name
  match values.lookup key with
  | some v => return v
  | none => fail .key key.shown

/-- The value of an expression, step by step, where variables have values under their names. -/
def valueLoosely (v : Value) (values : List (Filing × Value)) : Act Value := do
  let start ← property v "_constant"
  let (terms, stop) := (← get).stroll (← property v "_linear")
  let sum ← terms.foldlM (fun sum t => do
    let factor ← property t "factor"
    let name ← property (← property t "variable") "name"
    extendSum sum (← operate .product factor (← valueUnder values name))) start
  match stop with
  | none => return sum
  | some e => throw (.ofDatum e)

/-- The value of an expression where variables have values under their names. -/
def valueUnderNames (v : Value) (values : List (Filing × Value)) : Act Value := do
  let s ← get
  match s.plainAffine? v, values.all fun f => f.2.quantity?.isSome with
  | some e, true => do
    giveOperand (← ofExcept .ofEvaluation
      (e.evaluate s.store.name fun key => (values.lookup key).map .number))
  | _, _ => valueLoosely v values

/-- As `valueUnderNames`, with a list of pairs of names and values. -/
def valueOf (v pairs : Value) : Act Value := do
  let s ← get
  valueUnderNames v (← ofData (s.fieldsOfPairs (s.pairs pairs)))

/-! ### Changing variables -/

/-- Gives a variable both bounds; any other value gets properties of their names. -/
def setBounds (v lower upper : Value) : Act Value := do
  match v.content with
  | .var x => modify fun s => { s with store := s.store.modify x (·.bounds lower upper) }
  | _ =>
    setProperty v "min" lower
    setProperty v "max" upper
  return v

/-- Restricts a variable to the integers; any other value gets a property. -/
def setInteger (v : Value) : Act Value := do
  match v.content with
  | .var x => modify fun s => { s with store := s.store.modify x Variable.makeInteger }
  | _ => setProperty v "integer" (← giveTruth true)
  return v

/-- Restricts a variable to zero and one, by way of its bounds. -/
def setBinary (v : Value) : Act Value := do
  match v.content, (← get).notesOf v with
  | .var x, [] =>
    modify fun s => { s with store := s.store.modify x Variable.makeBinary }
    return v
  | _, _ => do
    let (lower, upper) := (← giveInteger 0, ← giveInteger 1)
    let bounded ← invoke v "bounds" [lower, upper] (setBounds · lower upper)
    invoke bounded "make_integer" [] setInteger

end Milp.Session
