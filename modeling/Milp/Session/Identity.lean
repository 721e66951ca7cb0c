import Milp.Session.Grid

/-!
# Identity and equality of values

Two values are the same when they were made by one act; of truth values, short texts and small
integers there is only one of each. Expressions are equal when they agree as functions, templates
when they have the same operands, and values that hold others when those are the same or equal. An
array is equal to another value entry by entry, and that is a truth value if there is one entry.
-/

namespace Milp.Session

/-- Texts without characters, or with a single one that is Latin, are made once. -/
def isShort (s : String) : Bool :=
  match Text.points s with
  | [] => true
  | [p] => p < 256
  | _ => false

/-- The two values are one. -/
def same (a b : Value) : Bool :=
  match a.content, b.content with
  | .null, .null => true
  | .quantity (.mark x), .quantity (.mark y) => x == y
  | .quantity (.number (.truth x)), .quantity (.number (.truth y)) => x == y
  | .quantity (.number (.whole x)), .quantity (.number (.whole y)) =>
    x == y && (a.tag == b.tag && a.tag != 0 || -5 ≤ x && x ≤ 256)
  | .text x, .text y => x == y && (a.tag == b.tag && a.tag != 0 || isShort x)
  | .sense x, .sense y => x == y
  | .direction x, .direction y => x == y
  | .var x, .var y => x == y
  | .library x, .library y => x == y
  | .typeOf x, .typeOf y => x == y
  | .bound .function f (.mk _ (.typeOf x)), .bound .function g (.mk _ (.typeOf y)) =>
    f == g && x == y
  | .entryType (.text _), .entryType (.text _) => a.tag == b.tag && a.tag != 0
  | .entryType x, .entryType y => x == y
  | .sealed "NotImplementedType", .sealed "NotImplementedType" => true
  | .tuple [], .tuple [] | .bytes [], .bytes [] => true
  | .bytes [x], .bytes [y] => x == y
  | _, _ => a.tag == b.tag && a.tag != 0

/-- The parts of a syntax tree. -/
def treeParts? (v : Value) : Option (List Value) :=
  match v.content with
  | .literal w | .leaf w => some [w]
  | .operation op l r => some [op, l, r]
  | .comparison l c r => some [l, c, r]
  | _ => none

/-! ### Types of entries -/

/-- The type of elements for which a kind stands; of most kinds, anything is an element. -/
def elementOfKind (kind : Kind) : Numeric.Element :=
  let types : List Numeric.EntryType := [.truth, .byte, .signed, .unsigned, .double, .any]
  match types.find? fun t => Kind.entryType t.className = kind with
  | some t => t.element
  | none =>
    match kind.fullName with
    | "bool" | "numpy.bool" => .truth
    | "int" | "numpy.int64" => .integer true 64
    | "numpy.uint64" => .integer false 64
    | "float" | "numpy.float64" => .double
    | "str" | "numpy.str_" | "numpy.dtypes.StrDType" => .text false none
    | "bytes" => .text true none
    | "memoryview" => .raw none
    | _ => .any

/-- A type of entries is the one that a text or a kind stands for. -/
def isTypeFor (t : Numeric.EntryType) (v : Value) : Bool :=
  match v.content with
  | .text name =>
    match (Numeric.TypeForm.mk "str" (Text.quoted name) (.text name)).toType with
    | .ok (.elements e isReversed) => e = t.element && !isReversed
    | _ => false
  | .typeOf kind => elementOfKind kind = t.element
  | _ => false

/-! ### Factors -/

/-- What a value has under a name as a record. -/
def fieldsFor (s : Session) (v : Value) (operation : String) :
    Except DatumError (List (Filing × Value)) :=
  match s.mapping? v with
  | some fields => .ok fields
  | none => .error (lacking v operation)

/-- The factor that a linear part has under a name, zero when there is none. -/
def factorIn (s : Session) (v : Value) (name : Filing) : Except DatumError Value := do
  let fields ← s.fieldsFor (← s.peek v "_coeff") "get"
  if let some kind := name.unfit? then throw (.unhashable kind)
  match fields.lookup name with
  | none => return Scalar.zero
  | some term => if term.isNull then return Scalar.zero else s.peek term "factor"

/-- The names that a linear part has factors under. -/
def factorNames (s : Session) (v : Value) : Except DatumError (List Filing) := do
  let coefficients ← s.peek v "_coeff"
  match s.mapping? coefficients with
  | some fields => return fields.map Prod.fst
  | none => return (← s.walk coefficients).map (Filing.of · "" "")

/-! ### Equality -/

/-- How equality is asked for: what is settled already is brought in by `lift`, and `factor` asks a
linear part for its factor under a name. -/
structure Asking (μ : Type → Type) where
  lift : {τ : Type} → Except DatumError τ → μ τ
  factor : Value → Filing → μ Value

/-- Asks without doing anything. -/
def asking (s : Session) : Asking (Except DatumError) :=
  ⟨id, fun v name => do s.factorIn (← s.receiver v "get_factor") name⟩

section Equal

variable {μ : Type → Type} [Monad μ] (ask : Asking μ)

/-- Two linear parts agree in the factors of all names. -/
def sameFactors (s : Session) (eq : Value → Value → μ Bool) (a b : Value) : μ Bool := do
  let names := (← ask.lift (s.factorNames a)) ++ (← ask.lift (s.factorNames b))
  names.allM fun name => do eq (← ask.factor a name) (← ask.factor b name)

/-- Equality of arrays, entry by entry. -/
def equalEntries (s : Session) (eq : Value → Value → μ Bool) (a b : Value) :
    μ (Numeric.Block Bool) := do
  let pairs ← ask.lift (s.comparedEntries a b)
  let entries ← pairs.entries.mapM fun
    | none => return false
    | some p => eq p.1 p.2
  return ⟨pairs.shape, entries⟩

mutual

/-- The two values are equal. The fuel is used up by one for every level of values in values. -/
def equal (s : Session) : (fuel : Nat) → Value → Value → μ Bool
  | 0, a, b => return same a b
  | fuel + 1, a, b =>
    let peek := fun v key => ask.lift (s.peek v key)
    if a.meetInArray b then do
      ask.lift ((← equalEntries ask s (equal s fuel) a b).verdict.mapError .block)
    else
    match a.quantity?, b.quantity?, a.text?, b.text? with
    | some x, some y, _, _ => ask.lift ((x.same y).mapError .scalar)
    | _, _, some x, some y => return x == y
    | _, _, _, _ =>
      match s.object? a, s.object? b, treeParts? a, treeParts? b with
      | some (.linear _), some (.linear _), _, _ =>
        match s.linear? a, s.linear? b, s.notesOf a ++ s.notesOf b with
        | some l, some m, [] => l.sameBy (equal s fuel) m
        | _, _, _ => sameFactors ask s (equal s fuel) a b
      | some (.expression ..), some (.expression ..), _, _ => do
        let c ← peek a "_constant"
        if !(← equal s fuel c (← peek b "_constant")) then return false
        let l ← peek a "_linear"
        equal s fuel l (← peek b "_linear")
      | some (.template ..), some (.template ..), _, _ => do
        let t ← peek a "segments"
        if !(← equal s fuel t (← peek b "segments")) then return false
        let o ← peek a "operands"
        let p ← peek b "operands"
        if (← ask.lift (s.lengthOf o)) != (← ask.lift (s.lengthOf p)) then return false
        return ((← ask.lift (s.walk o)).zip (← ask.lift (s.walk p))).all fun x => same x.1 x.2
      | _, _, some xs, some ys =>
        if a.kind = b.kind then equalItems s fuel (xs.zip ys) else return false
      | _, _, _, _ =>
        match s.items? a, s.items? b, s.mapping? a, s.mapping? b with
        | some xs, some ys, _, _ =>
          if a.isObject .list == b.isObject .list && xs.length == ys.length then
            equalItems s fuel (xs.zip ys)
          else return false
        | _, _, some xs, some ys =>
          if xs.length != ys.length then return false
          else
            match xs.mapM fun f => (ys.lookup f.1).map fun y => (f.2, y) with
            | some pairs => equalItems s fuel pairs
            | none => return false
        | _, _, _, _ =>
          match a.content, b.content with
          | .path x, .path y => return x == y
          | .bytes x, .bytes y => return x == y
          | .entryType x, .entryType y => return x == y
          | .entryType t, _ => return isTypeFor t b
          | _, .entryType t => return isTypeFor t a
          | .bound .method f x, .bound .method g y
          | .bound .function f x, .bound .function g y => return f == g && same x y
          | _, _ => return same a b

/-- The two values of each pair are the same or equal. -/
def equalItems (s : Session) : (fuel : Nat) → List (Value × Value) → μ Bool
  | 0, _ => return false
  | fuel + 1, pairs => pairs.allM fun p =>
    if same p.1 p.2 then return true else equal s fuel p.1 p.2

end

end Equal

/-- The two values are equal. -/
def equals (s : Session) (a b : Value) : Except DatumError Bool := equal s.asking s s.fuel a b

end Milp.Session
