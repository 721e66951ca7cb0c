import Milp.Session.Builtins
import Milp.Session.Paths
import Milp.Session.Solvers

/-!
# Making values of a kind

A kind that is called makes a value of its own out of other values. Kinds of plain data convert
values, and a kind with finitely many members finds the one that a value stands for.
-/

namespace Milp.Session

/-! ### Plain data -/

/-- Refuses more values than one. -/
def atMostOne (name : String) (args : List Value) : Act Unit := do
  if 1 < args.length then
    fail .kind (name ++ " expected at most 1 argument, got " ++ toString args.length)

/-- A value as a double. -/
def makeDouble (v : Value) : Act Float := do
  match (← ofExcept .ofScalar v.measure).number? with
  | some (.double x) => return x
  | _ => return 0

/-- A value as an integer. -/
def makeInteger (v : Value) : Act Int := do
  match v.quantity?, v.text? with
  | some a, _ => truncated a.toNumber
  | none, some t =>
    match Double.intOfText? t with
    | some n => return n
    | none => throw (.ofItem (.badInteger (Text.quoted t)))
  | none, none => throw (.ofItem (.notInteger v.kind.fullName))

/-- A value as an integer, and a text as one in a base that may be given. -/
def makeWhole (args : List Value) : Act Value := do
  match args with
  | [] => giveInteger 0
  | [v] => do giveInteger (← makeInteger v)
  | [v, base] =>
    match base.integer? with
    | none =>
      fail .kind ("'" ++ base.kind.fullName ++ "' object cannot be interpreted as an integer")
    | some n =>
      if n ≠ 0 ∧ (n < 2 ∨ 36 < n) then fail .value "int() base must be >= 2 and <= 36, or 0"
      else match v.text? with
        | none => fail .kind "int() can't convert non-string with explicit base"
        | some t =>
          match Double.intInBase? n.toNat t with
          | some i => giveInteger i
          | none =>
            fail .value ("invalid literal for int() with base " ++ toString n ++ ": " ++
              Text.quoted t)
  | _ => fail .kind ("int() takes at most 2 arguments (" ++ toString args.length ++ " given)")

/-- A value as a text. -/
def makeText (args : List Value) : Act Value := do
  match args with
  | [] => giveText ""
  | [v] => write v
  | v :: encoding :: rest =>
    if 1 < rest.length then
      fail .kind ("str() takes at most 3 arguments (" ++ toString args.length ++ " given)")
    else if encoding.text?.isNone then
      fail .kind ("str() argument 'encoding' must be str, not " ++ encoding.kind.fullName)
    else if v.text?.isSome then fail .kind "decoding str is not supported"
    else
      fail .kind ("decoding to str: need a bytes-like object, " ++ v.kind.fullName ++ " found")

/-- The fields of a record, shown. -/
def makeView (args : List Value) : Act Value := do
  match args with
  | [] => fail .kind "mappingproxy() missing required argument 'mapping' (pos 1)"
  | [v] =>
    if ((← get).mapping? v).isSome then give (.view v)
    else fail .kind ("mappingproxy() argument must be a mapping, not " ++ v.kind.fullName)
  | _ =>
    fail .kind ("mappingproxy() takes at most 1 argument (" ++ toString args.length ++ " given)")

/-- The array of numbers that a list, a tuple or an array is. -/
def gridIn? (v : Value) : Act (Option Grid) := do
  let s ← get
  if (s.items? v).isNone && v.rows?.isNone then return none
  let g ← ofData (s.gridOf v)
  return if g.type matches .text _ | .any then none else some g

/-- The numbers of an array as entries of a type. Doubles are cut off where entries are integers. -/
def makeEntries (type : Numeric.EntryType) (g : Grid) : Act Value := do
  let isCut := type = .signed && g.type = .double
  let entries ← g.block.entries.mapM fun v => do
    match isCut, v.number? with
    | true, some n => return .ofNumber (.word (Int64.ofInt (← truncated n)))
    | _, _ => return entryOf type (plainEntry v)
  give (.array type ⟨g.block.shape, entries⟩)

/-- A value of a kind of plain data, if that is one. -/
def makeData (kind : Kind) (args : List Value) : Option (Act Value) :=
  let x? := args.head?
  let name := kind.fullName
  let items := do
    atMostOne name args
    match x? with
    | some x => walkThrough x
    | none => return []
  let number := fun (make : Float → Number) => do
    atMostOne name args
    settle (.ofNumber (make (← (x?.map makeDouble).getD (pure 0))))
  let truth := fun (make : Bool → Quantity) => do
    atMostOne name args
    settle (.ofQuantity (make (← (x?.map isTrue).getD (pure false))))
  let entries := fun type (make : Act Value) => do
    match ← (x?.map gridIn?).getD (pure none) with
    | some g => makeEntries type g
    | none => make
  match name with
  | "NoneType" => some (if args.isEmpty then return Value.null
    else fail .kind "NoneType takes no arguments")
  | "int" => some (makeWhole args)
  | "float" => some (number .double)
  | "bool" => some (truth fun b => .number (.truth b))
  | "str" => some (makeText args)
  | "list" => some do giveList (← items)
  | "tuple" => some do give (.tuple (← items))
  | "dict" => some do
    atMostOne name args
    giveRecord (← (x?.map recordFields).getD (pure []))
  | "numpy.float64" => some (entries .double do
    if x?.any Value.isNull then settle (.ofNumber (.cell Double.nan)) else number .cell)
  | "numpy.bool" => some (entries .truth (truth .mark))
  | "numpy.int64" => some (entries .signed do
    let n ← (x?.map makeInteger).getD (pure 0)
    settle (.ofNumber (.word (← ofExcept .ofScalar (Number.wordOfInt n)))))
  | "mappingproxy" => some (makeView args)
  | "method" => some do
    if args.length ≠ 2 then
      fail .kind ("method expected 2 arguments, got " ++ toString args.length)
    give (.sealed "method")
  | "type" | "EnumType" => some (match args with
    | [x] => give (.typeOf x.kind)
    | _ => fail .kind "type() takes 1 or 3 arguments")
  | "PosixPath" => some do give (.path (← joinedPath args))
  | _ => none

/-! ### Kinds with members -/

/-- The member of a kind that a value is or stands for. -/
def findMember (kind : String) (members : List Value) (args : List Value) : Act Value := do
  match args with
  | [v] =>
    if members.any (same v) then return v
    match ← members.findM? fun m => do areEqual v (← property m "value") with
    | some m => return m
    | none => do
      fail .value ((← ofData ((← get).displayOf v)) ++ " is not a valid " ++ kind)
  | [] => fail .kind "EnumType.__call__() missing 1 required positional argument: 'value'"
  | _ => fail .kind ("<enum '" ++ kind ++ "'> cannot extend <enum '" ++ kind ++ "'>")

/-! ### Every kind -/

/-- A value of a kind that is defined by this library. -/
def makeOwn (kind : String) (args : List Value) : Act Value := do
  let a := args.getD 0 Value.null
  let b := args.getD 1 Value.null
  let c := args.getD 2 Value.null
  match kind with
  | "Variable" => newVariable a b c (args.getD 3 (.ofTruth false)) (args.getD 4 Value.null)
  | "Term" => give (.term a b)
  | "LinearExpression" => do giveObject (.linear (← if a.isNull then giveRecord [] else pure a))
  | "Expression" => newExpression a (args.getD 1 Scalar.zero)
  | "Constraint" => giveObject (.constraint a b)
  | "Template" => newTemplate a b
  | "SolveOptions" => newOptions (.make (args.getD 0 (.ofTruth false)) b c)
  | "Solution" => newSolution a b c
  | "Problem" => newProblem a b
  | "ScipySolver" => newEngine a
  | "NativeLibrary" => openLibrary a
  | "Literal" => give (.literal a)
  | "ExpressionLeaf" => give (.leaf a)
  | "BinaryOp" => give (.operation a b c)
  | "Comparison" => give (.comparison a b c)
  | "Backend" => newRecorder a
  | "TString" => give (.parts a b)
  | kind => fail .kind ("cannot create '" ++ kind ++ "' instances")

/-- A value of a kind. -/
def make (kind : Kind) (args : List Value) : Act Value := do
  match members? (.mk 0 (.typeOf kind)), makeData kind args with
  | some members, _ => findMember kind.name members args
  | none, some act => act
  | none, none => do
    let first := if kind.name = "Term" then "__new__" else "__init__"
    let s := signatureOfMaking kind.name
    let s := { s with required := "self" :: s.required }
    if let some message := s.refusal? (kind.name ++ "." ++ first) (args.length + 1) then
      fail .kind message
    makeOwn kind.name args

end Milp.Session
