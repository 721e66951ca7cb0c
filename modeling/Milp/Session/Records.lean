import Milp.Session.Ordering

/-!
# Options and solutions in a session

Options and solutions are made from data and read as data. What they hold stays the value
that it is.
-/

namespace Milp.Session

/-! ### Options -/

def newOptions (o : Options Value) : Act Value := giveObject (.options o)

/-- Entries up to the first whose name is no text, and that name. -/
def namedEntries : List (Filing × Value) → List (String × Value) × Option Value
  | [] => ([], none)
  | (key, v) :: rest =>
    match key.value.text? with
    | none => ([], some key.value)
    | some name =>
      let (entries, stray) := namedEntries rest
      ((name, v) :: entries, stray)

/-- Options with the entries whose names are known. -/
def optionsFrom (entries : Value) : Act Value := do
  let s ← get
  let (entries, stray) := namedEntries (← ofData (s.fieldsOfPairs (s.pairs entries)))
  let start : Options Value := Options.default (δ := Value) (α := Value)
  let o ← ofExcept .ofOptions (start.ofEntries s.inquiry typeOf s.settingsOf entries)
  match stray with
  | some name => throw (.ofOptions (.notAName name.kind.fullName))
  | none => newOptions o

/-- The settings of options as a record. -/
def settingsRecord (v : Value) : Act Value := do
  match (← get).options? v with
  | some o => do giveFields (← ofData o.entries)
  | none => noProperty v "to_dict"

/-! ### Solutions -/

/-- A solution with a status, values by name and the value of the objective. -/
def newSolution (status values objective : Value) : Act Value := do
  discard (ofExcept .ofAnswer (Solution.readStatus (← get).inquiry status))
  let values ← if values.isNull then giveRecord [] else pure values
  giveObject (.solution status values objective)

/-- A solution as a value. -/
def giveSolution (x : Solution Filing Value Value) : Act Value := do
  let values ← giveRecord x.values
  let objective ← match x.objective with
    | some v => giveOperand v
    | none => pure Value.null
  giveObject (.solution x.word values objective)

/-- The solution that an answer stands for. Names that are no list are refused where their number is
needed, and otherwise where they are filed. -/
def solutionFrom (answer names : Value) : Act Value := do
  let s ← get
  let read := fun names => Solution.ofAnswer (α := Value) s.inquiry answer names
  match s.walk names with
  | .ok names => do giveSolution (← ofExcept .ofAnswer (read (names.map s.filing)))
  | .error e =>
    match read [] with
    | .error (.datum e) => throw (.ofDatum e)
    | .error (.unknownStatus _) => throw (.ofDatum e)
    | .error (.valueCount ..) => throw (.ofDatum (.notSized names.kind.fullName))
    | .ok x =>
      throw (.ofDatum (if x.isOptimal then .notSized names.kind.fullName else e))

/-- The status of a solution says that it is optimal. -/
def isOptimal (v : Value) : Act Value := do
  equality false (← property v "status") (.ofText Status.optimal.text)

/-- What a solution holds, as a record. -/
def solutionRecord (v : Value) : Act Value := do
  let status ← property v "status"
  let values ← giveRecord (← recordFields (← property v "values"))
  giveFields [("status", status), ("values", values), ("objective", ← property v "objective")]

/-- What options or a solution hold, as a record, by the operation of the kind. -/
def recordOf (v : Value) : Act Value :=
  if v.isObject .solution then solutionRecord v else settingsRecord v

/-- What options or a solution tell that they hold, as a record. -/
def entriesOf (v : Value) : Act Value := do
  match (← get).options? v with
  | some o =>
    match o.report with
    | .told entries => do giveFields (← ofData entries)
    | .called f => (Target.ofOwn "to_dict" f).carryOut [] recordOf
  | none => invoke v "to_dict" [] recordOf

/-! ### Arrays -/

/-- A value as the name of a type of arrays. -/
def typeForm (s : Session) : (fuel : Nat) → Value → Numeric.TypeForm
  | 0, v => .mk v.kind.fullName (s.shownOf v) .other
  | fuel + 1, v =>
    let forms := fun items : List Value => items.map (typeForm s fuel)
    let own? := (s.own? v "dtype").bind fun w => match w.content with
      | .entryType t => some t
      | _ => none
    .mk v.kind.fullName (s.shownOf v) (match v.content, s.items? v, s.mapping? v with
      | .null, _, _ => .null
      | .entryType t, _, _ => .type t.element
      | .typeOf kind, _, _ => .type (elementOfKind kind)
      | .array .., _, _ => .array
      | .text t, _, _ => .text t
      | .quantity a, _, _ => .quantity a
      | .object .list, some items, _ => .list (forms items)
      | _, some items, _ => .tuple (forms items)
      | _, _, some fields => .record (fields.map fun f => (f.1.written, typeForm s fuel f.2))
      | _, _, _ => match own? with
        | some t => .type t.element
        | none => .other)

/-- The name of the elements' type, and the items as doubles after they have been elements of a
type. -/
def asDoubles (items type : Value) : Act Value := do
  let s ← get
  let type ← ofExcept (.ofItem ∘ .name) (s.typeForm s.fuel type).toType
  let array ← ofExcept .ofItem (Numeric.toArray type (s.item s.fuel items))
  let xs ← giveJson (match array with
    | .list _ => array
    | x => .list [x])
  giveList [← giveText "float64", xs]

end Milp.Session
