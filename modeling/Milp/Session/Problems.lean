import Milp.Session.Collection
import Milp.Session.Source

/-!
# Problems in a session

The constraints of a problem are a list, which may be shared and exchanged; what is in it need not
even be a constraint. A constraint that a problem is given stays the value that it is. As long as
all values are what they are as a rule, the model does the work. Otherwise the work is done step by
step, and every step asks the values for what it needs.
-/

namespace Milp.Session

/-! ### Problems and their models -/

/-- A problem that is solved by a solver. Without a name it has the default one. -/
def newProblem (solver name : Value) : Act Value := do
  let name ← if ← isTrue name then pure name else giveConstant Problem.defaultName
  giveObject (.problem ⟨name, ← giveRecord [], ← giveList [], solver⟩)

/-- The variables in a register by the names under which they were registered. -/
def registered? (s : Session) (register : Value) : Option (List (Filing × Var)) := do
  (← s.fields? register).mapM fun f => do return (f.1, ← f.2.var?)

/-- A problem that is what it was made as. -/
structure Plain where
  entry : ProblemEntry
  register : List (Filing × Var)

/-- The problem that a value is, if nothing about it is out of the ordinary. -/
def plainProblem? (s : Session) (v : Value) : Option Plain := do
  let p ← s.problem? v
  let register ← s.registered? p.register
  if (s.notesOf v).isEmpty && register.all fun r => s.isNamed r.2 then some ⟨p, register⟩ else none

/-- A problem with constraints, and the variables of the session. -/
def model (s : Session) (p : Plain) (constraints : List (Constraint Filing Value)) :
    Model Filing Value Value := ⟨s.store, ⟨p.register, constraints⟩⟩

/-- The result of what was asked of a problem. -/
def ofProblem {τ : Type} : Except (ProblemError Filing Value) τ → Act τ
  | .ok x => return x
  | .error e => failProblem e

/-- Files a value under a key of a record. -/
def assign (record : Value) (key : Filing) (v : Value) : Act Unit := do
  match (← get).object? record with
  | some (.record fields) => put record.tag (.record (setField key v fields))
  | some (.properties owner) => setOwn owner key.written v
  | some (.list _) =>
    fail .kind ("list indices must be integers or slices, not " ++ key.value.kind.fullName)
  | _ => fail .kind ("'" ++ record.kind.fullName ++ "' object does not support item assignment")

/-- Puts variables at the end of those of a problem. -/
def enroll (p : Plain) (entries : List (Filing × Var)) : Act Unit :=
  entries.forM fun r => do assign p.entry.register r.1 (← give (.var r.2))

/-- Carries out an action of a problem that starts without constraints. What it did to the variables
stays, also when it fails; `settle` does with the constraints that it has added what is to be done
even then. -/
def act {σ τ : Type} (p : Plain)
    (action : Action Filing Value Value (ProblemError Filing Value) τ)
    (settle : List (Constraint Filing Value) → Act σ) : Act (τ × σ) := do
  let adopt := fun (m : Model Filing Value Value) => do
    modify fun s => { s with store := m.store }
    enroll p (m.problem.register.drop p.register.length)
    settle m.problem.constraints
  match action.run ((← get).model p []) with
  | .ok x m => do return (x, ← adopt m)
  | .error e m => do
    discard (adopt m)
    failProblem e

/-- An expression that nothing was given to, with coefficients that are terms. -/
def isPlainOperand (s : Session) (v : Value) : Bool :=
  if v.isObject .expression then (s.plainAffine? v).isSome && (s.notesOf v).isEmpty
  else !s.isLoose v

/-- The constraint that a value is, if nothing about it is out of the ordinary. -/
def plainConstraint? (s : Session) (v : Value) : Option (Constraint Filing Value) :=
  match s.object? v with
  | some (.constraint e equality) =>
    if s.isPlainOperand e && !equality.isAbsent then do
      return ⟨← s.affine? e, ← (s.truthOf equality).toOption⟩
    else none
  | _ => none

/-- What a source or an operand is to a model, if nothing about it is out of the ordinary. -/
def given? (s : Session) (v : Value) : Option (Given Filing Value) := do
  let template := fun segments operands => do
    if !(operands.all s.isPlainOperand) then none
    s.template? v segments (.mk 0 (.tuple operands))
  match v.text?, s.object? v, s.partsOf? v with
  | some t, _, _ => some (.source (.format t))
  | _, some (.template segments operands), _ => do
    return .source (.template (← template segments (← s.items? operands)))
  | _, some (.constraint ..), none => .constraint <$> s.plainConstraint? v
  | _, _, some _ => none
  | _, _, none => if s.isPlainOperand v then some (.operand (s.operandOf v)) else none

/-- What is given with operands, if nothing about them is out of the ordinary. -/
def offer? (s : Session) (v : Value) (operands : List Value) :
    Option (Given Filing Value × List (Operand Filing Value)) := do
  let g ← s.given? v
  if operands.all s.isPlainOperand then some (g, operands.map s.operandOf) else none

/-! ### Variables -/

/-- Registers a variable under the name that a value is, step by step. -/
def addVariableLoosely (problem : Value) (v : Variable Filing Value) : Act Value := do
  let name := v.name.value
  if ← contains (← property problem "_variables") name then failProblem (.duplicate v.name)
  let s ← get
  set { s with store := s.store.push v }
  let x ← give (.var s.store.fresh)
  assign (← property problem "_variables") (← keyOf name) x
  discard (ofData (Model.variableLine (← get).inquiry v))
  return x

/-- Registers a variable under the name that a value is. -/
def addVariable (problem name min max integer initial : Value) : Act Value := do
  let v ← variableOf name min max integer initial
  match (← get).plainProblem? problem with
  | some p => do
    let (x, _) ← act p (Model.addVariable (← get).inquiry v) fun _ => return ()
    discard (ofData ((← get).plainOf name))
    give (.var x)
  | none => addVariableLoosely problem v

/-- The variable that was registered under a name. -/
def findVariable (problem name : Value) : Act Value := do
  itemAt (← property problem "_variables") name

/-! ### Constraints -/

/-- Refuses an expression that mentions a variable of another problem, step by step. -/
def checkVariables (problem expression : Value) : Act Unit := do
  for x in ← variablesFrom expression do
    let register ← property problem "_variables"
    let y ← findIn register (← property x "name")
    if !same x y then failProblem (.foreignVariable ((← get).filing (← property x "name")))

/-- As `checkVariables`, with a check that a value has. -/
def checkBy (target : Target) (expression : Value) : Act Unit := do
  match target with
  | .own self => checkVariables self expression
  | .other f => discard (call f [expression])

/-- As `checkVariables`, with the check that the problem has. -/
def check (problem expression : Value) : Act Unit := do
  checkBy (← demand problem "_check_variables") expression

/-- Puts a constraint at the end of the constraints of a problem. -/
def append (constraints c : Value) : Act Unit := do
  match (← get).object? constraints with
  | some (.list items) => put constraints.tag (.list (items ++ [c]))
  | _ => noProperty constraints "append"

/-- Adds a constraint, step by step. -/
def addConstraintLoosely (problem source : Value) (operands : List Value) : Act Value := do
  let c ← readConstraint source operands
  let checker ← demand problem "_check_variables"
  checkBy checker (← property c "expression")
  append (← property problem "constraints") c
  discard (ofData ((← get).displayOf c))
  return c

/-- Adds a constraint; a constraint that is given stays the value that it is. -/
def addConstraint (problem source : Value) (operands : List Value) : Act Value := do
  let s ← get
  match s.plainProblem? problem, s.offer? source operands with
  | some p, some (given, offered) => do
    let isGiven := source.isObject .constraint && operands.isEmpty
    let (_, added) ← act p (Model.postConstraint given offered) fun cs => do
      let cs ← if isGiven then pure (cs.map fun _ => source) else cs.mapM giveConstraint
      cs.forM (append p.entry.constraints)
      return cs
    let c := added.headD Value.null
    discard (ofData ((← get).displayOf c))
    return c
  | _, _ => addConstraintLoosely problem source operands

/-! ### Objectives and messages -/

/-- The expression of an objective. -/
def objective (source : Value) (operands : List Value) : Act Value :=
  evaluateSource .operandsOfObjective source operands

def directionOf (v : Value) : Act Direction := do
  let s ← get
  let is := fun d : Direction => ofData (s.equals v (.ofText d.text))
  match v.content with
  | .direction d => return d
  | _ => do
    if ← is .minimize then return .minimize
    if ← is .maximize then return .maximize
    failProblem (.unknownDirection (← ofData (s.displayOf v)))

/-- The options that a value is; nothing when there is none. A value of another kind has no settings
but the properties of its own. -/
def givenOptions (s : Session) (v : Value) : Option (Options Value) :=
  if v.isNull then none
  else some ((s.options? v).getD ⟨s.ownProperties v, v.kind.fullName⟩)

/-- The constraints of a problem, if nothing about them is out of the ordinary. -/
def plainConstraints? (s : Session) (p : Plain) : Option (List (Constraint Filing Value)) := do
  (← s.items? p.entry.constraints).mapM s.plainConstraint?

/-- The terms of an expression as they stand in a message. -/
def giveRow (expression : Value) : Act Value := do
  let terms ← termsFrom expression
  giveList (← terms.mapM fun t => do
    giveFields [("name", t.1), ("factor", ← settle (← ofExcept .ofScalar (Value.measure t.2)))])

/-- A measure, or nothing. -/
def giveMeasure (v : Value) : Act Value := do
  if v.isNull then give .null else settle (← ofExcept .ofScalar v.measure)

/-- A variable as it stands in a message. -/
def giveColumn (x : Value) : Act Value := do
  let name ← property x "name"
  let min ← giveMeasure (← property x "min")
  let max ← giveMeasure (← property x "max")
  let initial ← giveMeasure (← property x "initial")
  let integer ← giveTruth (← isTrue (← property x "integer"))
  giveFields [("name", name), ("min", min), ("max", max), ("initial", initial),
    ("integer", integer)]

/-- The offset of an expression as it stands in a message. -/
def giveOffset (expression : Value) : Act Value := do
  settle (← ofExcept .ofScalar (Value.measure (← property expression "constant")))

/-- The message of a problem, step by step. -/
def messageLoosely (problem direction objective options : Value) : Act Value := do
  let direction ← directionOf direction
  let objective ← lift objective
  let walk := do ofData ((← get).walk (← property problem "constraints"))
  let expressions ← (← walk).mapM (property · "expression")
  (objective :: expressions).forM (check problem)
  let chosen := fun isEquality => do
    (← walk).filterM fun c => do
      return (← isTrue (← property c "is_equality")) == isEquality
  let expressions ← chosen false
  let equations ← chosen true
  let register ← property problem "_variables"
  let columns ← (← valuesIn register).mapM giveColumn
  let rows := fun cs : List Value => do
    giveList (← cs.mapM fun c => do giveRow (← property c "expression"))
  let offsets := fun cs : List Value => do
    giveList (← cs.mapM fun c => do giveOffset (← property c "expression"))
  let fields := [("direction", ← giveText direction.text), ("variables", ← giveList columns),
    ("objective", ← giveRow objective), ("objective_offset", ← giveOffset objective),
    ("constraints", ← rows expressions), ("constraint_offsets", ← offsets expressions),
    ("equalities", ← rows equations), ("equalities_offsets", ← offsets equations)]
  let verbose ← if options.isNull then giveTruth false
    else giveTruth (← isTrue (← property options "verbose"))
  giveFields (fields ++ [("verbose", verbose)])

/-- The message of a problem. -/
def messageOf (problem direction objective options : Value) : Act Value := do
  let s ← get
  match s.plainProblem? problem, s.isPlainOperand objective with
  | some p, true =>
    match s.plainConstraints? p with
    | some constraints => do
      let direction ← directionOf direction
      let message ← ofProblem ((s.model p constraints).message s.inquiry direction
        (s.operandOf objective) (s.givenOptions options))
      giveDatum (message.toDatum fun name => .number name.value)
    | none => messageLoosely problem direction objective options
  | _, _ => messageLoosely problem direction objective options

end Milp.Session
