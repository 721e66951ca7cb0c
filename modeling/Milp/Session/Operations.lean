import Milp.Session.Making

/-!
# Carrying out operations

Every operation of every kind under its name, and what happens when any value at all is called. An
operation may call values in turn, and these calls are carried out in the same way.
-/

namespace Milp.Session

/-- The fields of a record as options. -/
def optionsFromRecord (v : Value) : Act Value := do
  let pairs ← (← pairsIn v).mapM fun p => give (.tuple [p.1, p.2])
  optionsFrom (.mk 0 (.tuple pairs))

/-- An operation of the algebra, if the other value can take part in it. -/
def operateAffine (v x : Value) (name : String) : Act Value := do
  if (x.number? <|> (x.quantity?.bind fun _ => none)).isNone && !x.isAffine then noResult
  else
    match operationNamed? name, orderNamed? name with
    | some (o, false), _ => calculate o v x
    | some (o, true), _ => if x.isAffine then noResult else calculate o x v
    | none, some test => order test v x
    | none, none => return Value.null

/-- A term of a factor and a variable. -/
def makeTerm (items : List Value) : Act Value := do
  match items with
  | [factor, x] => give (.term factor x)
  | _ => fail .kind ("Expected 2 arguments, got " ++ toString items.length)

/-- Carries out an operation that was defined for the kind of a value. -/
def operateOwn (self : Value) (name : String) (args : List Value) : Act Value := do
  let a := args.getD 0 Value.null
  let b := args.getD 1 Value.null
  let c := args.getD 2 Value.null
  let nothing := fun act : Act Unit => do
    act
    return Value.null
  match name with
  | "bounds" => setBounds self a b
  | "make_integer" => setInteger self
  | "make_binary" => setBinary self
  | "get_factor" => factorOf self a
  | "get_coefficient" => coefficientOf self a
  | "_asdict" => do
    giveFields ((fieldNames self.content).zip (((← get).items? self).getD []))
  | "_make" => makeTerm (← walkThrough a)
  | "_replace" => makeTerm (((← get).items? self).getD [])
  | "__getnewargs__" => do give (.tuple (((← get).items? self).getD []))
  | "terms" => giveTerms self
  | "variables" => do giveList (← variablesOf self)
  | "is_constant" => do giveTruth (← isConstant self)
  | "evaluate" => do valueUnderNames self (← recordFields a)
  | "from_comparison" => compare a b c
  | "from_format" => formatTemplate a (args.drop 1)
  | "coerce" => coerce a (args.getD 1 (.mk 0 (.tuple [])))
  | "substituted" => substituted self
  | "from_dict" => optionsFromRecord a
  | "to_dict" => recordOf self
  | "is_optimal" => isOptimal self
  | "from_message" => solutionFrom a b
  | "get_variable" => findVariable self a
  | "variable" =>
    addVariable self a b c (args.getD 3 (.ofTruth false)) (args.getD 4 Value.null)
  | "constraint" => addConstraint self a (args.drop 1)
  | "objective" => objective a (args.drop 1)
  | "_check_variables" => nothing (checkVariables self a)
  | "to_message" => messageOf self a b c
  | "minimize" => solve self .minimize a (args.drop 1) Value.null
  | "maximize" => solve self .maximize a (args.drop 1) Value.null
  | "_solve" => do solveLoosely self (← directionOf a) b c
  | "solve" => answerAs self b a
  | "problem" => newProblem self Value.null
  | "close" | "__del__" => nothing (closeLibrary self)
  | "__enter__" => return self
  | "__exit__" => do
    leave self
    giveTruth false
  | "__init__" => do
    let new ← makeOwn self.kind.name args
    nothing (((← get).madeWith new).forM fun p => setOwn self p.1 p.2)
  | "__setattr__" | "__delattr__" | "__repr__" | "__str__" | "__len__" | "__contains__" | "__getitem__"
  | "__iter__" => operateAs self name args
  | "__eq__" => if self.kind = a.kind then equality false self a else noResult
  | "__format__" => do inForm self (← argumentIn "__format__" "" a)
  | "__neg__" => negated self
  | "__pos__" => unchanged self
  | name =>
    match self.content with
    | .path path => operatePath path name args
    | _ => if self.isAffine then operateAffine self a name else return Value.null

/-- Carries out an operation of a kind; the value that it belongs to is the first of those given. -/
def operateKind (kind name : String) (args : List Value) : Act Value := do
  if let some message := refusal? kind name args.length then fail .kind message
  operateOwn (args.headD Value.null) name (args.drop 1)

/-- What happens when a value is called. -/
def respond (f : Value) (args : List Value) : Act Value := do
  match f.content with
  | .bound .method name self => operateKind (holder self) name (self :: args)
  | .bound .function name self => operateKind (holder self) name args
  | .bound .builtin name self => operateData self name args
  | .bound .operator name self => operateAs self name args
  | .typeOf kind => make kind args
  | c => throw (.ofDatum (.notCallable c.kind.fullName))

/-- A way to call values. The fuel is used up by one for every call inside of a call. -/
def callerWith : (fuel : Nat) → Caller
  | 0 => fun _ _ => throw (.ofDatum (.notCallable "function"))
  | fuel + 1 => fun f args => (respond f args).run (callerWith fuel)

/-- Calls can be inside of each other to a depth that none comes to. -/
def caller : Caller := callerWith 1000

/-- Carries out an act in a session. -/
def Act.perform {τ : Type} (act : Act τ) (s : Session) : EStateM.Result Failure Session τ :=
  (act.run caller).run s

end Milp.Session
