import Milp.Session.Problems
import Milp.Session.Records

/-!
# Solvers in a session

A problem is solved by what it was made with: prepared answers, a solver in matrix form, or a solver
library. Without any of these it gets a solver in matrix form with the default options. The engine
of the solvers in matrix form gives prepared outcomes too.
-/

namespace Milp.Session

/-! ### Answering a message -/

/-- An outcome with a status, a message and a point of doubles. -/
def outcomeOf (s : Session) (v : Value) : Except ScalarError (Outcome Number) := do
  let field := fun key => (s.findField v key).toOption.getD Value.null
  let point ← (s.items? (field "x")).mapM fun items => items.mapM fun x => do
    return Number.double (← (x.quantity?.getD (.mark false)).toNumber.toDouble)
  return ⟨(field "status").integer?.getD 0, s.wordOf (field "message"), point⟩

/-- The engine of the solvers in matrix form notes what it is asked and gives the prepared
outcomes. -/
def engine : Engine Value Number Session Failure := fun call s =>
  let s := { s with calls := s.calls ++ [call] }
  match s.outcomes with
  | [] => (.error .exhausted, s)
  | v :: rest => ((s.outcomeOf v).mapError .ofScalar, { s with outcomes := rest })

/-- Answers a message in matrix form. -/
def answerInMatrix (options message : Value) : Act Value := do
  let s ← get
  let options := (s.givenOptions options).getD (Options.default (δ := Value) (α := Value))
  let (r, s) := Program.answerMessage s.inquiry s.arrays options engine message s
  set s
  let verdict ← ofExcept .ofVerdict r
  let values ← verdict.values.mapM fun x => give (.quantity (.number x))
  giveDatum (Verdict.toDatum ⟨verdict.status, values⟩)

/-- The next prepared answer; message and options are noted. An answer that is a text is given as a
failure. -/
def nextAnswer (recorder : Value) (answers log : List Value) (options message : Value) :
    Act Value := do
  let log := log ++ [← giveList [message, options]]
  put recorder.tag (.recorder (answers.drop 1) log)
  match answers with
  | [] => throw .exhausted
  | answer :: _ =>
    match answer.text? with
    | some t => fail .solver t
    | none => return answer

/-- What a library replies to a message. -/
def replyTo (library message : Value) : Act Value := do
  if ← isTrue (← property library "_closed") then throw (.ofLibrary .closed)
  let s ← get
  let datum := s.toJson s.fuel message
  discard (ofExcept (.ofLibrary ∘ .unwritable) (datum.bind Json.text))
  let code ← property library "_lib"
  match code.content with
  | .code h => do
    let (r, host) := s.host.ask h datum
    modify fun s => { s with host }
    giveJson (← ofExcept .ofLibrary r)
  | _ => noProperty code "solve"

/-- What a solver does with a message. -/
def answerAs (solver options message : Value) : Act Value := do
  match (← get).object? solver with
  | some (.recorder answers log) => nextAnswer solver answers log options message
  | some _ => do
    answerInMatrix (← if options.isNull then property solver "options" else pure options) message
  | none => replyTo solver message

/-- Sends a message to a solver, and perhaps options with it. -/
def sendTo (solver message : Value) (options : List Value) : Act Value :=
  invoke solver "solve" (message :: options) (answerAs · (options.headD Value.null) message)

/-- A solver in matrix form. -/
def newEngine (options : Value) : Act Value := do
  let own ← if options.isNull then newOptions (Options.default (δ := Value) (α := Value))
    else pure options
  giveObject (.engine own)

/-- Sends a message to a new solver in matrix form. -/
def sendToEngine (message options : Value) : Act Value := do
  sendTo (← newEngine options) message []

/-! ### Solving a problem -/

/-- The solver of a problem. One without a solver gets one in matrix form. -/
def ensureSolver (problem : Value) : Act Value := do
  match (← get).problem? problem with
  | some p =>
    if p.solver.isNull then
      let solver ← newEngine Value.null
      put problem.tag (.problem { p with solver })
      return solver
    else return p.solver
  | none => return Value.null

/-- The solver of a problem as one that is sent messages. The solver is looked for when there is a
message, and then a log has a line on the problem. -/
def solverOf (caller : Caller) (problem options : Value) : Solver Filing Value Value Session Failure :=
  fun message s =>
    let send : Act Value := do
      let message ← giveDatum (message.toDatum fun name => .number name.value)
      let solver ← ensureSolver problem
      if let some p := (← get).problem? problem then
        discard (ofData ((← get).plainOf p.name))
        discard (ofData ((← get).lengthOf p.constraints))
      sendTo solver message [options]
    match (send.run caller).run s with
    | .ok v s => (.ok v, s)
    | .error e s => (.error e, s)

/-- Fails with an error of solving. -/
def failSolve {τ : Type} (e : SolveError Filing Value Failure) : Act τ :=
  match e with
  | .problem e => failProblem e
  | .solver e => throw e
  | .answer e => throw (.ofAnswer e)
  | .evaluation e => throw (.ofEvaluation e)
  | .log e => throw (.ofDatum e)

/-- An objective can be evaluated as it is: nothing in it is out of the ordinary, and all values are
quantities. -/
def isEvaluable (s : Session) (objective : Affine Filing Value)
    (solution : Solution Filing Value Value) : Bool :=
  isOrdinary objective && objective.vars.all s.isNamed &&
    solution.values.all fun f => f.2.quantity?.isSome

/-- Minimizes or maximizes where nothing is out of the ordinary. The log has a line on the
solution. -/
def solvePlainly (problem : Value) (p : Plain) (constraints : List (Constraint Filing Value))
    (direction : Direction) (given : Given Filing Value) (operands : List (Operand Filing Value))
    (options : Value) : Act Value := do
  let s ← get
  let run := Model.run view (solverOf (← read) problem options) direction given operands
    (s.givenOptions options)
  let adopt := fun (m : Model Filing Value Value) (s : Session) => set { s with store := m.store }
  match run.run (s.model p constraints, s) with
  | .ok (objective, solution) (m, s) => do
    adopt m s
    let s ← get
    if s.isEvaluable objective solution then
      match (Model.conclude (ε := Failure) view objective solution).run (m, s) with
      | .ok solution _ => giveSolution solution
      | .error e _ => failSolve e
    else
      let value ← if solution.isOptimal then
          some <$> valueUnderNames (← giveExpression objective) solution.values
        else pure none
      let v ← giveSolution { solution with objective := value.map .number }
      discard (ofData ((← get).displayOf v))
      return v
  | .error e (m, s) => do
    adopt m s
    failSolve e

/-- Gives the variables of a problem the values of a solution. -/
def storeValues (problem solution : Value) : Act Unit := do
  let register ← property problem "_variables"
  for f in ← pairsIn register do
    let value ← itemAt (← property solution "values") f.1
    setProperty f.2 "value" value

/-- Minimizes or maximizes an expression, step by step. -/
def solveLoosely (problem : Value) (direction : Direction) (objective options : Value) :
    Act Value := do
  let sense ← give (.direction direction)
  let message ← invoke problem "to_message" [sense, objective, options]
    (messageOf · sense objective options)
  if (← property problem "_backend").isNull then
    setProperty problem "_backend" (← newEngine Value.null)
  discard (ofData ((← get).plainOf (← property problem "name")))
  discard (ofData ((← get).lengthOf (← property problem "_variables")))
  discard (ofData ((← get).lengthOf (← property problem "constraints")))
  let answer ← sendTo (← property problem "_backend") message [options]
  let names ← walkThrough (← property problem "_variables")
  let solution ← solutionFrom answer (← giveList names)
  if ← isTrue (← isOptimal solution) then
    storeValues problem solution
    let values ← property solution "values"
    let value ← invoke objective "evaluate" [values] fun e => do
      valueUnderNames e (← recordFields values)
    setProperty solution "objective" value
  discard (ofData ((← get).displayOf solution))
  return solution

/-- Minimizes or maximizes. -/
def solve (problem : Value) (direction : Direction) (source : Value) (operands : List Value)
    (options : Value) : Act Value := do
  let s ← get
  match s.plainProblem? problem, s.offer? source operands with
  | some p, some (given, offered) =>
    match s.plainConstraints? p with
    | some constraints => solvePlainly problem p constraints direction given offered options
    | none => loosely
  | _, _ => loosely
where
  loosely : Act Value := do
    let target ← demand problem "_solve"
    let e ← invoke problem "objective" (source :: operands) fun _ => objective source operands
    match target with
    | .own self => solveLoosely self direction e options
    | .other f => do call f [← give (.direction direction), e, options]

/-! ### Prepared answers -/

/-- A solver that gives the answers. -/
def newRecorder (answers : Value) : Act Value := do
  giveObject (.recorder (← walkThrough answers) [])

/-- The messages that a solver with prepared answers has got since it was last asked. -/
def takeLog (v : Value) : Act Value := do
  match (← get).object? v with
  | some (.recorder answers log) => do
    put v.tag (.recorder answers [])
    giveList log
  | _ => noProperty v "messages"

/-- Prepares outcomes for the engine of the solvers in matrix form. -/
def prepare (outcomes : Value) : Act Unit :=
  modify fun s => { s with outcomes := s.outcomes ++ (s.items? outcomes).getD [] }

/-! ### Libraries -/

/-- Opens the library at a path. -/
def openLibrary (path : Value) : Act Value := do
  match path.content with
  | .text path | .path path => do
    let s ← get
    let (h, host) ← ofExcept .ofLibrary (Host.openLibrary path s.host)
    set { s with host }
    let library ← give (.library h)
    setNote library "binary_path" (← give (.path (host.path h)))
    setNote library "_lib" (← give (.code h))
    setNote library "_closed" (← giveTruth false)
    return library
  | c => fail .kind ("expected str, bytes or os.PathLike object, not " ++ c.kind.name)

/-- Closes a library. -/
def closeLibrary (v : Value) : Act Unit := do
  if ← isTrue (← property v "_closed") then return ()
  let code ← property v "_lib"
  match code.content with
  | .code h => do
    setProperty v "_lib" Value.null
    setProperty v "_closed" (← giveTruth true)
    modify fun s => { s with host := s.host.close h }
    discard (ofData ((← get).plainOf (← property v "binary_path")))
  | _ => noProperty code "_handle"

/-- Closes what was open for some time. -/
def leave (v : Value) : Act Unit := do
  discard (invoke v "close" [] fun v => do
    closeLibrary v
    return Value.null)

/-- Prepares replies for all libraries. -/
def prepareReplies (replies : List Reply) : Act Unit :=
  modify fun s => { s with host := { s.host with replies := s.host.replies ++ replies } }

end Milp.Session
