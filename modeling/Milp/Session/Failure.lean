import Milp.Number.Calculation
import Milp.Session.Data

/-!
# Errors as failures, results as values

The errors of the parts of the library as failures of a session, each with its class, its message
and what else it tells; and the expressions and constraints that come out of the algebra as values.
-/

namespace Milp.Session

/-! ### Results -/

/-- A filed term as a part of a new linear part. It is a new term unless both its parts are what
they were when it was made. -/
def placeTerm (t : Term Filing Value) : Act (Filing × Value) := do
  let isNew := t.key.termTag = 0 || t.factor.tag = 0
  let factor ← settle t.factor
  let tag ← if isNew then freshTag else pure t.key.termTag
  return (t.key, .mk tag (.term factor (.mk 0 (.var t.var))))

/-- A linear part with coefficients by their keys. -/
def giveLinear (coefficients : List (Filing × Value)) : Act Value := do
  giveObject (.linear (← giveRecord coefficients))

/-- An expression out of the algebra. -/
def giveExpression (e : Affine Filing Value) : Act Value := do
  let linear ← giveLinear (← e.linear.terms.mapM placeTerm)
  giveObject (.expression linear (← settle e.constant))

def giveConstraint (c : Constraint Filing Value) : Act Value := do
  let e ← giveExpression c.expression
  giveObject (.constraint e (← giveTruth c.isEquality))

/-- An operand that came out of the algebra. -/
def giveOperand : Operand Filing Value → Act Value
  | .number v => settle v
  | .var x => give (.var x)
  | .expression e => giveExpression e
  | .other o => give (match o.text? with
    | some t => .text t
    | none => .sealed o.kind.name)

/-- A token of operands as one of values. -/
def giveToken (t : Token (Operand Filing Value)) : Act (Token Value) := do
  let symbol ← match t.symbol with
    | .number v => Symbol.number <$> giveOperand v
    | .expression v => Symbol.expression <$> giveOperand v
    | .operator w => Symbol.operator <$> word w
    | .opening w => Symbol.opening <$> word w
    | .closing w => Symbol.closing <$> word w
    | .comparator w => Symbol.comparator <$> word w
  return ⟨symbol, t.place⟩
where
  word (w : Word (Operand Filing Value)) : Act (Word Value) := do
    match w with
    | .text s => return .text s
    | .other v sign => return .other (← giveOperand v) sign
    | .undecided v e => return .undecided (← giveOperand v) e

/-! ### Failures -/

namespace Failure

def ofScalar (e : ScalarError) : Failure := plain e.errorClass e.message

def ofCalculation (e : CalculationError) : Failure := plain e.errorClass e.message

def ofAlgebra (e : AlgebraError) : Failure := plain e.errorClass e.message

def ofLexical (e : LexicalError) : Failure := ⟨.lexical, e.message, .lexical e⟩

def ofTemplate (e : TemplateError) : Failure := plain e.errorClass e.message

def ofScan : ScanError AlgebraError → Failure
  | .lexical e => ofLexical e
  | .operand e => ofAlgebra e

def ofOptions (e : OptionsError) : Failure := plain e.errorClass e.message

def ofAnswer (e : AnswerError) : Failure := plain e.errorClass e.message

def ofEvaluation (e : EvaluationError) : Failure := plain e.errorClass e.message

def ofItem (e : Numeric.ItemError) : Failure := plain e.errorClass e.message

def ofLibrary (e : LibraryError) : Failure := plain e.errorClass e.message

/-- There are no more prepared answers. -/
def exhausted : Failure := ofLibrary .exhausted

def ofVerdict (e : VerdictError Failure) : Failure :=
  match e with
  | .matrix e => plain e.errorClass e.message
  | .options e => ofDatum e
  | .undecided .. => plain .solver (e.message fun _ => "")
  | .noPoint => plain .property (e.message fun _ => "")
  | .engine e => e

/-- An error of the grammar with its message and the token to blame. Where writing the message
fails, that is the failure. -/
def ofGrammar {β : Type} (e : GrammarError β) (message : Except DatumError String)
    (token : Option (Token Value)) : Failure :=
  match message with
  | .ok text =>
    let isPlain := e.errorClass = .endOfInput ∨ e.errorClass = .value
    ⟨e.errorClass, text, if isPlain then .nothing else .token token⟩
  | .error e => ofDatum e

end Failure

/-- Fails with an error of a source. -/
def failSource {τ : Type} (e : SourceError Filing Value) : Act τ := do
  match e with
  | .lexical e => throw (.ofLexical e)
  | .grammar g => do
    let message := ofName (e.message (← get).store.name)
    throw (.ofGrammar g message (← g.token?.mapM giveToken))
  | .template e => throw (.ofTemplate e)
  | .algebra e => throw (.ofAlgebra e)
  | .operandsOfValue | .operandsOfObjective =>
    throw (.plain e.errorClass ((e.message (← get).store.name).toOption.getD ""))

/-- Fails with an error of a problem. -/
def failProblem {τ : Type} (e : ProblemError Filing Value) : Act τ := do
  match e with
  | .source e => failSource e
  | .datum e => throw (.ofDatum e)
  | e => do
    let detail := match e with
      | .duplicate name => .name name.value
      | _ => .nothing
    throw ⟨e.errorClass, (e.message (← get).store.name).toOption.getD "", detail⟩

/-- The result of a computation on sources. -/
def ofSource {τ : Type} : Except (SourceError Filing Value) τ → Act τ
  | .ok x => return x
  | .error e => failSource e

/-- The result of a computation on data. -/
def ofData {τ : Type} (r : Except DatumError τ) : Act τ := ofExcept .ofDatum r

/-- Takes so many of the items that an iterator still has. -/
def takeItems (v : Value) (count : Nat) : Act Unit :=
  modify fun s => { s with
    taken := setField v.tag ((s.taken.lookup v.tag).getD 0 + count) s.taken }

/-- All of the items that a value is made of; those of an iterator are gone after that. -/
def walkThrough (v : Value) : Act (List Value) := do
  let items ← ofData ((← get).walk v)
  if v.content matches .iterator .. then takeItems v items.length
  return items

/-- A value counts as true. -/
def isTrue (v : Value) : Act Bool := do ofData ((← get).truthOf v)

/-- What stands for a result where an operator does not take a value. -/
def noResult : Act Value := give (.sealed "NotImplementedType")

/-- The text of some code points. -/
def givePoints (ps : List Nat) : Act Value := giveText (Text.ofPoints ps)

/-- The text of some code points, which is the given value if they are all of its own. -/
def keepPoints (v : Value) (ps : List Nat) : Act Value :=
  if v.text?.any fun t => Text.points t == ps then return v else givePoints ps

/-- As `keepPoints`, with a text. -/
def keepText (v : Value) (t : String) : Act Value :=
  if v.text? == some t then return v else giveText t

/-- A value in the form in which it stands alone. A text has that form already. -/
def write (v : Value) : Act Value := do
  match v.text? with
  | some _ => return v
  | none => do giveText (← ofData ((← get).plainOf v))

end Milp.Session
