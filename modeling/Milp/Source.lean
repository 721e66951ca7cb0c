import Milp.Tree.Value
import Milp.Affine.Text

/-!
# Sources

A source of the expression language is a format string with its operands, a template, or an object
in the shape of one. From a template the tokens are scanned, the tree is built and its value lifted
to an expression. The template and the expression are written down in a log, so both must have a
written form.
-/

namespace Milp

/-- What can be read as a template. -/
inductive Source (ω : Type) where
  /-- A format string, which takes its operands from elsewhere. -/
  | format (s : String)
  | template (t : Template ω)
  /-- An object with the parts of a template, which have not been looked at. -/
  | parts (segments : List String) (values : List ω)

/-- What is given where a source, an operand or a constraint may stand. -/
inductive Given (ν α : Type) [BEq ν] where
  | source (s : Source (Operand ν α))
  | operand (o : Operand ν α)
  | constraint (c : Constraint ν α)

/-- Why a source is no template. -/
inductive TemplateError where
  | segments (e : SegmentCount)
  /-- Operands were given to a template, which has its own. -/
  | readyTemplate
  | notASource (kind : String)
  deriving DecidableEq, Repr

def TemplateError.message : TemplateError → String
  | .segments e => e.message
  | .readyTemplate => "Operands can only be passed with a format string"
  | .notASource kind => "Cannot interpret " ++ kind ++ " as a template"

def TemplateError.errorClass : TemplateError → ErrorClass
  | .segments _ => .value
  | .readyTemplate | .notASource _ => .kind

/-- Why a source has no value. -/
inductive SourceError (ν α : Type) [BEq ν] where
  | template (e : TemplateError)
  /-- Operands were given to a value, which takes none. -/
  | operandsOfValue
  | operandsOfObjective
  | lexical (e : LexicalError)
  | grammar (e : GrammarError (Operand ν α))
  | algebra (e : AlgebraError)

namespace SourceError

variable {ν α : Type} [Name ν] [Scalar α]

/-- The message of an error; writing the tokens in it may fail. -/
def message (name : Var → ν) : SourceError ν α → Except NameError String
  | template e => .ok e.message
  | operandsOfValue => .ok "exp() takes operands only together with a format string"
  | operandsOfObjective => .ok "Objective operands can only be passed with a format string"
  | lexical e => .ok e.message
  | grammar e => e.message ⟨Operand.display name, Operand.display name⟩
  | algebra e => .ok e.message

def errorClass : SourceError ν α → ErrorClass
  | template e => e.errorClass
  | operandsOfValue | operandsOfObjective => .kind
  | lexical _ => .lexical
  | grammar e => e.errorClass
  | algebra e => e.errorClass

/-- A failed reading as an error of the source. -/
def ofRead : ReadError (ScanError AlgebraError) (Operand ν α) → SourceError ν α
  | .feed (.lexical e) => lexical e
  | .feed (.operand e) => algebra e
  | .grammar e => grammar e

/-- A name that cannot be written as an error of the source. -/
def ofName (e : NameError) : SourceError ν α := algebra (.name e)

end SourceError

/-- The template of a source and its operands. -/
def Source.toTemplate {ω : Type} (s : Source ω) (operands : List ω) :
    Except TemplateError (Template ω) :=
  match s with
  | .format s => (Template.ofFormat? s operands).mapError .segments
  | .template t => if operands.isEmpty then .ok t else .error .readyTemplate
  | .parts segments values =>
    if operands.isEmpty then (Template.ofParts? segments values).mapError .segments
    else .error .readyTemplate

variable {ν α : Type} [Name ν] [Scalar α]

/-- Something of which only its kind counts. -/
def Outsider.named (kind : String) : Outsider := ⟨.plain kind, none, false, 0⟩

/-- The given thing where an operand is due. -/
def Given.toOperand : Given ν α → Operand ν α
  | .source (.format s) => .other ⟨.plain "str", some s, true, Text.size s⟩
  | .source (.template _) => .other (.named "Template")
  | .source (.parts ..) => .other (.named "TString")
  | .operand o => o
  | .constraint _ => .other (.named "Constraint")

/-- The template of the given thing and its operands. -/
def Given.toTemplate (g : Given ν α) (operands : List (Operand ν α)) :
    Except TemplateError (Template (Operand ν α)) :=
  match g with
  | .source s => s.toTemplate operands
  | g => .error (.notASource g.toOperand.kind.name)

/-! ### Evaluation -/

section Evaluation

variable (name : Var → ν)

/-- An operand as a token: numbers as they are, all else lifted. -/
def Operand.symbol (o : Operand ν α) : Except AlgebraError (Symbol (Operand ν α)) :=
  match o with
  | .number n => .ok (.number (.number n))
  | o => (o.lift name).map fun e => .expression (.expression e)

namespace Template

/-- The tokens of a template of operands. -/
def tokens (mode : Mode) (t : Template (Operand ν α)) :
    Feed (Token (Operand ν α)) (ScanError AlgebraError) Unit :=
  t.scan mode (fun n => .number n.value) (Operand.symbol name)
    ((t.substituted (Operand.inSource name)).mapError .name)

/-- A template in writing. -/
def display (t : Template (Operand ν α)) : Except NameError String := do
  return "Template(" ++ Text.quoted (← t.substituted (Operand.inSource name)) ++ ")"

/-- The line that a log has on the evaluation of a template. -/
def logLine (t : Template (Operand ν α)) (e : Affine ν α) : Except NameError String := do
  return "Evaluated " ++ (← t.display name) ++ " to " ++ (← e.display name)

/-- The expression that a template stands for. -/
def evaluate (t : Template (Operand ν α)) : Except (SourceError ν α) (Affine ν α) := do
  let tree ← (Tree.ofFeed (t.tokens name .expression)).mapError .ofRead
  let e ← (tree.toAffine name).mapError .algebra
  discard ((t.logLine name e).mapError .ofName)
  return e

/-- The two sides of the constraint that a template stands for, and its comparator. -/
def evaluateConstraint (t : Template (Operand ν α)) :
    Except (SourceError ν α) (Affine ν α × String × Affine ν α) := do
  let c ← (Comparison.ofFeed (t.tokens name .constraint)).mapError .ofRead
  let left ← (c.left.toAffine name).mapError .algebra
  let right ← (c.right.toAffine name).mapError .algebra
  return (left, c.comparator.sign?.getD "", right)

end Template

/-- The expression that a source or a value stands for. A value takes no operands. -/
def Given.evaluate (refusal : SourceError ν α) (g : Given ν α) (operands : List (Operand ν α)) :
    Except (SourceError ν α) (Affine ν α) :=
  match g with
  | .source s => do (← (s.toTemplate operands).mapError .template).evaluate name
  | g =>
    if operands.isEmpty then (g.toOperand.lift name).mapError .algebra else .error refusal

end Evaluation

end Milp
