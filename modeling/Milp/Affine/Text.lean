import Milp.Constraint

/-!
# Expressions in writing

The terms in order and then the constant, joined by plus and minus signs. A factor of one is not
written, a factor of minus one is written as a sign, and a constant of zero is left out unless it
stands alone. A name that is no text can stand alone, but not in a sum.
-/

namespace Milp

/-- Joins the parts of a sum; a part that starts with a minus sign is subtracted. -/
def joinParts (first : List Char) : List Piece → Except NameError (List Char)
  | [] => .ok first
  | .text ('-' :: part) :: rest => joinParts (first ++ " - ".toList ++ part) rest
  | .text part :: rest => joinParts (first ++ " + ".toList ++ part) rest
  | .bare kind _ :: _ => .error (.notText kind)

/-- The sum of some parts. -/
def partsText : List Piece → Except NameError String
  | [] => .ok ""
  | [.bare _ written] => .ok written
  | .bare _ _ :: .bare kind _ :: _ => .error (.notText kind)
  | .bare kind _ :: .text part :: _ =>
    let added := if part.head? = some '-' then 2 else 3
    .error (.notExtendable kind ((Text.pointsOf part).length + added))
  | .text first :: rest => String.ofList <$> joinParts first rest

section Name

variable {ν α : Type} [Name ν] [Scalar α]

/-- One term of a sum, of a variable called `name`. -/
def termPart (factor : α) (name : ν) : Piece :=
  if Scalar.is factor 1 then .ofName name
  else if Scalar.is factor (-1) then .text ('-' :: (Name.text name).toList)
  else .text ((Scalar.plain factor).toList ++ '*' :: (Name.text name).toList)

/-- A sum of terms and a constant in writing. -/
def sumText (terms : List (ν × α)) (constant : α) : Except NameError String :=
  let parts := terms.map fun t => termPart t.2 t.1
  partsText (if !Scalar.isZero constant || parts.isEmpty then
      parts ++ [.text (Scalar.plain constant).toList]
    else parts)

/-- An expression in writing. -/
def expressionText (terms : List (ν × α)) (constant : α) : Except NameError String := do
  return "Expression(" ++ (← sumText terms constant) ++ ")"

/-- A linear part in writing. -/
def linearText (terms : List (ν × α)) : Except NameError String := do
  return "LinearExpression(" ++ (← sumText terms Scalar.zero) ++ ")"

/-- A constraint in writing. -/
def constraintText (terms : List (ν × α)) (constant : α) (isEquality : Bool) :
    Except NameError String := do
  return "Constraint(" ++ (← sumText terms constant) ++
    (if isEquality then " == " else " <= ") ++ "0)"

/-- The number must be one that can be written. -/
def requireWritten (n : α) : Except NameError Unit := discard ((Scalar.written n).mapError .number)

namespace Affine

/-- The sum that an expression is. -/
def sum (name : Var → ν) (e : Affine ν α) : Except NameError String :=
  sumText (e.terms name) e.constant

/-- An expression in writing. Its numbers are written before its parts are joined. -/
def display (name : Var → ν) (e : Affine ν α) : Except NameError String := do
  e.linear.terms.forM fun t => requireWritten t.factor
  requireWritten e.constant
  expressionText (e.terms name) e.constant

/-- All numbers of an expression must be ones that can be written. -/
def requireNumbers (e : Affine ν α) : Except NameError Unit := do
  e.linear.terms.forM fun t => requireWritten t.factor
  requireWritten e.constant

end Affine

def Linear.display (name : Var → ν) (l : Linear ν α) : Except NameError String :=
  linearText ((Affine.mk l Scalar.zero).terms name)

def Constraint.display (name : Var → ν) (c : Constraint ν α) : Except NameError String :=
  constraintText (c.expression.terms name) c.expression.constant c.isEquality

/-- An operand as it shows among the data of a message. -/
def Operand.display (name : Var → ν) : Operand ν α → Except NameError String
  | .number n => do
    requireWritten n
    return Scalar.display n
  | .var x => .ok ("Variable(" ++ Name.text (name x) ++ ")")
  | .expression e => e.display name
  | .other o => .ok (match o.text? with
    | some s => Text.quoted s
    | none => "<" ++ o.kind.name ++ ">")

/-- An operand as it stands in a source: an expression shows only as a placeholder, and a variable
by its name, which may be no text. -/
def Operand.inSource (name : Var → ν) : Operand ν α → Except NameError Piece
  | .number n => do return .text (← (Scalar.written n).mapError .number).toList
  | .var x => .ok (.ofName (name x))
  | _ => .ok (.text "<exp>".toList)

end Name

end Milp
