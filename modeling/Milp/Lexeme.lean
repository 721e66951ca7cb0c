import Milp.Text.Blank
import Milp.Text.Digit
import Milp.Constraint

/-!
# Lexemes

The words of the expression language: numerals with an optional sign and fraction, the four
arithmetic operators, parentheses and, in constraints, comparators. Reading takes the longest
lexeme; a sign in front of a digit belongs to the numeral.
-/

namespace Milp

open Text

/-- What a source is read as. Comparators are lexemes of constraints only. -/
inductive Mode where
  | expression
  | constraint
  deriving DecidableEq, Repr

/-- A number in digits. An empty fraction stands for no fraction and no point. -/
structure Numeral where
  sign : Option Char
  whole : List Char
  fraction : List Char
  deriving DecidableEq, Repr

inductive Lexeme where
  | numeral (n : Numeral)
  | operator (c : Char)
  | opening
  | closing
  | comparator (s : Sense)
  deriving DecidableEq, Repr

/-! ### Numerals -/

namespace Numeral

/-- The characters of a numeral. -/
def chars (n : Numeral) : List Char :=
  n.sign.toList ++ n.whole ++ if n.fraction.isEmpty then [] else '.' :: n.fraction

/-- The value of a numeral among the scalars. -/
def value {α : Type} [Scalar α] (n : Numeral) : α :=
  Scalar.ofLiteral (n.sign == some '-') (digitsValue (n.whole ++ n.fraction)) n.fraction.length

/-- The characters are the operator signs that may also be the sign of a numeral. -/
def isSign (c : Char) : Bool := c = '+' || c = '-'

/-- The point and the digits after it. -/
def readFraction : List Char → List Char
  | '.' :: cs => cs.takeWhile isDigit
  | _ => []

/-- The unsigned numeral at the start of a text that starts with a digit. -/
def readDigits (sign : Option Char) (cs : List Char) : Numeral :=
  ⟨sign, cs.takeWhile isDigit, readFraction (cs.dropWhile isDigit)⟩

/-- The numeral at the start of a text. -/
def read? : List Char → Option Numeral
  | [] => none
  | c :: cs =>
    if isDigit c then some (readDigits none (c :: cs))
    else if isSign c && cs.head?.any isDigit then some (readDigits (some c) cs)
    else none

end Numeral

/-! ### All lexemes -/

namespace Lexeme

/-- The characters of a lexeme. -/
def chars : Lexeme → List Char
  | numeral n => n.chars
  | operator c => [c]
  | opening => ['(']
  | closing => [')']
  | comparator s => s.text.toList

/-- An operand stands complete after the lexeme. -/
def completes : Lexeme → Bool
  | numeral _ | closing => true
  | _ => false

def isOperator (c : Char) : Bool := c = '-' || c = '+' || c = '*' || c = '/'

/-- The lexeme of one or two signs at the start of a text. -/
def readSign? (mode : Mode) : List Char → Option Lexeme
  | '(' :: _ => some opening
  | ')' :: _ => some closing
  | '<' :: '=' :: _ => if mode = .constraint then some (comparator .le) else none
  | '=' :: '=' :: _ => if mode = .constraint then some (comparator .eq) else none
  | '>' :: '=' :: _ => if mode = .constraint then some (comparator .ge) else none
  | c :: _ => if isOperator c then some (operator c) else none
  | [] => none

/-- The lexeme at the start of a text. -/
def read? (mode : Mode) (cs : List Char) : Option Lexeme :=
  match Numeral.read? cs with
  | some n => some (numeral n)
  | none => readSign? mode cs

end Lexeme

end Milp
