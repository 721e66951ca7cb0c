import Milp.Text.Digit

/-!
# Counts of repetition

How often a type is repeated is written in front of its name: as a number, or as several of them
with commas between or behind them, around which there may be parentheses. Blanks separate numbers.
-/

namespace Milp.Numeric

open Text

/-- A count of repetition: none, a number, or the lengths of a block. -/
inductive Repetition where
  | once
  | number (n : Nat)
  | shape (ns : List Nat)
  deriving DecidableEq, Repr

/-- Why a text is no count of repetition. -/
inductive RepetitionError where
  /-- There are only blanks. -/
  | blank
  /-- A number starts with a zero. -/
  | leadingZeros
  /-- A parenthesis is closed that is not open. -/
  | unmatched
  | unclosed
  /-- Two numbers in parentheses stand next to each other. -/
  | missingComma
  /-- A number has more digits than are read. -/
  | tooLong (digits : Nat)
  | malformed
  deriving DecidableEq, Repr

def RepetitionError.message (e : RepetitionError) : String :=
  let line := if e = .blank then "0" else "1"
  (match e with
    | .blank | .malformed => "invalid syntax"
    | .leadingZeros =>
      "leading zeros in decimal integer literals are not permitted; use an 0o prefix for octal " ++
        "integers"
    | .unmatched => "unmatched ')'"
    | .unclosed => "'(' was never closed"
    | .missingComma => "invalid syntax. Perhaps you forgot a comma?"
    | .tooLong digits =>
      "Exceeds the limit (4300 digits) for integer string conversion: value has " ++
        toString digits ++ " digits; use sys.set_int_max_str_digits() to increase the limit - " ++
        "Consider hexadecimal for huge integer literals to avoid decimal conversion limits.") ++
    " (<unknown>, line " ++ line ++ ")"

namespace Repetition

/-- The greatest number of digits of a number. -/
def mostDigits : Nat := 4300

/-- A lexeme of a count. -/
inductive Lexeme where
  | opening
  | closing
  | comma
  | digits (ds : List Char)
  deriving DecidableEq, Repr

/-- The lexemes of a text, in which a row of digits has begun or not. -/
def lexemes : (row : List Char) → List Char → List Lexeme
  | row, [] => finished row []
  | row, c :: cs =>
    if c.isDigit then lexemes (c :: row) cs
    else
      let rest := lexemes [] cs
      finished row (match c with
        | '(' => .opening :: rest
        | ')' => .closing :: rest
        | ',' => .comma :: rest
        | _ => rest)
where
  finished (row : List Char) (rest : List Lexeme) : List Lexeme :=
    if row.isEmpty then rest else .digits row.reverse :: rest

/-- What is wrong with the lexemes whatever order they come in: zeros in front of a number, and
closed parentheses without open ones. -/
def lexicalError? : (depth : Nat) → List Lexeme → Option RepetitionError
  | _, [] => none
  | depth, .opening :: rest => lexicalError? (depth + 1) rest
  | 0, .closing :: _ => some .unmatched
  | depth + 1, .closing :: rest => lexicalError? depth rest
  | depth, .comma :: rest => lexicalError? depth rest
  | depth, .digits ds :: rest =>
    if ds.head? = some '0' && ds.any (· ≠ '0') then some .leadingZeros
    else lexicalError? depth rest

/-- What a count has come to before the next lexeme. -/
inductive Place where
  | start
  | afterNumber
  | afterComma
  | closed
  deriving DecidableEq, Repr

/-- Reads the lexemes that follow. The numbers so far are held in reverse. -/
def readFrom (isOpen : Bool) (place : Place) (ns : List Nat) (hasComma : Bool) :
    List Lexeme → Except RepetitionError Repetition
  | [] =>
    if isOpen then .error .unclosed
    else
      match ns, hasComma with
      | [n], false => .ok (.number n)
      | ns, _ => .ok (.shape ns.reverse)
  | .opening :: rest =>
    if place = .start && !isOpen then readFrom true .start [] false rest else .error .malformed
  | .closing :: rest => if isOpen then readFrom false .closed ns hasComma rest else .error .unmatched
  | .comma :: rest =>
    if place = .afterNumber then readFrom isOpen .afterComma ns true rest else .error .malformed
  | .digits ds :: rest =>
    if place = .closed then .error .malformed
    else if mostDigits < ds.length && ds.any (· ≠ '0') then .error (.tooLong ds.length)
    else if place = .afterNumber then
      .error (if !isOpen then .malformed else if rest.isEmpty then .unclosed else .missingComma)
    else readFrom isOpen .afterNumber (digitsValue ds :: ns) hasComma rest

/-- Reads a count of repetition. -/
def ofText (cs : List Char) : Except RepetitionError Repetition :=
  if cs.isEmpty then .ok .once
  else
    match lexemes [] cs with
    | [] => .error .blank
    | ls =>
      match lexicalError? 0 ls with
      | some e => .error e
      | none => readFrom false .start [] false ls

end Repetition

end Milp.Numeric
