import Milp.Lexeme
import Milp.Template
import Milp.Feed

/-!
# Tokens

The tokens of a template: the lexemes of every segment, and between two segments one token for the
operand that stands there. They come as a feed, so a text that cannot be read is noticed only when
the tokens before it are used up.
-/

namespace Milp

/-- Where a token stands: in a segment at a column, or as the operand after a segment. -/
structure Place where
  segment : Option Int
  column : Option Int
  deriving DecidableEq, Repr

/-- What stands in the place of a sign: as a rule its text. -/
inductive Word (β : Type) where
  | text (s : String)
  /-- Anything else, with the sign that it is equal to, or a text that is none. -/
  | other (v : β) (sign : String)
  /-- Anything else, where it cannot be told which sign it is equal to. -/
  | undecided (v : β) (e : Numeric.BlockError)
  deriving DecidableEq, Repr

namespace Word

variable {β γ φ : Type}

def map (f : β → γ) : Word β → Word γ
  | text s => text s
  | other v sign => other (f v) sign
  | undecided v e => undecided (f v) e

/-- The sign that the word counts as. -/
def sign : Word β → Except Numeric.BlockError String
  | text sign | other _ sign => .ok sign
  | undecided _ e => .error e

/-- The sign that the word counts as; one that cannot be told is none. -/
def sign? (w : Word β) : Option String := w.sign.toOption

/-- The word in a message. -/
def inMessage (plain : β → Except φ String) : Word β → Except φ String
  | text s => .ok s
  | other v _ | undecided v _ => plain v

end Word

/-- What a token is. The payload of numbers and expressions is left open. -/
inductive Symbol (β : Type) where
  | number (v : β)
  | expression (v : β)
  | operator (w : Word β)
  | opening (w : Word β)
  | closing (w : Word β)
  | comparator (w : Word β)
  deriving DecidableEq, Repr

structure Token (β : Type) where
  symbol : Symbol β
  place : Place
  deriving DecidableEq, Repr

def Symbol.map {β γ : Type} (f : β → γ) : Symbol β → Symbol γ
  | number v => number (f v)
  | expression v => expression (f v)
  | operator w => operator (w.map f)
  | opening w => opening (w.map f)
  | closing w => closing (w.map f)
  | comparator w => comparator (w.map f)

def Token.map {β γ : Type} (f : β → γ) (t : Token β) : Token γ := ⟨t.symbol.map f, t.place⟩

/-- A character at which no lexeme starts. -/
structure LexicalError where
  char : String
  index : Nat
  segment : String
  source : String
  deriving DecidableEq, Repr

/-- The part is named only when it is not the whole source. -/
def LexicalError.message (e : LexicalError) : String :=
  "unexpected character '" ++ e.char ++ "'\n  at index " ++ toString e.index ++
    (if e.source = e.segment then "" else "\n  in the part '" ++ e.segment ++ "'") ++
    "\n  in the expression '" ++ e.source ++ "'"

/-- Why there is no next token. -/
inductive ScanError (κ : Type) where
  | lexical (e : LexicalError)
  | operand (e : κ)
  deriving DecidableEq, Repr

/-! ### Tokens in messages -/

def Place.text (p : Place) : String :=
  let number := fun n : Option Int => match n with
    | some n => integerText n
    | none => "None"
  match p.column with
  | none => "operand " ++ number p.segment
  | some c => "index " ++ integerText c ++ " in part " ++ number p.segment

/-- How the payload of a token is written, which may fail: as a value, or in the place of a sign. -/
structure Writer (β φ : Type) where
  display : β → Except φ String
  plain : β → Except φ String

/-- A token in a message. -/
def Token.text {β φ : Type} (write : Writer β φ) (t : Token β) : Except φ String := do
  let shown ← match t.symbol with
    | .number v | .expression v => write.display v
    | .operator w | .opening w | .closing w | .comparator w => do
      pure ("'" ++ (← w.inMessage write.plain) ++ "'")
  return shown ++ " at " ++ t.place.text

/-! ### Scanning -/

section Scan

variable {β κ ω : Type} (mode : Mode) (value : Numeral → β)

/-- The tokens of a lexeme. A signed numeral after a complete operand is added to it. -/
def Lexeme.tokens (place : Place) (complete : Bool) : Lexeme → List (Token β)
  | .numeral n =>
    let token : Token β := ⟨.number (value n), place⟩
    if complete && n.sign.isSome then [⟨.operator (.text "+"), place⟩, token] else [token]
  | .operator c => [⟨.operator (.text (String.singleton c)), place⟩]
  | .opening => [⟨.opening (.text "("), place⟩]
  | .closing => [⟨.closing (.text ")"), place⟩]
  | .comparator s => [⟨.comparator (.text s.text), place⟩]

/-- The tokens of a segment from a column on. `skip` characters still belong to the lexeme before,
and `complete` tells whether an operand stands complete; at the end the feed hands it on. -/
def scanSegment (segment : Nat) :
    (skip : Nat) → (complete : Bool) → (column : Nat) → List Char →
      Feed (Token β) (String × Nat) Bool
  | _, complete, _, [] => .done complete
  | skip + 1, complete, column, _ :: cs => scanSegment segment skip complete (column + 1) cs
  | 0, complete, column, c :: cs =>
    if Text.isBlank c then scanSegment segment 0 complete (column + 1) cs
    else
      match Lexeme.read? mode (c :: cs) with
      | none => .fail (Text.firstOf (c :: cs), column)
      | some lexeme =>
        (Feed.ofList (lexeme.tokens value ⟨some segment, some column⟩ complete)).followedBy
          (scanSegment segment (lexeme.chars.length - 1) lexeme.completes (column + 1) cs)

/-- A character that starts no lexeme as an error. Where the source cannot be written, that error
takes its place. -/
def ScanError.ofChar (source : Except κ String) (segment : String) (e : String × Nat) :
    ScanError κ :=
  match source with
  | .ok source => .lexical ⟨e.1, e.2, segment, source⟩
  | .error e => .operand e

/-- The tokens of a segment, then those of the operand and segments after it. -/
def scanFrom (read : ω → Except κ (Symbol β)) (source : Except κ String) :
    (index : Nat) → (complete : Bool) → (segment : String) → List (ω × String) →
      Feed (Token β) (ScanError κ) Unit
  | index, complete, segment, [] =>
    ((scanSegment mode value index 0 complete 0 segment.toList).mapError
      (.ofChar source segment)).andThen fun _ => .done ()
  | index, complete, segment, (o, next) :: rest =>
    ((scanSegment mode value index 0 complete 0 segment.toList).mapError
      (.ofChar source segment)).andThen fun _ =>
        match read o with
        | .error e => .fail (.operand e)
        | .ok symbol =>
          .next ⟨symbol, ⟨some index, none⟩⟩ (scanFrom read source (index + 1) true next rest)

/-- The tokens of a template. -/
def Template.scan (read : ω → Except κ (Symbol β)) (source : Except κ String) (t : Template ω) :
    Feed (Token β) (ScanError κ) Unit :=
  scanFrom mode value read source 0 false t.first t.rest

end Scan

end Milp
