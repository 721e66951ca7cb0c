import Milp.Text.Quoted
import Milp.Scalar

/-!
# Names

Variables are filed under their names. As a rule a name is a text; all that is needed of a name is
that it can be compared and written. What is no text cannot be joined with text, and what can change
cannot be filed under.
-/

namespace Milp

/-- What can name a variable. -/
class Name (ν : Type) extends BEq ν where
  /-- The name in a text. -/
  text : ν → String
  /-- The name as a value in a message. -/
  display : ν → String
  /-- The kind of a name that is no text. -/
  otherKind? : ν → Option String
  /-- The kind of a name under which nothing can be filed. -/
  unfit? : ν → Option String

instance : Name String where
  text s := s
  display := Text.quoted
  otherKind? _ := none
  unfit? _ := none

/-- Why something cannot be written: a name in it has to be a text and is none, or there is a number
that cannot be written. The kind of the name is given. -/
inductive NameError where
  /-- Among texts that are joined; the place in their list is given. -/
  | notJoinable (index : Nat) (kind : String)
  /-- At the start of a text that goes on; the kind of the name is given in full, and the number of
  characters by which the text goes on. -/
  | notExtendable (kind : String) (added : Nat)
  /-- Where the first character is looked at. -/
  | notText (kind : String)
  | number (e : ScalarError)
  deriving DecidableEq, Repr

/-- The short name of a kind of elements of numeric arrays; the full name is given. -/
def elementOfArray? (kind : String) : Option String :=
  if kind.startsWith "numpy." then some (kind.drop 6).toString else none

def NameError.message : NameError → String
  | .notJoinable index kind =>
    "sequence item " ++ toString index ++ ": expected str instance, " ++ kind ++ " found"
  | .notExtendable kind added =>
    if kind = "tuple" ∨ kind = "Term" then (ScalarError.concatenation "tuple" "str").message
    else
      match elementOfArray? kind with
      | some name => (ScalarError.noLoop "add" name ("<U" ++ toString added)).message
      | none => unsupportedText "+=" kind "str"
  | .notText kind => "'" ++ kind ++ "' object has no attribute 'startswith'"
  | .number e => e.message

def NameError.errorClass : NameError → ErrorClass
  | .notJoinable .. => .kind
  | .notExtendable kind _ => if (elementOfArray? kind).isSome then .loop else .kind
  | .notText _ => .property
  | .number e => e.errorClass

/-! ### Pieces of text -/

/-- What is to stand in a text: some text, or a name that is none, with its kind. -/
inductive Piece where
  | text (cs : List Char)
  | bare (kind : String) (written : String)
  deriving DecidableEq, Repr

namespace Piece

/-- A name as it stands alone. -/
def ofName {ν : Type} [Name ν] (name : ν) : Piece :=
  match Name.otherKind? name with
  | none => text (Name.text name).toList
  | some kind => bare kind (Name.text name)

/-- Joins pieces, the first of which is the piece `index` of the whole. -/
def join (index : Nat) : List Piece → Except NameError (List Char)
  | [] => .ok []
  | text cs :: rest => do return cs ++ (← join (index + 1) rest)
  | bare kind _ :: _ => .error (.notJoinable index kind)

end Piece

end Milp
