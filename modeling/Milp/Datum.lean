import Milp.Name
import Milp.Numeric.Block

/-!
# Data

The data that a model takes in from outside without knowing their shape: bounds and starting values
of variables, solver options, messages, and the answers of solvers. A datum is passed on unchanged
until something asks it for a number, a truth value or its items.
-/

namespace Milp

inductive Datum (α : Type) where
  | null
  | number (n : α)
  | text (s : String)
  | list (items : List (Datum α))
  /-- Named fields, in the order in which the names were first given. -/
  | record (fields : List (String × Datum α))

instance {α : Type} : Inhabited (Datum α) := ⟨.null⟩

/-- What can stand where data from outside stand. -/
class Data (δ : Type) (α : outParam Type) where
  /-- The datum that stands for nothing. -/
  null : δ
  ofNumber : α → δ

instance {α : Type} : Data (Datum α) α := ⟨.null, .number⟩

/-- Why a datum cannot be read as what was asked for. -/
inductive DatumError where
  /-- There is nothing under a key; the key is given as a message shows it. -/
  | missing (key : String)
  /-- A field was demanded of a datum that has none. -/
  | notIndexed (kind : String)
  /-- A field was demanded of a number out of an array. -/
  | invalidPlace
  | notSized (kind : String)
  | notList (kind : String)
  /-- A datum of the kind has no property of the name. -/
  | noProperty (kind key : String)
  /-- A kind itself has no property of the name. -/
  | noPropertyOfKind (kind key : String)
  /-- A kind with finitely many members has none of the name. -/
  | noMember (key : String)
  /-- A kind itself was asked for what it holds. -/
  | notIndexedKind (kind : String)
  /-- Nothing can be filed under a datum of the kind. -/
  | unhashable (kind : String)
  /-- What should be an operation is a value of the kind. -/
  | notCallable (kind : String)
  /-- What should have fields is a value of the kind. -/
  | notAMapping (kind : String)
  | name (e : NameError)
  | scalar (e : ScalarError)
  | block (e : Numeric.BlockError)
  deriving DecidableEq, Repr

def DatumError.message : DatumError → String
  | .missing key => key
  | .notIndexed kind =>
    if kind = "list" ∨ kind = "tuple" then kind ++ " indices must be integers or slices, not str"
    else if kind = "str" then "string indices must be integers, not 'str'"
    else "'" ++ kind ++ "' object is not subscriptable"
  | .invalidPlace => "invalid index to scalar variable."
  | .notSized kind => "object of type '" ++ kind ++ "' has no len()"
  | .notList kind => "'" ++ kind ++ "' object is not iterable"
  | .noProperty kind key => "'" ++ kind ++ "' object has no attribute '" ++ key ++ "'"
  | .unhashable kind => "unhashable type: '" ++ kind ++ "'"
  | .notCallable kind => "'" ++ kind ++ "' object is not callable"
  | .noPropertyOfKind kind key => "type object '" ++ kind ++ "' has no attribute '" ++ key ++ "'"
  | .noMember key => key
  | .notIndexedKind kind => "type '" ++ kind ++ "' is not subscriptable"
  | .notAMapping kind => "mappingproxy() argument must be a mapping, not " ++ kind
  | .name e => e.message
  | .scalar e => e.message
  | .block e => e.message

def DatumError.errorClass : DatumError → ErrorClass
  | .missing _ => .key
  | .invalidPlace => .place
  | .noProperty .. | .noPropertyOfKind .. | .noMember _ => .property
  | .notIndexed _ | .notIndexedKind _ | .notSized _ | .notList _ | .unhashable _ | .notCallable _
  | .notAMapping _ => .kind
  | .name e => e.errorClass
  | .scalar e => e.errorClass
  | .block e => e.errorClass

/-! ### Fields -/

/-- Files a value under a key: in place of what was filed under it, or at the end. -/
def setField {κ β : Type} [BEq κ] (key : κ) (value : β) : List (κ × β) → List (κ × β)
  | [] => [(key, value)]
  | (k, v) :: fields =>
    if k == key then (k, value) :: fields else (k, v) :: setField key value fields

theorem lookup_setField {κ β : Type} [BEq κ] [LawfulBEq κ] (key key' : κ) (v : β)
    (fields : List (κ × β)) :
    (setField key v fields).lookup key' = if key' == key then some v else fields.lookup key' := by
  induction fields with
  | nil =>
    rw [setField, List.lookup_cons]
    cases key' == key <;> rfl
  | cons f fields ih =>
    obtain ⟨k, w⟩ := f
    rw [setField]
    split
    next hk =>
      obtain rfl := eq_of_beq hk
      rw [List.lookup_cons, List.lookup_cons]
      cases key' == k <;> rfl
    next hk =>
      rw [List.lookup_cons, List.lookup_cons, ih]
      cases hkey : key' == k with
      | false => rfl
      | true =>
        obtain rfl := eq_of_beq hkey
        exact (if_neg hk).symm

/-- The fields of a list in which a later mention of a key wins. -/
def fieldsOfList {κ β : Type} [BEq κ] (fields : List (κ × β)) : List (κ × β) :=
  fields.foldl (fun acc f => setField f.1 f.2 acc) []

/-- Texts with a separator between them. -/
def joined (separator : String) : List String → String
  | [] => ""
  | [s] => s
  | s :: rest => s ++ separator ++ joined separator rest

namespace Datum

variable {α : Type} [Scalar α]

/-! ### Reading -/

def kind : Datum α → Kind
  | null => .plain "NoneType"
  | number n => Scalar.kind n
  | text _ => .plain "str"
  | list _ => .plain "list"
  | record _ => .plain "dict"

def isNull : Datum α → Bool
  | null => true
  | _ => false

/-- The text that the datum is. -/
def text? : Datum α → Option String
  | text s => some s
  | _ => none

/-- Nothing, zero and whatever is empty count as false, all else as true. -/
def truth : Datum α → Bool
  | null => false
  | number n => !Scalar.isZero n
  | text s => !s.isEmpty
  | list items => !items.isEmpty
  | record fields => !fields.isEmpty

/-- The field of a name, which has to be there. -/
def get (d : Datum α) (key : String) : Except DatumError (Datum α) :=
  match d with
  | record fields =>
    match fields.lookup key with
    | some v => .ok v
    | none => .error (.missing (Text.quoted key))
  | d => .error (.notIndexed d.kind.fullName)

/-- The field of a name; nothing when the record has none of that name. -/
def find (d : Datum α) (key : String) : Except DatumError (Datum α) :=
  match d with
  | record fields => .ok ((fields.lookup key).getD .null)
  | d => .error (.noProperty d.kind.fullName "get")

/-- The items of a list, the characters of a text, or the names of a record. -/
def items : Datum α → Except DatumError (List (Datum α))
  | list items => .ok items
  | text s => .ok ((Text.singles s).map text)
  | record fields => .ok (fields.map fun f => text f.1)
  | d => .error (.notList d.kind.fullName)

/-- The number of items. -/
def size : Datum α → Except DatumError Nat
  | list items => .ok items.length
  | text s => .ok (Text.size s)
  | record fields => .ok fields.length
  | d => .error (.notSized d.kind.fullName)

/-- The datum as a measure. A text is read as a number in writing. -/
def measure (ofText : String → Option α) : Datum α → Except DatumError α
  | number n => (Scalar.measure n).mapError .scalar
  | text s =>
    match ofText s with
    | some n => .ok n
    | none => .error (.scalar (.badReal (Text.quoted s)))
  | d => .error (.scalar (.notReal d.kind.fullName))

/-- The two data are the same name. Nothing is filed under lists and records. -/
def sameName : Datum α → Datum α → Bool
  | null, null => true
  | number m, number n => (Scalar.same m n).toOption.getD false
  | text s, text t => s == t
  | _, _ => false

/-- The kind of a datum under which nothing can be filed. -/
def unfit? : Datum α → Option String
  | list _ => some "list"
  | record _ => some "dict"
  | _ => none

/-! ### Writing -/

mutual

/-- The form of a datum inside of another one: texts in quotes. -/
def display : Datum α → String
  | null => "None"
  | number n => Scalar.display n
  | text s => Text.quoted s
  | list items => "[" ++ joined ", " (displayItems items) ++ "]"
  | record fields => "\x7b" ++ joined ", " (displayFields fields) ++ "\x7d"

def displayItems : List (Datum α) → List String
  | [] => []
  | d :: rest => d.display :: displayItems rest

def displayFields : List (String × Datum α) → List String
  | [] => []
  | (key, d) :: rest => (Text.quoted key ++ ": " ++ d.display) :: displayFields rest

end

/-- The form of a datum that stands alone. -/
def plain : Datum α → String
  | number n => Scalar.plain n
  | text s => s
  | d => d.display

end Datum

end Milp
