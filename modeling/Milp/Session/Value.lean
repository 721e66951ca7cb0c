import Milp.Library
import Milp.Message
import Milp.Numeric.Entries
import Milp.Source

/-!
# Values of a session

A session works with values of every kind: data, variables, expressions, constraints, templates,
syntax trees, options, solutions, problems and what solves them. Every value has a tag, which tells
it from other values with the same content. Of what can still change after it was made, the content
is only its species; the session holds its present state under the tag.

Values are at once the scalars, the data and, filed under a key, the names of the models that a
session builds.
-/

namespace Milp.Session

/-- The species of the objects that can change after they were made. -/
inductive Species where
  | list
  | record
  | linear
  | expression
  | constraint
  | template
  | options
  | solution
  | problem
  /-- A solver that gives prepared answers. -/
  | recorder
  /-- A solver in matrix form, with options of its own. -/
  | engine
  deriving DecidableEq, Repr

/-- The name of the species. -/
def Species.name : Species → String
  | list => "list"
  | record => "dict"
  | linear => "LinearExpression"
  | expression => "Expression"
  | constraint => "Constraint"
  | template => "Template"
  | options => "SolveOptions"
  | solution => "Solution"
  | problem => "Problem"
  | recorder => "Backend"
  | engine => "ScipySolver"

/-- How an operation belongs to a value. -/
inductive Binding where
  /-- It was defined for the kind of the value. -/
  | method
  /-- It was defined for the kind that takes the place of the value. -/
  | function
  /-- It comes with plain data. -/
  | builtin
  /-- It stands behind an operator. -/
  | operator
  deriving DecidableEq, Repr

/-- What an operation of a value is called as a kind. -/
def Binding.kindName : Binding → String
  | .method => "method"
  | .function => "function"
  | .builtin => "builtin_function_or_method"
  | .operator => "method-wrapper"

mutual

/-- A content with a tag; the tag zero is that of a value that nothing else refers to. -/
inductive Value where
  | mk (tag : Nat) (content : Content)

inductive Content where
  | null
  | quantity (a : Quantity)
  | text (s : String)
  /-- Bytes, as the numbers that they are. -/
  | bytes (bytes : List Nat)
  | tuple (items : List Value)
  | sense (s : Sense)
  | direction (d : Direction)
  /-- An object in the shape of a template; with segments in a tuple it is a source. -/
  | parts (strings values : Value)
  | var (x : Var)
  | term (factor x : Value)
  | literal (v : Value)
  | leaf (v : Value)
  | operation (op left right : Value)
  | comparison (left comparator right : Value)
  | library (h : Handle)
  /-- The code of a library. -/
  | code (h : Handle)
  | path (s : String)
  | object (species : Species)
  /-- The fields of a record, which cannot be changed in this way. -/
  | view (fields : Value)
  /-- What a record holds, in a row. -/
  | roll (kind : String) (items : List Value)
  /-- Items that are gone through once, one after the other. -/
  | iterator (kind : String) (items : List Value)
  /-- An operation, with the value that it belongs to; one that belongs to no value has nothing in
  its place. -/
  | bound (binding : Binding) (name : String) (self : Value)
  /-- The type of the values of a kind. -/
  | typeOf (kind : Kind)
  /-- What is left of a property that was taken away. -/
  | absent
  /-- Something of which nothing but the kind can be seen. -/
  | sealed (kind : String)
  /-- A type of entries of numeric arrays. -/
  | entryType (t : Numeric.EntryType)
  /-- A numeric array, with the type of its entries. -/
  | array (type : Numeric.EntryType) (block : Numeric.Block Value)

end

namespace Content

/-- The content's kind. -/
def kind : Content → Kind
  | null => .plain "NoneType"
  | quantity a => a.kind
  | text _ => .plain "str"
  | bytes _ => .plain "bytes"
  | tuple _ => .plain "tuple"
  | sense _ => .plain "ConstraintSense"
  | direction _ => .plain "Sense"
  | parts .. => .plain "TString"
  | var _ => .plain "Variable"
  | term .. => .plain "Term"
  | literal _ => .plain "Literal"
  | leaf _ => .plain "ExpressionLeaf"
  | operation .. => .plain "BinaryOp"
  | comparison .. => .plain "Comparison"
  | library _ => .plain "NativeLibrary"
  | code _ => .plain "CDLL"
  | path _ => .plain "PosixPath"
  | object species => .plain species.name
  | view _ => .plain "mappingproxy"
  | roll kind _ | iterator kind _ => .plain kind
  | bound binding .. => .plain binding.kindName
  | typeOf kind =>
    if kind.isEntryType then .ofEntryTypes
    else .plain (if ["Sense", "ConstraintSense", "Enum"].contains kind.name then "EnumType" else "type")
  | absent => .plain "absent"
  | sealed kind => .plain kind
  | entryType t => .entryType t.className
  | array .. => .array

end Content

namespace Value

/-! ### Tags -/

/-- The tag of the zero that stands for a missing factor. -/
def zeroTag : Nat := 1

/-- The tag of the one that is the factor of a variable alone. -/
def oneTag : Nat := 2

/-- The tag of the first of the senses and directions, of each of which there is only one. -/
def leastTag : Nat := 3

/-- The first tag that is free. -/
def firstTag : Nat := leastTag + 5

/-! ### Reading -/

/-- The value that stands for nothing. -/
def null : Value := .mk 0 .null

instance : Inhabited Value := ⟨null⟩

def tag : Value → Nat
  | mk tag _ => tag

def content : Value → Content
  | mk _ content => content

def kind (v : Value) : Kind := v.content.kind

def isNull (v : Value) : Bool :=
  match v.content with
  | .null => true
  | _ => false

/-- The value is not there any more. -/
def isAbsent (v : Value) : Bool :=
  match v.content with
  | .absent => true
  | _ => false

/-- The variable that the value is. -/
def var? (v : Value) : Option Var :=
  match v.content with
  | .var x => some x
  | _ => none

def text? (v : Value) : Option String :=
  match v.content with
  | .text s => some s
  | _ => none

/-- The bytes that the value is. -/
def bytes? (v : Value) : Option (List Nat) :=
  match v.content with
  | .bytes bytes => some bytes
  | _ => none

def quantity? (v : Value) : Option Quantity :=
  match v.content with
  | .quantity a => some a
  | _ => none

/-- The number that the value is; a mark is none. -/
def number? (v : Value) : Option Number :=
  match v.content with
  | .quantity (.number n) => some n
  | _ => none

def integer? (v : Value) : Option Int := v.quantity?.bind Quantity.integer?

/-- The parts of an array along its first dimension. -/
def rows? (v : Value) : Option (List Value) :=
  match v.content with
  | .array type block =>
    block.rows?.map fun rows => rows.map fun
      | ⟨[], [x]⟩ => x
      | row => .mk 0 (.array type row)
  | _ => none

/-- A value of some content that nothing else refers to. -/
def ofQuantity (a : Quantity) : Value := .mk 0 (.quantity a)

def ofNumber (n : Number) : Value := ofQuantity (.number n)

def ofText (s : String) : Value := .mk 0 (.text s)

def ofTruth (b : Bool) : Value := ofNumber (.truth b)

/-- The number of the thing that a value is. Variables have the odd numbers. -/
def number (v : Value) : Nat :=
  match v.content with
  | .var x => 2 * x.index + 1
  | .sense .le => 2 * leastTag
  | .sense .eq => 2 * (leastTag + 1)
  | .sense .ge => 2 * (leastTag + 2)
  | .direction .minimize => 2 * (leastTag + 3)
  | .direction .maximize => 2 * (leastTag + 4)
  | _ => 2 * v.tag

/-- The value is of the species, an object with a state of its own. -/
def isObject (v : Value) (species : Species) : Bool :=
  match v.content with
  | .object t => t = species
  | _ => false

/-! ### Writing -/

/-- The value in writing, where that does not depend on a state. -/
def written (v : Value) : String :=
  match v.content with
  | .null => "None"
  | .quantity a => a.text
  | .text s => s
  | .bytes bytes => Text.quotedBytes bytes
  | c => "<" ++ c.kind.name ++ ">"

/-- As `written`, in a form that tells the kind. -/
def shown (v : Value) : String :=
  match v.content with
  | .quantity a => a.display
  | .text s => Text.quoted s
  | _ => v.written

end Value

/-! ### Values as names -/

/-- What a value counts as when something is filed under it. -/
inductive Key where
  | null
  | text (s : String)
  /-- Finite numbers of whatever type. -/
  | number (q : Rat)
  | infinite (negative : Bool)
  | several (kind : String) (keys : List Key)
  /-- A value that only is itself. -/
  | identity (kind : String) (tag : Nat)
  deriving BEq, Repr

/-- The key of a double; what is no number only is itself. -/
def Key.ofDouble (tag : Nat) (x : Float) : Key :=
  match Double.parts x with
  | .nan => identity "nan" tag
  | .infinite negative => infinite negative
  | .finite negative m q =>
    let r : Rat := if 0 ≤ q then (m * twoPow q.toNat : Nat) else mkRat m (twoPow (-q).toNat)
    number (if negative then -r else r)

/-- The key of a number. -/
def Key.ofNumber (tag : Nat) : Number → Key
  | .double x | .cell x => ofDouble tag x
  | n => number (n.integer?.getD 0)

mutual

/-- The key of a value, or the kind under which nothing can be filed. -/
def Key.of? : Value → Except String Key
  | .mk _ .null => .ok .null
  | .mk tag (.quantity a) => .ok (Key.ofNumber tag a.toNumber)
  | .mk _ (.text s) => .ok (.text s)
  | .mk _ (.bytes bytes) => .ok (.several "bytes" (bytes.map fun (b : Nat) => .number b))
  | .mk _ (.tuple items) => .several "tuple" <$> Key.ofAll? items
  | .mk _ (.term factor x) => do return .several "tuple" [← Key.of? factor, ← Key.of? x]
  | .mk _ (.literal v) => do return .several "Literal" [← Key.of? v]
  | .mk _ (.leaf v) => do return .several "ExpressionLeaf" [← Key.of? v]
  | .mk _ (.operation op l r) => do
    return .several "BinaryOp" [← Key.of? op, ← Key.of? l, ← Key.of? r]
  | .mk _ (.comparison l c r) => do
    return .several "Comparison" [← Key.of? l, ← Key.of? c, ← Key.of? r]
  | .mk _ (.sense s) => .ok (.several "ConstraintSense" [.text s.text])
  | .mk _ (.direction d) => .ok (.several "Sense" [.text d.text])
  | .mk _ (.var x) => .ok (.identity "Variable" x.index)
  | .mk _ (.library h) => .ok (.identity "NativeLibrary" h)
  | .mk _ (.code h) => .ok (.identity "CDLL" h)
  | .mk _ (.path s) => .ok (.several "PosixPath" [.text s])
  | .mk tag (.object species) =>
    match species with
    | .list | .record | .linear | .expression | .template => .error species.name
    | _ => .ok (.identity species.name tag)
  | .mk _ (.view _) => .error "mappingproxy"
  | .mk tag (.roll kind _) =>
    if kind = "dict_values" ∨ kind = "_PathParents" then .ok (.identity kind tag) else .error kind
  | .mk tag (.iterator kind _) => .ok (.identity kind tag)
  | .mk tag (.parts ..) => .ok (.identity "TString" tag)
  | .mk _ (.typeOf kind) => .ok (.several "type" [.text kind.fullName])
  | .mk tag (.bound binding ..) => .ok (.identity binding.kindName tag)
  | .mk tag .absent => .ok (.identity "absent" tag)
  | .mk tag (.sealed kind) => .ok (.identity kind tag)
  | .mk _ (.entryType t) => .ok (.several t.className [.text t.name])
  | .mk _ (.array ..) => .error Kind.array.fullName

def Key.ofAll? : List Value → Except String (List Key)
  | [] => .ok []
  | v :: rest => do return (← Key.of? v) :: (← Key.ofAll? rest)

end

/-- A value as something is filed under it: its key, its two written forms, and the tag of the term
that is filed under it, if there is one. -/
structure Filing where
  key : Key
  value : Value
  written : String
  shown : String
  termTag : Nat
  unfit? : Option String

instance : Inhabited Filing := ⟨⟨.null, .null, "", "", 0, none⟩⟩

instance : Name Filing where
  beq f g := f.key == g.key
  text f := f.written
  display f := f.shown
  otherKind? f := if f.value.text?.isSome then none else some f.value.kind.fullName
  unfit? f := f.unfit?

/-- A value as a key. The two written forms are given. -/
def Filing.of (v : Value) (written shown : String) : Filing :=
  match Key.of? v with
  | .ok key => ⟨key, v, written, shown, 0, none⟩
  | .error kind => ⟨.identity kind v.tag, v, written, shown, 0, some kind⟩

/-- A text as a key. -/
def Filing.ofText (v : Value) (s : String) : Filing := ⟨.text s, v, s, Text.quoted s, 0, none⟩

end Milp.Session
