import Milp.Matrix.Verdict
import Milp.Number
import Milp.Problem
import Milp.Session.Arithmetic

/-!
# The state of a session

A session holds the variables and the present state of everything else that can change: lists and
records, expressions, constraints, options, solutions, problems and solvers. Some values it keeps
under names; what is kept, or is in use by something that is kept, stays loaded. An act of a session
changes the state and has a result or fails.
-/

namespace Milp

namespace Session

/-- Things of one kind, by their numbers. -/
abbrev Table (β : Type) := List (Nat × β)

/-- A problem. Its variables are a record and its constraints a list, and nothing stands for a
solver in matrix form. -/
structure ProblemEntry where
  name : Value
  register : Value
  constraints : Value
  solver : Value

/-- The present state of an object. -/
inductive Object where
  | list (items : List Value)
  | record (fields : List (Filing × Value))
  /-- The record of all that a value has of its own. -/
  | properties (owner : Value)
  /-- A linear part; as a rule its coefficients are a record of terms. -/
  | linear (coefficients : Value)
  | expression (linear constant : Value)
  | constraint (expression equality : Value)
  | template (segments operands : Value)
  | options (o : Options Value)
  | solution (status values objective : Value)
  | problem (p : ProblemEntry)
  /-- The answers to come, and the messages so far, each with the options that came with it. -/
  | recorder (answers log : List Value)
  | engine (options : Value)

/-- The species of an object. -/
def Object.species : Object → Species
  | list _ => .list
  | record _ | properties _ => .record
  | linear _ => .linear
  | expression .. => .expression
  | constraint .. => .constraint
  | template .. => .template
  | options _ => .options
  | solution .. => .solution
  | problem _ => .problem
  | recorder .. => .recorder
  | engine _ => .engine

end Session

open Session in
structure Session where
  nextTag : Nat
  kept : List (String × Value)
  store : Store Filing Value
  objects : Table Object
  /-- The properties that values were given beside those that all of their kind have. -/
  notes : Table (List (String × Value))
  /-- The tags of the texts that records have been given as keys. -/
  keyTags : List (String × Nat)
  /-- What the engine of the solvers in matrix form is going to say. -/
  outcomes : List Value
  /-- What that engine has been asked. -/
  calls : List (Call Value Number)
  host : Host
  /-- How many of the items of an iterator have been taken. -/
  taken : Table Nat
  /-- What was in use when it was last looked at. -/
  inUse : Table Value

namespace Session

/-- The name under which a value has the record of all that it has of its own. -/
def recordKey : String := "__dict__"

/-- Nothing has happened yet. The files that are libraries are given. -/
def start (files : List String) : Session :=
  ⟨Value.firstTag, [], Store.empty, [], [], [], [], [], .empty files, [], []⟩

/-! ### Failures -/

/-- What else a failure tells. -/
inductive Detail where
  | nothing
  | lexical (e : LexicalError)
  /-- The token to blame, if there is one. -/
  | token (t : Option (Token Value))
  | name (v : Value)

/-- Why an act has no result. -/
structure Failure where
  errorClass : ErrorClass
  message : String
  detail : Detail

/-- A failure of which nothing but a message is known. -/
def Failure.plain (errorClass : ErrorClass) (message : String) : Failure :=
  ⟨errorClass, message, .nothing⟩

def Failure.ofDatum (e : DatumError) : Failure := plain e.errorClass e.message

/-! ### Acts -/

/-- How a value is called with other values. -/
abbrev Caller := Value → List Value → EStateM Failure Session Value

/-- What is done in a session, with a way to call values. -/
abbrev Act := ReaderT Caller (EStateM Failure Session)

/-- Calls a value. -/
def call (f : Value) (args : List Value) : Act Value := fun caller => caller f args

/-- The result of a computation whose errors are failures. -/
def ofExcept {ε τ : Type} (f : ε → Failure) (r : Except ε τ) : Act τ :=
  match r with
  | .ok x => pure x
  | .error e => throw (f e)

def fail {τ : Type} (errorClass : ErrorClass) (message : String) : Act τ :=
  throw (.plain errorClass message)

/-- A value has no property of the name. -/
def noProperty {τ : Type} (v : Value) (key : String) : Act τ :=
  throw (.ofDatum (.noProperty v.kind.fullName key))

/-- A tag that no value has. -/
def freshTag : Act Nat := do
  let s ← get
  set { s with nextTag := s.nextTag + 1 }
  return s.nextTag

/-- A new value. -/
def give (c : Content) : Act Value := do return .mk (← freshTag) c

/-- The value, with a tag if it has none. -/
def settle : Value → Act Value
  | .mk 0 c => give c
  | v => return v

def giveText (text : String) : Act Value := give (.text text)

def giveTruth (b : Bool) : Act Value := settle (.ofTruth b)

def giveInteger (n : Int) : Act Value := settle (.ofNumber (.whole n))

/-- Fuel for every object that there is, and for as many dimensions as an array can have. -/
def fuel (s : Session) : Nat := 2 * s.nextTag + 80

/-! ### Objects -/

/-- The present state of an object; of anything else, nothing. -/
def object? (s : Session) (v : Value) : Option Object :=
  match v.content with
  | .object _ => s.objects.lookup v.tag
  | _ => none

/-- Gives an object a state. -/
def put (tag : Nat) (o : Object) : Act Unit :=
  modify fun s => { s with objects := setField tag o s.objects }

/-- A new object. -/
def giveObject (o : Object) : Act Value := do
  let tag ← freshTag
  modify fun s => { s with objects := (tag, o) :: s.objects }
  return .mk tag (.object o.species)

def giveList (items : List Value) : Act Value := giveObject (.list items)

def giveRecord (fields : List (Filing × Value)) : Act Value := giveObject (.record fields)

/-- A record with texts as its keys. -/
def giveFields (fields : List (String × Value)) : Act Value := do
  giveRecord (← fields.mapM fun f => do return (.ofText (← giveText f.1) f.1, f.2))

/-- The items of a list or a tuple. -/
def items? (s : Session) (v : Value) : Option (List Value) :=
  match v.content, s.object? v with
  | .tuple items, _ => some items
  | .term factor x, _ => some [factor, x]
  | _, some (.list items) => some items
  | _, _ => none

/-! ### What values have of their own -/

/-- What is known of a variable, under the names of the properties. -/
def variableProperties (v : Variable Filing Value) : List (String × Value) :=
  [("name", v.name.value), ("min", v.min), ("max", v.max), ("integer", v.integer),
    ("initial", v.initial), ("_value", v.value)]

/-- What an object was made with, under the names of the properties. -/
def Object.made : Object → List (String × Value)
  | .list _ | .record _ | .properties _ | .recorder .. => []
  | .linear coefficients => [("_coeff", coefficients)]
  | .expression l c => [("_linear", l), ("_constant", c)]
  | .constraint e equality => [("expression", e), ("is_equality", equality)]
  | .template segments operands => [("segments", segments), ("operands", operands)]
  | .options o => o.settings
  | .solution status values objective =>
    [("status", status), ("values", values), ("objective", objective)]
  | .problem p =>
    [("name", p.name), ("_backend", p.solver), ("_variables", p.register),
      ("constraints", p.constraints)]
  | .engine o => [("options", o)]

/-- A text that is made only once. -/
def constant (s : Session) (t : String) : Value := .mk ((s.keyTags.lookup t).getD 0) (.text t)

/-- The name of a sense or a direction. -/
def memberName : Content → String
  | .sense .le => "LE"
  | .sense .ge => "GE"
  | .sense .eq => "EQ"
  | .direction .minimize => "MINIMIZE"
  | .direction .maximize => "MAXIMIZE"
  | _ => ""

/-- The members of a kind that has finitely many. -/
def members? (v : Value) : Option (List Value) :=
  match v.content with
  | .typeOf kind =>
    if kind.name = "Sense" then
      some ([Direction.minimize, .maximize].map fun d => .mk 0 (.direction d))
    else if kind.name = "ConstraintSense" then
      some ([Sense.le, .ge, .eq].map fun t => .mk 0 (.sense t))
    else none
  | _ => none

/-- The member of a kind with a name. -/
def member? (v : Value) (name : String) : Option Value :=
  (members? v).bind fun ms => ms.find? fun m => memberName m.content == name

/-- What is known of a sense or a direction with a text and a place among all of its kind. -/
def memberProperties (s : Session) (v : Value) (text : String) (place : Nat) :
    List (String × Value) :=
  [("_value_", s.constant text), ("_name_", s.constant (memberName v.content)),
    ("__objclass__", .mk 0 (.typeOf v.kind)), ("_sort_order_", .ofNumber (.whole place))]

/-- What a value was made with, under the names of the properties. -/
def madeWith (s : Session) (v : Value) : List (String × Value) :=
  match v.content with
  | .var x => variableProperties (s.store.get x)
  | .sense t => memberProperties s v t.text ([Sense.le, .ge, .eq].idxOf t)
  | .direction d => memberProperties s v d.text ([Direction.minimize, .maximize].idxOf d)
  | .parts strings values => [("strings", strings), ("values", values)]
  | .literal w => [("value", w)]
  | .leaf w => [("expression", w)]
  | .operation op l r => [("op", op), ("left", l), ("right", r)]
  | .comparison l c r => [("left", l), ("comparator", c), ("right", r)]
  | _ => ((s.object? v).map Object.made).getD []

/-- The properties that a value was given. -/
def notesOf (s : Session) (v : Value) : List (String × Value) := (s.notes.lookup v.number).getD []

/-- A property that a value was given. -/
def note? (s : Session) (v : Value) (key : String) : Option Value := (s.notesOf v).lookup key

/-- Gives a value a property. -/
def setNote (v : Value) (key : String) (new : Value) : Act Unit :=
  modify fun s => { s with notes := setField v.number (setField key new (s.notesOf v)) s.notes }

/-- What a value has of its own under a name. -/
def own? (s : Session) (v : Value) (key : String) : Option Value :=
  ((s.note? v key).orElse fun _ => (s.madeWith v).lookup key).filter (!·.isAbsent)

/-- All that a value has of its own. What it was given counts more than what it was made with. -/
def ownProperties (s : Session) (v : Value) : List (String × Value) :=
  let made := (s.madeWith v).filter fun p => !p.2.isAbsent && (s.note? v p.1).isNone
  made ++ (s.notesOf v).filter fun p => p.1 ≠ recordKey ∧ !p.2.isAbsent

/-! ### Records and linear parts -/

/-- The fields of a record. -/
def fields? (s : Session) (v : Value) : Option (List (Filing × Value)) :=
  match s.object? v with
  | some (.record fields) => some fields
  | some (.properties owner) =>
    some ((s.ownProperties owner).map fun p => (.ofText (s.constant p.1) p.1, p.2))
  | _ => none

/-- The fields of a record or of what shows those of one. -/
def mapping? (s : Session) : Value → Option (List (Filing × Value))
  | .mk _ (.view fields) => mapping? s fields
  | v => s.fields? v

/-- The term of a linear part that a field is. -/
def termOf? (f : Filing × Value) : Option (Term Filing Value) :=
  match f.2 with
  | .mk tag (.term factor (.mk _ (.var x))) => some ⟨{ f.1 with termTag := tag }, factor, x⟩
  | _ => none

/-- The linear part that a value is, where all of its coefficients are terms. -/
def linear? (s : Session) (v : Value) : Option (Linear Filing Value) :=
  match s.object? v with
  | some (.linear coefficients) => do return .ofList (← (← s.fields? coefficients).mapM termOf?)
  | _ => none

/-- The expression that a value is, where all of its coefficients are terms. -/
def affine? (s : Session) (v : Value) : Option (Affine Filing Value) :=
  match s.object? v with
  | some (.expression linear constant) => do
    if constant.isAbsent then none
    return ⟨← s.linear? linear, constant⟩
  | _ => none

def options? (s : Session) (v : Value) : Option (Options Value) :=
  match s.object? v with
  | some (.options o) => some o
  | _ => none

def problem? (s : Session) (v : Value) : Option ProblemEntry :=
  match s.object? v with
  | some (.problem p) => some p
  | _ => none

/-! ### Lengths and truth -/

/-- What a record holds in a row, and the members of a kind that has finitely many. -/
def listed? (v : Value) : Option (List Value) :=
  match v.content with
  | .roll _ items => some items
  | _ => members? v

/-- The number of items of plain data that have any. -/
def count? (s : Session) (v : Value) : Option Nat :=
  match (s.items? v).orElse fun _ => listed? v, s.mapping? v, v.text?, v.rows? with
  | some items, _, _, _ => some items.length
  | _, some fields, _, _ => some fields.length
  | _, _, some t, _ => some (Text.size t)
  | _, _, _, some rows => some rows.length
  | _, _, _, none =>
    match v.content with
    | .entryType _ => some 0
    | .bytes bytes => some bytes.length
    | _ => none

/-- The number of items. -/
def lengthOf (s : Session) (v : Value) : Except DatumError Nat :=
  let counted? := match s.object? v with
    | some (.linear _) => s.own? v "_coeff"
    | _ => some v
  match counted?, counted?.bind s.count? with
  | _, some n => .ok n
  | some counted, none => .error (.notSized counted.kind.fullName)
  | none, none => .error (.noProperty v.kind.fullName "_coeff")

/-- As `truthOf`, for anything but an array. -/
def truthOfItem (s : Session) (v : Value) : Except DatumError Bool :=
  match v.content, s.lengthOf v with
  | .null, _ => .ok false
  | .entryType _, _ => .ok true
  | .quantity a, _ => .ok (!(a.same (.number (.whole 0))).toOption.getD false)
  | _, .ok n => .ok (n ≠ 0)
  | .object .linear, .error e => .error e
  | _, .error _ => .ok true

/-- Nothing, zero and whatever is empty count as false, all else as true. An array has to have a
single entry, and counts as that. -/
def truthOf (s : Session) (v : Value) : Except DatumError Bool :=
  match v.content with
  | .array _ ⟨_, [x]⟩ => s.truthOfItem x
  | .array _ ⟨_, entries⟩ => .error (.block (.ambiguous entries.isEmpty))
  | _ => s.truthOfItem v

/-! ### Names -/

/-- Keeps a value under a name. -/
def keep (name : String) (v : Value) (s : Session) : Session :=
  { s with kept := setField name v s.kept }

/-- Keeps nothing under a name any more. -/
def drop (name : String) : Act Unit := do
  let s ← get
  if (s.kept.lookup name).isNone then fail .key (Text.quoted name)
  set { s with kept := s.kept.filter fun k => k.1 ≠ name }

/-- The library counts as closed. -/
def isShut (s : Session) (v : Value) : Bool :=
  match (s.own? v "_closed").map s.truthOf with
  | some (.ok b) => b
  | _ => true

end Session

end Milp
