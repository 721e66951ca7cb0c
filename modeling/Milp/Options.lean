import Milp.Inquiry

/-!
# Solver options

Options are an open record. It starts with the three settings that a solver looks at, and a setting
of any name may be put in. Reading options from a list of entries takes over the entries whose name
is already known: a setting of the record, or one of the names that every record of options answers
to.
-/

namespace Milp

/-- The settings of a solver, by name. The kind is what a message calls the record. -/
structure Options (δ : Type) where
  settings : List (String × δ)
  kind : String

/-- Why a setting cannot be read or put in. -/
inductive OptionsError where
  /-- The name stands for the type of the record, and the value is no type. -/
  | fixedType (kind : String)
  /-- The name stands for the type of the record, and the value is another type. -/
  | otherType (name kind : String)
  /-- The name stands for the record as a whole, and the value is none. -/
  | notARecord (kind : String)
  | readOnly (key : String)
  /-- The name of an entry is no text. -/
  | notAName (kind : String)
  | datum (e : DatumError)
  deriving DecidableEq, Repr

def OptionsError.message : OptionsError → String
  | .fixedType kind => "__class__ must be set to a class, not '" ++ kind ++ "' object"
  | .otherType name kind =>
    "__class__ assignment: '" ++ name ++ "' object layout differs from '" ++ kind ++ "'"
  | .notARecord kind => "__dict__ must be set to a dictionary, not a '" ++ kind ++ "'"
  | .readOnly key => "attribute '" ++ key ++ "' of 'SolveOptions' objects is not writable"
  | .notAName kind => "attribute name must be string, not '" ++ kind ++ "'"
  | .datum e => e.message

def OptionsError.errorClass : OptionsError → ErrorClass
  | .readOnly _ => .property
  | .fixedType _ | .otherType .. | .notARecord _ | .notAName _ => .kind
  | .datum e => e.errorClass

namespace Options

variable {δ α : Type}

/-- The names that every record of options answers to. -/
def reserved : List String := [
  "to_dict", "from_dict", "__class__", "__delattr__", "__dict__", "__dir__", "__doc__", "__eq__",
  "__format__", "__ge__", "__getattribute__", "__getstate__", "__gt__", "__hash__", "__init__",
  "__init_subclass__", "__le__", "__lt__", "__module__", "__ne__", "__new__", "__reduce__",
  "__reduce_ex__", "__repr__", "__setattr__", "__sizeof__", "__str__", "__subclasshook__",
  "__weakref__"]

/-- Options with the three settings. -/
def make (verbose timeLimit gap : δ) : Options δ :=
  ⟨[("verbose", verbose), ("time_limit", timeLimit), ("mip_rel_gap", gap)], "SolveOptions"⟩

/-- The name is known: a setting, or one of the reserved names. -/
def knows (o : Options δ) (key : String) : Bool :=
  (o.settings.lookup key).isSome || reserved.contains key

/-- The setting of a name. -/
def get (o : Options δ) (key : String) : Except DatumError δ :=
  match o.settings.lookup key with
  | some v => .ok v
  | none => .error (.noProperty o.kind key)

/-- Silent, and without limits. -/
def default [Scalar α] [Data δ α] : Options δ :=
  make (Data.ofNumber (Scalar.truth false : α)) Data.null Data.null

section Inquiry

variable (q : Inquiry δ α) (typeOf : δ → Option Kind) (fieldsOf : δ → Option (List (String × δ)))

/-- Puts in a setting. Three of the reserved names stand for something that is not a setting.
`typeOf` tells the kind of which a datum is the type, and `fieldsOf` the fields of a record that
takes the place of all settings. -/
def set (o : Options δ) (key : String) (value : δ) : Except OptionsError (Options δ) :=
  if key = "__class__" then
    match typeOf value with
    | some kind => if kind.name = o.kind then .ok o else .error (.otherType kind.name o.kind)
    | none => .error (.fixedType (q.kind value).fullName)
  else if key = "__weakref__" then .error (.readOnly key)
  else if key = "__dict__" then
    match fieldsOf value with
    | some fields => .ok { o with settings := fields }
    | none => .error (.notARecord (q.kind value).fullName)
  else .ok { o with settings := setField key value o.settings }

/-- Takes over an entry if its name is known. -/
def takeOver (o : Options δ) (entry : String × δ) : Except OptionsError (Options δ) :=
  if o.knows entry.1 then o.set q typeOf fieldsOf entry.1 entry.2 else .ok o

/-- Takes over the entries with known names. -/
def ofEntries (start : Options δ) (entries : List (String × δ)) :
    Except OptionsError (Options δ) :=
  entries.foldlM (takeOver q typeOf fieldsOf) start

end Inquiry

/-- The three settings. -/
def entries (o : Options δ) : Except DatumError (List (String × δ)) := do
  return [("verbose", ← o.get "verbose"), ("time_limit", ← o.get "time_limit"),
    ("mip_rel_gap", ← o.get "mip_rel_gap")]

/-- What comes of asking for the settings. -/
inductive Report (δ : Type) where
  | told (entries : Except DatumError (List (String × δ)))
  /-- Something else was put in under the name of the operation, and is called in its place. -/
  | called (f : δ)

/-- Asks for the settings. -/
def report (o : Options δ) : Report δ :=
  match o.settings.lookup "to_dict" with
  | some f => .called f
  | none => .told o.entries

/-- Options in writing; `plain` writes a setting. -/
def display (plain : δ → Except DatumError String) (o : Options δ) : Except DatumError String := do
  return "SolveOptions(verbose=" ++ (← plain (← o.get "verbose")) ++
    ", time_limit=" ++ (← plain (← o.get "time_limit")) ++
    ", mip_rel_gap=" ++ (← plain (← o.get "mip_rel_gap")) ++ ")"

end Options

end Milp
