import Milp.Session.Failure

/-!
# Properties of values

What a value tells about itself under the name of a property, and the properties that can be
changed. Beside the properties of its kind a value may be given others, unless it is one that never
changes.
-/

namespace Milp.Session

/-! ### Reading -/

/-- The text of a constant, which is made only once. -/
def giveConstant (t : String) : Act Value := do
  match (← get).keyTags.lookup t with
  | some tag => return .mk tag (.text t)
  | none =>
    let v ← giveText t
    modify fun s => { s with keyTags := (t, v.tag) :: s.keyTags }
    return v

/-- The record of all that a value has of its own. There is only one, and it changes with the
value. -/
def giveRecordOf (v : Value) : Act Value := do
  match (← get).note? v recordKey with
  | some w => return w
  | none => do
    let w ← giveObject (.properties v)
    setNote v recordKey w
    return w

/-- The members of a kind under their names. -/
def namedMembers (members : List Value) : List (String × Value) :=
  members.map fun m => (memberName m.content, m)

/-- What a kind with finitely many members tells about them. -/
def giveMembers (members : List Value) (key : String) : Option (Act Value) :=
  match key with
  | "__members__" => some do give (.view (← giveFields (namedMembers members)))
  | "_member_map_" => some (giveFields (namedMembers members))
  | "_member_names_" => some do giveList (← (namedMembers members).mapM (giveConstant ·.1))
  | "_value2member_map_" => some (giveFields (members.map fun m => (m.written, m)))
  | _ => none

/-- A record that a value has in common with all values of its kind, or a kind with its values, by
the fields. -/
def sheetOf? (c : Content) (key : String) : Option (List (String × Value)) :=
  match c with
  | .typeOf kind =>
    match (sample? kind).bind (sheet? · key) with
    | some fields => some fields
    | none =>
      if key = "__annotations__" && !(methodsOf kind.name).isEmpty && kind.name ≠ "PosixPath" then
        some []
      else none
  | c => sheet? c key

/-- The property of a value, as far as it is not the result of an operation. -/
def ownProperty (v : Value) (key : String) : Act Value := do
  if key = recordKey && hasRecord v.content then giveRecordOf v
  else
    match sheetOf? v.content key, v.content, (members? v).bind (giveMembers · key) with
    | some fields, _, _ => giveFields fields
    | none, _, some r => r
    | none, .path path, none =>
      match key with
      | "suffixes" => do giveList (← (Path.suffixes path).mapM giveText)
      | "_parts" | "_cparts" => do giveList (← (Path.parts path).mapM giveText)
      | _ => plainly
    | none, _, none => plainly
where
  plainly : Act Value := do
    match ← ofData ((← get).peek v key) with
    | .mk 0 (.text t) => giveConstant t
    | w => settle w

/-- The variables of a problem as a list. -/
def giveVariables (problem : Value) : Act Value := do
  let register ← ownProperty problem "_variables"
  match (← get).mapping? register with
  | some fields => giveList (fields.map Prod.snd)
  | none => do
    let values ← call (← ownProperty register "values") []
    giveList (← walkThrough values)

/-- The property of a value. -/
def property (v : Value) (key : String) : Act Value :=
  if key = "variables" && v.isObject .problem then giveVariables v else ownProperty v key

/-- The property of a value, if it has one of that name. -/
def property? (v : Value) (key : String) : Act (Option Value) := do
  try some <$> property v key
  catch f => if f.errorClass = .property then return none else throw f

/-- The name of a property, which has to be a text. -/
def propertyName (name : Value) : Act String :=
  match name.text? with
  | some key => return key
  | none => fail .kind ("attribute name must be string, not '" ++ name.kind.fullName ++ "'")

/-! ### Changing -/

/-- A variable with another value for one of its properties. -/
def withProperty (v : Variable Filing Value) (name : Filing) (new : Value) :
    String → Option (Variable Filing Value)
  | "name" => some { v with name }
  | "min" => some { v with min := new }
  | "max" => some { v with max := new }
  | "integer" => some { v with integer := new }
  | "initial" => some { v with initial := new }
  | "_value" => some { v with value := new }
  | _ => none

/-- An object that was made with another value under the name of a property; nothing if it is made
without such a property. -/
def withMade (o : Object) (new : Value) (key : String) : Option Object :=
  match o, key with
  | .linear _, "_coeff" => some (.linear new)
  | .expression _ constant, "_linear" => some (.expression new constant)
  | .expression linear _, "_constant" => some (.expression linear new)
  | .constraint _ equality, "expression" => some (.constraint new equality)
  | .constraint e _, "is_equality" => some (.constraint e new)
  | .template _ operands, "segments" => some (.template new operands)
  | .template segments _, "operands" => some (.template segments new)
  | .solution _ values objective, "status" => some (.solution new values objective)
  | .solution status _ objective, "values" => some (.solution status new objective)
  | .solution status values _, "objective" => some (.solution status values new)
  | .problem p, "name" => some (.problem { p with name := new })
  | .problem p, "_variables" => some (.problem { p with register := new })
  | .problem p, "constraints" => some (.problem { p with constraints := new })
  | .problem p, "_backend" => some (.problem { p with solver := new })
  | .engine _, "options" => some (.engine new)
  | _, _ => none

/-- Changes what a value has of its own. -/
def setOwn (v : Value) (key : String) (new : Value) : Act Unit := do
  let s ← get
  match v.content, (s.object? v).bind (withMade · new key) with
  | .var x, _ =>
    match withProperty (s.store.get x) (s.filing new) new key with
    | some entry => set { s with store := s.store.modify x fun _ => entry }
    | none => setNote v key new
  | _, some o => put v.tag o
  | _, none => setNote v key new

/-- Gives a value what a record holds in place of all that it has of its own. -/
def replaceOwn (v record : Value) (fields : List (Filing × Value)) : Act Unit := do
  let fields := fields.filterMap fun f => f.1.value.text?.map (·, f.2)
  let gone := ((← get).madeWith v).filter fun p => (fields.lookup p.1).isNone
  modify fun s => { s with notes := setField v.number [] s.notes }
  for p in gone do setOwn v p.1 (.mk 0 .absent)
  for p in fields do setOwn v p.1 p.2
  if ((← get).object? record) matches some (.record _) then put record.tag (.properties v)
  setNote v recordKey record

/-- The kind of which a value is the type. -/
def typeOf (v : Value) : Option Kind :=
  match v.content with
  | .typeOf kind => some kind
  | _ => none

/-- The fields of a record that have texts as their keys. -/
def settingsOf (s : Session) (v : Value) : Option (List (String × Value)) :=
  (s.fields? v).map fun fields => fields.filterMap fun f => f.1.value.text?.map (·, f.2)

/-- The kind that a number has as an element, where its parts are told. -/
def partKind (a : Quantity) (key : String) : String :=
  match a with
  | .mark _ | .number (.cell _) => "numpy.generic"
  | .number (.word _) =>
    if key = "numerator" ∨ key = "denominator" then "numpy.integer" else "numpy.generic"
  | .number (.double _) => "float"
  | .number _ => "int"

/-- The kind for which it is settled what refers to a value. -/
def referenceKind (v : Value) : String :=
  match v.content with
  | .var _ | .object .expression => "_AffineOperators"
  | .sense _ | .direction _ => "Enum"
  | _ => v.kind.name

/-- Why a property of an operation cannot be changed; the name of the operation as a kind is given.
-/
def fixedPart? (binding : Binding) (kind key : String) : Option String :=
  let isNamed := binding ≠ .method &&
    ["__name__", "__qualname__", "__self__", "__text_signature__"].contains key
  if key = "__self__" && binding ≠ .builtin || key = "__func__" && binding = .method then
    some "readonly attribute"
  else if key = "__doc__" || isNamed || key = "__objclass__" && binding = .operator then
    some ("attribute '" ++ key ++ "' of '" ++ kind ++ "' objects is not writable")
  else none

/-- Properties of arrays that follow from others. -/
def settledOfArrays : List String := [
  "T", "__array_interface__", "__array_priority__", "__array_struct__", "base", "ctypes", "device",
  "flags", "itemsize", "mT", "nbytes", "ndim", "size"]

/-- Properties that a type of entries consists of. -/
def membersOfEntryTypes : List String :=
  ["alignment", "byteorder", "char", "flags", "itemsize", "kind", "num", "type"]

/-- Properties of a type of entries that follow from others. -/
def settledOfEntryTypes : List String := [
  "base", "descr", "fields", "hasobject", "isalignedstruct", "isbuiltin", "isnative", "metadata",
  "name", "ndim", "shape", "str", "subdtype"]

/-- A property that a value has in common with others, or none at all. -/
def refuseShared (v : Value) (key : String) : Act Unit := do
  let kind := v.kind.fullName
  let readOnly : Act Unit :=
    fail .property ("'" ++ kind ++ "' object attribute '" ++ key ++ "' is read-only")
  match v.content, (← get).shared? v key with
  | .bound binding .., shared =>
    match fixedPart? binding kind key, shared with
    | some message, _ => fail .property message
    | none, some _ => readOnly
    | none, none => noProperty v key
  | c, shared =>
    if shared.isSome ∨ (sheet? c key).isSome ∨ key = "__doc__" then readOnly
    else noProperty v key

/-- A property that comes with the kind of a value and cannot be changed. -/
def refuseFixed (v : Value) (key : String) : Act Unit := do
  match v.content, (v.quantity?.bind (quantityPart? v · key)), key with
  | .quantity a, some _, _ =>
    fail .property
      ("attribute '" ++ key ++ "' of '" ++ partKind a key ++ "' objects is not writable")
  | .term .., _, "factor" | .term .., _, "variable" => fail .property "can't set attribute"
  | .entryType _, _, "names" => fail .value "there are no fields defined"
  | c, _, key =>
    if (c matches .array ..) && settledOfArrays.contains key then
      fail .property ("attribute '" ++ key ++ "' of 'numpy.ndarray' objects is not writable")
    if (c matches .entryType _) && membersOfEntryTypes.contains key then
      fail .property "readonly attribute"
    if (c matches .entryType _) && settledOfEntryTypes.contains key then
      fail .property ("attribute '" ++ key ++ "' of 'numpy.dtype' objects is not writable")
    refuseShared v key

/-- Changes one of the properties that stand for the value as a whole. -/
def setWhole (v : Value) (key : String) (new : Value) : Act Unit := do
  let kind := new.kind.fullName
  match key, new.content, (← get).fields? new with
  | "__class__", .typeOf kind, _ =>
    if kind = v.kind then return ()
    fail .kind ("__class__ assignment: '" ++ kind.name ++ "' object layout differs from '" ++
      v.kind.name ++ "'")
  | "__class__", _, _ =>
    fail .kind ("__class__ must be set to a class, not '" ++ kind ++ "' object")
  | "__weakref__", _, _ =>
    fail .property ("attribute '__weakref__' of '" ++ referenceKind v ++
      "' objects is not writable")
  | _, _, some fields => replaceOwn v new fields
  | _, _, none => fail .kind ("__dict__ must be set to a dictionary, not a '" ++ kind ++ "'")

/-- Changes a property of a value. -/
def setProperty (v : Value) (key : String) (new : Value) : Act Unit := do
  let s ← get
  let isWhole := key = "__class__" ||
    hasRecord v.content && (key = recordKey || key = "__weakref__")
  match v.content, s.object? v with
  | .literal _, _ | .leaf _, _ | .operation .., _ | .comparison .., _ =>
    fail .immutable ("cannot assign to field " ++ Text.quoted key)
  | _, some (.options o) =>
    put v.tag (.options (← ofExcept .ofOptions (o.set s.inquiry typeOf s.settingsOf key new)))
  | c, _ =>
    if isWhole then setWhole v key new
    else if isWorkedOut c.kind.name key then
      fail .property
        ("property '" ++ key ++ "' of '" ++ v.kind.fullName ++ "' object has no setter")
    else if (c matches .path _) && pathSlots.contains key then setNote v key new
    else if !takesNotes c then refuseFixed v key
    else if (c matches .sense _ | .direction _) && (key = "value" || key = "name") then
      fail .property ("<enum 'Enum'> cannot set attribute " ++ Text.quoted key)
    else setOwn v ((alias? c key).getD key) new

/-- Takes a property away from a value. -/
def removeProperty (v : Value) (key : String) : Act Unit := do
  let s ← get
  let kind := v.kind.fullName
  match v.content, s.object? v with
  | .literal _, _ | .leaf _, _ | .operation .., _ | .comparison .., _ =>
    fail .immutable ("cannot delete field " ++ Text.quoted key)
  | _, some (.options o) =>
    if (o.settings.lookup key).isNone then noProperty v key
    put v.tag (.options { o with settings := o.settings.filter (·.1 ≠ key) })
  | c, _ =>
    if isWorkedOut c.kind.name key || (c matches .var _) && key = "value" then
      fail .property ("property '" ++ key ++ "' of '" ++ kind ++ "' object has no deleter")
    else if !takesNotes c then refuseFixed v key
    else if (s.own? v key).isNone then noProperty v key
    else setOwn v key (.mk 0 .absent)

end Milp.Session
