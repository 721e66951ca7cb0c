import Milp.Session.Parts

/-!
# What kinds tell about themselves

A kind has the operations of its values, as long as they belong to no value, and beside them what
all kinds have: a name, a module, and the kinds that it descends from.
-/

namespace Milp.Session

/-! ### Descent -/

/-- A kind of elements that has no values itself. -/
def elementFamily (name : String) : Kind := ⟨name, "numpy." ++ name, "numpy." ++ name⟩

/-- The kinds that a kind descends from, the nearest ones first. -/
def ancestors (kind : Kind) : List Kind :=
  let plain := List.map Kind.plain
  match kind.fullName with
  | "object" => []
  | "Variable" | "Expression" => plain ["_AffineOperators", "object"]
  | "Sense" | "ConstraintSense" => plain ["Enum", "object"]
  | "Term" => plain ["tuple", "object"]
  | "bool" => plain ["int", "object"]
  | "PosixPath" => plain ["Path", "PurePosixPath", "PurePath", "object"]
  | "Path" | "PurePosixPath" => plain ["PurePath", "object"]
  | "numpy.float64" =>
    ["floating", "inexact", "number", "generic"].map elementFamily ++ plain ["float", "object"]
  | "numpy.int64" =>
    ["signedinteger", "integer", "number", "generic"].map elementFamily ++ plain ["object"]
  | "numpy.bool" => elementFamily "generic" :: plain ["object"]
  | _ => plain ["object"]

/-- How many of its ancestors a kind descends from directly, and which ones. -/
def parents (kind : Kind) : List Kind :=
  let all := ancestors kind
  match kind.fullName with
  | "PosixPath" => all.take 2
  | "numpy.float64" => all.take 1 ++ (all.drop 4).take 1
  | _ => all.take 1

/-! ### Values of a kind -/

/-- All species of objects. -/
def allSpecies : List Species := [
  .list, .record, .linear, .expression, .constraint, .template, .options, .solution, .problem,
  .recorder, .engine]

/-- The content of some value of a kind. -/
def sample? (kind : Kind) : Option Content :=
  let v := Value.null
  let samples : List Content := [
    .null, .text "", .bytes [], .quantity (.number (.whole 0)), .quantity (.number (.truth false)),
    .quantity (.number (.double 0)), .quantity (.number (.cell 0)), .quantity (.number (.word 0)),
    .quantity (.mark false), .tuple [], .sense .eq, .direction .minimize, .var ⟨0⟩, .term v v,
    .literal v, .leaf v, .operation v v v, .comparison v v v, .library 0, .path "", .view v,
    .bound .method "" v, .bound .function "" v, .bound .builtin "" v, .bound .operator "" v,
    .typeOf kind, .parts v v, .array .double ⟨[], []⟩] ++ allSpecies.map .object
  samples.find? fun c => c.kind = kind

/-- The value tells something of itself under a name, because all values of its kind do. -/
def hasPart (c : Content) (key : String) : Bool :=
  let v := Value.mk 0 c
  match c with
  | .quantity a => (quantityPart? v a key).isSome
  | .array type block => key = "mT" || (arrayPart? v type block key).isSome
  | _ => false

/-! ### Parts -/

/-- What all kinds have. -/
def commonKindPart? (kind : Kind) (key : String) : Option (Except DatumError Value) :=
  let kinds := fun ks : List Kind => Value.mk 0 (.tuple (ks.map fun k => .mk 0 (.typeOf k)))
  match key with
  | "__name__" | "__qualname__" => some (.ok (.ofText kind.name))
  | "__module__" =>
    let inside := if (kind.fullName.splitOn ".").length = 2 then "numpy" else "builtins"
    some (.ok (.ofText ((moduleOf? kind.name).getD inside)))
  | "__dict__" => some (.ok (.mk 0 (.sealed "mappingproxy")))
  | "__mro__" => some (.ok (kinds (kind :: ancestors kind)))
  | "__bases__" => some (.ok (kinds (parents kind)))
  | "__base__" =>
    let base := match (parents kind).getLast? with
      | some k => .mk 0 (.typeOf k)
      | none => Value.null
    some (.ok base)
  | "__text_signature__" =>
    some (.ok (match kind.fullName with
      | "float" => .ofText "(x=0, /)"
      | "list" | "tuple" => .ofText "(iterable=(), /)"
      | "method" => .ofText "(function, instance, /)"
      | _ => Value.null))
  | "__abstractmethods__" => some (.error (.noMember key))
  | _ => none

/-- What is known of a kind through its values. -/
def samplePart? (s : Session) (kind : Kind) (c : Content) (key : String) : Option Value :=
  let sealed := fun name => some (.mk 0 (.sealed name))
  let isShared := kindOperations.contains key
  if key = "__hash__" && (blanks c).contains key then some Value.null
  else if key = "__array_ufunc__" && (blanks c).contains key then some Value.null
  else if (fieldNames c).contains key && (c matches .term ..) then sealed "_tuplegetter"
  else if (c matches .term .. | .path _) && key = "__new__" then sealed "function"
  else if (c matches .path _) && pathSlots.contains key then sealed "member_descriptor"
  else if (c matches .path _) && key = "_flavour" then sealed "_PosixFlavour"
  else if (operators c).contains key then sealed "wrapper_descriptor"
  else if (builtins c).contains key && !isShared then sealed "method_descriptor"
  else if (builtins c).contains key then
    some (.mk 0 (.bound .builtin key (.mk 0 (.typeOf kind))))
  else if hasPart c key then sealed "getset_descriptor"
  else if hasRecord c && key = "__weakref__" then sealed "getset_descriptor"
  else
    match c, key with
    | .bound .method .., "__func__" | .bound .method .., "__self__"
    | .bound .operator .., "__self__" => sealed "member_descriptor"
    | .bound .builtin .., "__self__" | .bound .operator .., "__objclass__" =>
      sealed "getset_descriptor"
    | .sense _, _ | .direction _, _ => none
    | c, key => constant? s c key

/-- What a kind tells about itself. -/
def kindPart? (s : Session) (kind : Kind) (key : String) : Option (Except DatumError Value) :=
  let sealed := fun name => some (.ok (.mk 0 (.sealed name)))
  let isShared := kindOperations.contains key
  let bound := fun binding => some (.ok (.mk 0 (.bound binding key (.mk 0 (.typeOf kind)))))
  match commonKindPart? kind key, (sample? kind).bind fun c => samplePart? s kind c key with
  | some r, _ => some r
  | none, some v => some (.ok v)
  | none, none =>
    if (methodsOf kind.name).contains key then bound (if isShared then .method else .function)
    else if isWorkedOut kind.name key || kind.name = "Variable" && key = "value" then
      sealed "property"
    else if (members? (.mk 0 (.typeOf kind))).isSome &&
        ["__call__", "__contains__", "__getitem__", "__iter__", "__len__", "__prepare__"].contains
          key then bound .method
    else if commonOperators.contains key then sealed "wrapper_descriptor"
    else if commonBuiltins.contains key && !isShared then sealed "method_descriptor"
    else if ["mro", "__subclasses__", "__prepare__", "__instancecheck__",
        "__subclasscheck__"].contains key then bound .builtin
    else if ["__call__", "__or__", "__ror__"].contains key then bound .operator
    else none

end Milp.Session
