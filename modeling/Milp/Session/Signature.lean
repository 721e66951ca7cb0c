import Milp.Session.Member

/-!
# What operations take

An operation takes values by their places: some that it has to be given, some that it can be given,
and perhaps any number of others. A call with too many or too few of them is refused before anything
is done.
-/

namespace Milp.Session

/-- The values that an operation takes. -/
structure Signature where
  /-- The names of the values that it has to be given. -/
  required : List String
  /-- The number of values that it can be given after those. -/
  optional : Nat
  /-- It takes any number of values after those. -/
  takesMore : Bool

namespace Signature

/-- All values have to be given. -/
def all (required : List String) : Signature := ⟨required, 0, false⟩

/-- Some values can be left out. -/
def withOptional (required : List String) (optional : Nat) : Signature := ⟨required, optional, false⟩

/-- Any number of values can follow. -/
def more (required : List String) : Signature := ⟨required, 0, true⟩

/-- Names in quotes with an "and" before the last of them. -/
def enumeration : List String → String
  | [a] => "'" ++ a ++ "'"
  | [a, b] => "'" ++ a ++ "' and '" ++ b ++ "'"
  | names =>
    let quoted := names.map fun n => "'" ++ n ++ "'"
    joined ", " quoted.dropLast ++ ", and " ++ quoted.getLastD ""

/-- A number of things, with an ending unless it is one. -/
def plural (n : Nat) (word : String) : String := word ++ if n = 1 then "" else "s"

/-- Why an operation cannot take so many values, if it cannot. -/
def refusal? (s : Signature) (name : String) (given : Nat) : Option String :=
  let least := s.required.length
  let most := least + s.optional
  if most < given && !s.takesMore then
    let takes := if s.optional = 0 then toString least ++ " positional " ++ plural least "argument"
      else "from " ++ toString least ++ " to " ++ toString most ++ " positional arguments"
    some (name ++ "() takes " ++ takes ++ " but " ++ toString given ++
      (if given = 1 then " was" else " were") ++ " given")
  else
    match s.required.drop given with
    | [] => none
    | missing =>
      some (name ++ "() missing " ++ toString missing.length ++ " required positional " ++
        plural missing.length "argument" ++ ": " ++ enumeration missing)

end Signature

/-- What making a value of a kind takes, after the value itself; the name of the kind is given. -/
def signatureOfMaking (kind : String) : Signature :=
  match kind with
  | "Variable" => .withOptional ["name"] 4
  | "Term" => .all ["factor", "variable"]
  | "LinearExpression" => .withOptional [] 1
  | "Expression" => .withOptional [] 2
  | "Constraint" => .all ["expression", "is_equality"]
  | "Template" => .all ["segments", "operands"]
  | "SolveOptions" => .withOptional [] 3
  | "Solution" => .withOptional ["status"] 2
  | "Problem" => .withOptional [] 2
  | "ScipySolver" => .withOptional [] 1
  | "NativeLibrary" => .all ["binary_path"]
  | "Literal" => .all ["value"]
  | "ExpressionLeaf" => .all ["expression"]
  | "BinaryOp" => .all ["op", "left", "right"]
  | "Comparison" => .all ["left", "comparator", "right"]
  | "Backend" => .all ["answers"]
  | "TString" => .all ["strings", "values"]
  | _ => .more []

/-- What an operation of a kind takes, after the value that it belongs to. -/
def signatureOf (kind name : String) : Signature :=
  match name with
  | "__init__" => signatureOfMaking kind
  | "bounds" => .all ["lower", "upper"]
  | "get_factor" | "get_coefficient" | "get_variable" | "__contains__" | "__getitem__" =>
    .all ["name"]
  | "__eq__" | "__add__" | "__radd__" | "__sub__" | "__rsub__" | "__mul__" | "__rmul__"
  | "__truediv__" | "__rtruediv__" | "__le__" | "__ge__" => .all ["other"]
  | "__setattr__" => .all ["name", "value"]
  | "__format__" => .all ["format_spec"]
  | "__delattr__" => .all ["name"]
  | "evaluate" => .all ["values"]
  | "from_comparison" => .all ["left", "sense", "right"]
  | "from_format" => .more ["source"]
  | "coerce" => .withOptional ["source"] 1
  | "from_dict" => .all ["d"]
  | "from_message" => .all ["message", "names"]
  | "_make" => .all ["iterable"]
  | "joinpath" | "relative_to" | "is_relative_to" => .more []
  | "with_name" => .all ["name"]
  | "with_stem" => .all ["stem"]
  | "with_suffix" => .all ["suffix"]
  | "variable" => .withOptional ["name"] 4
  | "constraint" => .more ["source"]
  | "objective" => .more ["source"]
  | "minimize" | "maximize" => .more ["objective"]
  | "to_message" => .withOptional ["direction", "objective"] 1
  | "_check_variables" => .all ["expression"]
  | "_solve" => .all ["sense", "objective", "options"]
  | "solve" => .withOptional ["message"] 1
  | "__exit__" => .all ["exc_type", "exc_val", "exc_tb"]
  | _ => .all []

/-- The name with which an operation stands in a message. -/
def qualifiedName (kind name : String) : String := definer kind name ++ "." ++ name

/-- Why an operation that was defined for a kind cannot take values, if it cannot. The value that it
belongs to is the first of them. -/
def refusal? (kind name : String) (given : Nat) : Option String :=
  let s := signatureOf kind name
  let first := if kindOperations.contains name then "cls" else "self"
  Signature.refusal? { s with required := first :: s.required } (qualifiedName kind name) given

/-! ### Operations of plain data -/

/-- How the number of values that an operation of plain data takes is told. -/
inductive Span where
  /-- A fixed number of none or one. -/
  | exactly (n : Nat)
  /-- As many values as there are places, each with its own. -/
  | between (least most : Nat)
  /-- So many values at most, which also have names. -/
  | named (most : Nat)
  /-- Values that are told apart by a pattern. -/
  | parsed (least most : Nat)
  /-- So many values by their places, and others by their names alone; the first one may be needed.
  -/
  | mixed (required? : Option String) (placed all : Nat)
  /-- No value by its place, and two by their names alone. -/
  | sorting
  | any

/-- The values that an operation of plain data takes. -/
def spanOf (kind name : String) : Span :=
  match kind, name with
  | "dict", "get" | "mappingproxy", "get" | "dict", "pop" | "dict", "setdefault" => .between 1 2
  | "dict", "update" => .between 0 1
  | "dict", "fromkeys" => .between 1 2
  | "str", "maketrans" => .between 1 3
  | "list", "sort" => .sorting
  | "list", "insert" => .between 2 2
  | "list", "pop" => .between 0 1
  | "list", "index" | "tuple", "index" | "Term", "index" => .between 1 3
  | _, "append" | _, "extend" | _, "remove" | "list", "count" | "tuple", "count" | "Term", "count"
  | _, "join" | "dict", "__contains__" | "dict", "__getitem__" | "list", "__getitem__"
  | _, "__format__" => .exactly 1
  | "str", "count" | "str", "find" | "str", "rfind" | "str", "index" | "str", "rindex"
  | "str", "startswith" | "str", "endswith" => .parsed 1 3
  | "str", "split" | "str", "rsplit" | "str", "encode" => .named 2
  | "str", "splitlines" | "str", "expandtabs" => .named 1
  | "str", "strip" | "str", "lstrip" | "str", "rstrip" => .between 0 1
  | "str", "replace" => .between 2 3
  | "str", "ljust" | "str", "rjust" | "str", "center" => .between 1 2
  | "str", "partition" | "str", "rpartition" | "str", "removeprefix" | "str", "removesuffix"
  | "str", "zfill" | "str", "format_map" | "str", "translate" => .exactly 1
  | "str", "format" => .any
  | "int", "to_bytes" | "bool", "to_bytes" => .mixed none 2 3
  | "int", "from_bytes" | "bool", "from_bytes" => .mixed (some "bytes") 2 3
  | _, "__round__" => .between 0 1
  | _, "fromhex" | _, "__getformat__" => .exactly 1
  | "str", _ | "dict", _ | "list", _ | "mappingproxy", _ | "float", _ | "int", _ | "bool", _ =>
    .exactly 0
  | _, _ => .any

/-- Why an operation of plain data cannot take so many values, if it cannot. -/
def Span.refusal? (span : Span) (kind name : String) (given : Nat) : Option String :=
  let count := fun n => toString n ++ " " ++ Signature.plural n "argument"
  match span with
  | .any => none
  | .exactly n =>
    let takes := if n = 0 then "no arguments" else "exactly one argument"
    if given = n then none
    else some (kind ++ "." ++ name ++ "() takes " ++ takes ++ " (" ++ toString given ++ " given)")
  | .between least most =>
    let bound := fun (word : String) n =>
      some (name ++ " expected " ++ (if least = most then "" else word) ++ count n ++ ", got " ++
        toString given)
    if given < least then bound "at least " least
    else if most < given then bound "at most " most else none
  | .named most =>
    if given ≤ most then none
    else some (name ++ "() takes at most " ++ count most ++ " (" ++ toString given ++ " given)")
  | .parsed least most =>
    let bound := fun (word : String) n =>
      some (name ++ "() takes " ++ word ++ count n ++ " (" ++ toString given ++ " given)")
    if given < least then bound "at least " least
    else if most < given then bound "at most " most else none
  | .sorting =>
    if given = 0 then none
    else if given ≤ 2 then some (name ++ "() takes no positional arguments")
    else some (name ++ "() takes at most " ++ count 2 ++ " (" ++ toString given ++ " given)")
  | .mixed required? placed all =>
    let takes := fun what => some (name ++ "() takes " ++ what ++ " (" ++ toString given ++ " given)")
    match required? with
    | some first =>
      if given = 0 then some (name ++ "() missing required argument '" ++ first ++ "' (pos 1)")
      else tooMany takes placed all
    | none => tooMany takes placed all
where
  tooMany (takes : String → Option String) (placed all : Nat) : Option String :=
    if all < given then takes ("at most " ++ toString all ++ " arguments")
    else if placed < given then takes ("at most " ++ toString placed ++ " positional arguments")
    else none

/-- Operators of a single value. -/
def operatorsAlone : List String := [
  "__len__", "__iter__", "__repr__", "__str__", "__hash__", "__bool__", "__neg__", "__pos__",
  "__abs__", "__int__", "__float__", "__index__", "__invert__"]

/-- Why an operation behind an operator cannot take so many values, if it cannot. Of repetitions of a
sequence and of operators with several values it is told with a blank in front. -/
def operatorRefusal? (isSequence : Bool) (name : String) (given : Nat) : Option String :=
  let expected := fun (blank bound : String) (n : Nat) =>
    some (blank ++ "expected " ++ bound ++ toString n ++ " " ++ Signature.plural n "argument" ++
      ", got " ++ toString given)
  let exactly := fun (blank : String) (n : Nat) => if given = n then none else expected blank "" n
  if operatorsAlone.contains name then exactly "" 0
  else if ["__call__", "__init__"].contains name then none
  else if ["__setattr__", "__setitem__"].contains name then exactly " " 2
  else if ["__pow__", "__rpow__", "__ipow__"].contains name then
    if given < 1 then expected " " "at least " 1
    else if 2 < given then expected " " "at most " 2 else none
  else exactly (if isSequence && ["__mul__", "__rmul__", "__imul__"].contains name then " " else "") 1

end Milp.Session
