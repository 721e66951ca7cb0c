import Milp.Session.Walk

/-!
# What kinds can do

The names under which values of a kind have operations, the modules in which kinds and operations
are defined, and the names of the fields of kinds whose values never change.
-/

namespace Milp.Session

/-! ### Operations by kind -/

/-- Operations behind operators that every value has. -/
def commonOperators : List String := [
  "__delattr__", "__eq__", "__ge__", "__getattribute__", "__gt__", "__hash__", "__init__",
  "__le__", "__lt__", "__ne__", "__repr__", "__setattr__", "__str__"]

/-- Operations that every value has. -/
def commonBuiltins : List String := [
  "__dir__", "__format__", "__getstate__", "__init_subclass__", "__new__", "__reduce__",
  "__reduce_ex__", "__sizeof__", "__subclasshook__"]

/-- Operations behind operators that all numbers have. -/
def numberOperators : List String := [
  "__abs__", "__add__", "__bool__", "__divmod__", "__float__", "__floordiv__", "__int__",
  "__mod__", "__mul__", "__neg__", "__pos__", "__pow__", "__radd__", "__rdivmod__",
  "__rfloordiv__", "__rmod__", "__rmul__", "__rpow__", "__rsub__", "__rtruediv__", "__sub__",
  "__truediv__"]

/-- Operations behind operators on bits. -/
def bitOperators : List String := [
  "__and__", "__invert__", "__lshift__", "__or__", "__rand__", "__rlshift__", "__ror__",
  "__rrshift__", "__rshift__", "__rxor__", "__xor__"]

/-- Operations behind operators that sequences have. -/
def sequenceOperators : List String :=
  ["__add__", "__contains__", "__iter__", "__len__", "__mul__", "__rmul__"]

/-- Operations of plain integers. -/
def integerBuiltins : List String := [
  "__ceil__", "__floor__", "__getnewargs__", "__round__", "__trunc__", "as_integer_ratio",
  "bit_count", "bit_length", "conjugate", "from_bytes", "to_bytes"]

/-- Operations of plain doubles. -/
def doubleBuiltins : List String := [
  "__ceil__", "__floor__", "__getformat__", "__getnewargs__", "__round__", "__trunc__",
  "as_integer_ratio", "conjugate", "fromhex", "hex", "is_integer"]

/-- Operations of the elements of numeric arrays. -/
def elementBuiltins : List String := [
  "__array__", "__array_namespace__", "__array_wrap__", "__class_getitem__", "__copy__",
  "__deepcopy__", "__setstate__", "all", "any", "argmax", "argmin", "argsort", "astype",
  "byteswap", "choose", "clip", "compress", "conj", "conjugate", "copy", "cumprod", "cumsum",
  "diagonal", "dump", "dumps", "fill", "flatten", "getfield", "item", "max", "mean", "min",
  "nonzero", "prod", "put", "ravel", "repeat", "reshape", "resize", "round", "searchsorted",
  "setfield", "setflags", "sort", "squeeze", "std", "sum", "swapaxes", "take", "to_device",
  "tobytes", "tofile", "tolist", "trace", "transpose", "var", "view"]

/-- Operations of numeric arrays beside those that their elements have. -/
def arrayBuiltins : List String := [
  "__array_function__", "__complex__", "__dlpack__", "__dlpack_device__", "argpartition", "dot",
  "partition"]

/-- Operations behind operators that change an array in place, or multiply matrices. -/
def arrayOperators : List String := [
  "__contains__", "__delitem__", "__getitem__", "__iadd__", "__iand__", "__ifloordiv__",
  "__ilshift__", "__imatmul__", "__imod__", "__imul__", "__index__", "__ior__", "__ipow__",
  "__irshift__", "__isub__", "__iter__", "__itruediv__", "__ixor__", "__len__", "__matmul__",
  "__rmatmul__", "__setitem__"]

/-- Operations of texts. -/
def textBuiltins : List String := [
  "__getnewargs__", "capitalize", "casefold", "center", "count", "encode", "endswith",
  "expandtabs", "find", "format", "format_map", "index", "isalnum", "isalpha", "isascii",
  "isdecimal", "isdigit", "isidentifier", "islower", "isnumeric", "isprintable", "isspace",
  "istitle", "isupper", "join", "ljust", "lower", "lstrip", "maketrans", "partition",
  "removeprefix", "removesuffix", "replace", "rfind", "rindex", "rjust", "rpartition", "rsplit",
  "rstrip", "split", "splitlines", "startswith", "strip", "swapcase", "title", "translate",
  "upper", "zfill"]

/-- Operations of bytes. -/
def byteBuiltins : List String := [
  "__bytes__", "__getnewargs__", "capitalize", "center", "count", "decode", "endswith",
  "expandtabs", "find", "fromhex", "hex", "index", "isalnum", "isalpha", "isascii", "isdigit",
  "islower", "isspace", "istitle", "isupper", "join", "ljust", "lower", "lstrip", "maketrans",
  "partition", "removeprefix", "removesuffix", "replace", "rfind", "rindex", "rjust",
  "rpartition", "rsplit", "rstrip", "split", "splitlines", "startswith", "strip", "swapcase",
  "title", "translate", "upper", "zfill"]

/-- The operations behind operators that a kind of values has beside the common ones. -/
def operators : Content → List String
  | .text _ | .bytes _ => "__getitem__" :: "__mod__" :: "__rmod__" :: sequenceOperators
  | .quantity (.number (.double _)) => numberOperators
  | .quantity (.number (.cell _)) | .quantity (.mark _) =>
    "__getitem__" :: bitOperators ++ numberOperators
  | .quantity (.number (.word _)) =>
    "__getitem__" :: "__index__" :: bitOperators ++ numberOperators
  | .quantity (.number _) => "__index__" :: bitOperators ++ numberOperators
  | .object .list =>
    ["__delitem__", "__iadd__", "__imul__", "__setitem__"] ++ sequenceOperators
  | .object .record =>
    ["__delitem__", "__ior__", "__iter__", "__len__", "__or__", "__ror__", "__setitem__"]
  | .view _ =>
    ["__contains__", "__getitem__", "__ior__", "__iter__", "__len__", "__or__", "__ror__"]
  | .tuple _ | .term .. => "__getitem__" :: sequenceOperators
  | .array .. => arrayOperators ++ bitOperators ++ numberOperators
  | .null => ["__bool__"]
  | .bound .. => ["__call__"]
  | .roll "_PathParents" _ => []
  | .roll "dict_values" _ => ["__iter__", "__len__"]
  | .roll .. => ["__and__", "__contains__", "__iter__", "__len__", "__or__", "__rand__", "__ror__",
    "__rsub__", "__rxor__", "__sub__", "__xor__"]
  | .iterator .. => ["__iter__", "__next__"]
  | _ => []

/-- The operations that a kind of plain data has beside the common ones. -/
def builtins : Content → List String
  | .text _ => textBuiltins
  | .bytes _ => byteBuiltins
  | .quantity (.number (.double _)) => doubleBuiltins
  | .quantity (.number (.cell _)) => elementBuiltins ++ doubleBuiltins
  | .quantity (.number (.word _)) =>
    ["__round__", "bit_count", "is_integer"] ++ elementBuiltins
  | .quantity (.number _) => integerBuiltins
  | .quantity (.mark _) => elementBuiltins
  | .object .list =>
    ["__class_getitem__", "__getitem__", "__reversed__", "append", "clear", "copy", "count",
      "extend", "index", "insert", "pop", "remove", "reverse", "sort"]
  | .object .record =>
    ["__class_getitem__", "__contains__", "__getitem__", "__reversed__", "clear", "copy",
      "fromkeys", "get", "items", "keys", "pop", "popitem", "setdefault", "update", "values"]
  | .view _ => ["__class_getitem__", "__reversed__", "copy", "get", "items", "keys", "values"]
  | .tuple _ => ["__class_getitem__", "__getnewargs__", "count", "index"]
  | .term .. => ["__class_getitem__", "count", "index"]
  | .array .. => "__array_finalize__" :: "__array_ufunc__" :: arrayBuiltins ++ elementBuiltins
  | .entryType _ => ["__class_getitem__", "newbyteorder"]
  | .roll "_PathParents" _ => []
  | .roll "dict_values" _ => ["__reversed__"]
  | .roll .. => ["__reversed__", "isdisjoint"]
  | .iterator .. => ["__length_hint__"]
  | _ => []

/-- The operators that variables and expressions share. -/
def affineOperators : List String := [
  "__add__", "__radd__", "__sub__", "__rsub__", "__mul__", "__rmul__", "__truediv__",
  "__rtruediv__", "__le__", "__ge__", "__neg__", "__pos__"]

/-- The operations that were defined for a kind of values; its name is given. -/
def methodsOf : String → List String
  | "Variable" =>
    ["__init__", "__repr__", "bounds", "make_integer", "make_binary"] ++ affineOperators
  | "Term" => ["__getnewargs__", "__repr__", "_asdict", "_make", "_replace"]
  | "NativeLibrary" =>
    ["__init__", "__del__", "__enter__", "__exit__", "__repr__", "problem", "solve", "close"]
  | "ConstraintSense" | "Sense" =>
    ["__init__", "__hash__", "__reduce_ex__", "__dir__", "__format__", "__str__", "__repr__",
      "__new__", "_generate_next_value_", "_missing_"]
  | "Literal" | "ExpressionLeaf" | "BinaryOp" | "Comparison" =>
    ["__init__", "__repr__", "__eq__", "__hash__", "__setattr__", "__delattr__"]
  | "LinearExpression" =>
    ["__init__", "__repr__", "__eq__", "__len__", "__iter__", "__contains__", "get_factor"]
  | "Expression" =>
    ["__init__", "__repr__", "__eq__", "terms", "variables", "get_coefficient", "is_constant",
      "evaluate"] ++ affineOperators
  | "Constraint" => ["__init__", "__repr__", "from_comparison"]
  | "Template" => ["__init__", "__repr__", "__eq__", "from_format", "coerce", "substituted"]
  | "SolveOptions" => ["__init__", "__repr__", "from_dict", "to_dict"]
  | "Solution" =>
    ["__init__", "__repr__", "__getitem__", "is_optimal", "to_dict", "from_message"]
  | "Problem" =>
    ["__init__", "__repr__", "get_variable", "variable", "constraint", "objective", "to_message",
      "minimize", "maximize", "_check_variables", "_solve"]
  | "Backend" | "ScipySolver" => ["__init__", "solve"]
  | "TString" => ["__init__"]
  | "PosixPath" => [
    "_format_parsed_parts", "_from_parsed_parts", "_from_parts", "_make_child",
    "_make_child_relpath", "_parse_args", "_scandir", "__bytes__", "__enter__", "__eq__", "__exit__", "__fspath__", "__ge__", "__gt__", "__hash__",
    "__le__", "__lt__", "__reduce__", "__repr__", "__rtruediv__", "__str__", "__truediv__",
    "absolute", "as_posix", "as_uri", "chmod", "cwd", "exists", "expanduser", "glob", "group",
    "hardlink_to", "home", "is_absolute", "is_block_device", "is_char_device", "is_dir", "is_fifo",
    "is_file", "is_mount", "is_relative_to", "is_reserved", "is_socket", "is_symlink", "iterdir",
    "joinpath", "lchmod", "link_to", "lstat", "match", "mkdir", "open", "owner", "read_bytes",
    "read_text", "readlink", "relative_to", "rename", "replace", "resolve", "rglob", "rmdir",
    "samefile", "stat", "symlink_to", "touch", "unlink", "with_name", "with_stem", "with_suffix",
    "write_bytes", "write_text"]
  | _ => []

/-- The operations that were defined for the kind of a value. -/
def methods (c : Content) : List String := methodsOf c.kind.name

/-- The operations that belong to a kind and not to a single value of it. -/
def kindOperations : List String := [
  "from_comparison", "from_format", "coerce", "from_dict", "from_message", "_make", "_missing_",
  "__new__", "__init_subclass__", "__subclasshook__", "__class_getitem__", "fromkeys",
  "maketrans", "from_bytes", "fromhex", "__getformat__", "cwd", "home",
  "_format_parsed_parts", "_from_parsed_parts", "_from_parts", "_parse_args"]

/-! ### Constants -/

/-- The module in which a kind of values is defined; the name of the kind is given. -/
def moduleOf? (kind : String) : Option String :=
  let module? := match kind with
    | "Variable" | "Term" | "LinearExpression" | "Expression" | "Constraint" | "Sense"
    | "ConstraintSense" | "_AffineOperators" => some "modeling"
    | "Template" => some "template"
    | "Literal" | "ExpressionLeaf" | "BinaryOp" | "Comparison" => some "parser"
    | "Problem" => some "problem"
    | "SolveOptions" => some "options"
    | "Solution" => some "solution"
    | "ScipySolver" => some "solver"
    | "NativeLibrary" => some "native"
    | _ => none
  if kind.endsWith "Path" then some "pathlib"
  else if kind = "Enum" then some "enum"
  else if kind = "_DTypeMeta" then some "numpy"
  else if kind.endsWith "DType" then some "numpy.dtypes"
  else module?.map ("knorpelsolve." ++ ·)

/-- What an operation that was defined for a kind of values was defined for. -/
def definer (kind name : String) : String :=
  if (kind = "Variable" || kind = "Expression") && affineOperators.contains name then
    "_AffineOperators"
  else if kind = "Sense" || kind = "ConstraintSense" then "Enum"
  else kind

/-- The module in which an operation was defined. -/
def moduleOfMethod? (kind name : String) : Option String :=
  match definer kind name with
  | "Enum" => some "enum"
  | "Term" => some "collections"
  | _ => moduleOf? kind

/-- The value can be given properties beside those of its kind. -/
def takesNotes : Content → Bool
  | .var _ | .library _ | .parts .. | .sense _ | .direction _ => true
  | .object species => species ≠ .list ∧ species ≠ .record
  | _ => false

/-- The value has a record of what it has of its own. -/
def hasRecord (c : Content) : Bool :=
  takesNotes c ||
    match c with
    | .literal _ | .leaf _ | .operation .. | .comparison .. => true
    | _ => false

/-- Names under which a kind of values has nothing. -/
def blanks : Content → List String
  | .object .list | .object .record => ["__hash__"]
  | .view _ => ["__hash__", "__doc__"]
  | .object .linear | .object .template => ["__hash__"]
  | .object .expression => ["__hash__", "__array_ufunc__"]
  | .var _ => ["__array_ufunc__"]
  | .null => ["__doc__"]
  | .bound .method .. => ["__doc__", "__closure__"]
  | .array .. => ["__hash__", "base"]
  | .entryType _ => ["names", "fields", "subdtype", "metadata"]
  | .quantity (.number (.cell _)) | .quantity (.number (.word _)) | .quantity (.mark _) =>
    ["base"]
  | _ => []

/-- The fields of a kind whose values never change. -/
def fieldNames : Content → List String
  | .term .. => ["factor", "variable"]
  | .literal _ => ["value"]
  | .leaf _ => ["expression"]
  | .operation .. => ["op", "left", "right"]
  | .comparison .. => ["left", "comparator", "right"]
  | _ => []

/-- The kinds that the fields of a kind should have; those of a kind to come are told by its name.
-/
def fieldKinds : Content → List Value
  | .term .. => [ofKind "float", ofKind "Variable"]
  | .literal _ => [ofKind "float"]
  | .leaf _ => [ofKind "Expression"]
  | .operation .. => [ofKind "str", .ofText "Node", .ofText "Node"]
  | .comparison .. => [.ofText "Node", ofKind "str", .ofText "Node"]
  | _ => []
where
  ofKind (name : String) : Value := .mk 0 (.typeOf (.plain name))

/-- A record that a kind of values has, by the fields. -/
def sheet? (c : Content) (key : String) : Option (List (String × Value)) :=
  let names := fieldNames c
  match c, key with
  | .term .., "_field_defaults" | .bound .method .., "__dict__" => some []
  | .term .., "__dataclass_fields__" => none
  | _, "__annotations__" => if names.isEmpty then none else some (names.zip (fieldKinds c))
  | _, "__dataclass_fields__" =>
    if names.isEmpty then none else some (names.map (·, .mk 0 (.sealed "Field")))
  | _, _ => none

/-- Constants of a kind: the fields of a tuple with names, and the members of a kind that has
finitely many. -/
def constant? (s : Session) (c : Content) (key : String) : Option Value :=
  let names := some (.mk 0 (.tuple ((fieldNames c).map s.constant)))
  match c, key with
  | .term .., "_fields" => names
  | .term .., "__slots__" => some (.mk 0 (.tuple []))
  | .term .., "__orig_bases__" => some (.mk 0 (.tuple [.mk 0 (.sealed "function")]))
  | .literal _, "__dataclass_params__" | .leaf _, "__dataclass_params__"
  | .operation .., "__dataclass_params__" | .comparison .., "__dataclass_params__" =>
    some (.mk 0 (.sealed "_DataclassParams"))
  | .path _, "__slots__" => some (.mk 0 (.tuple []))
  | _, "__match_args__" => if (fieldNames c).isEmpty then none else names
  | .sense _, key | .direction _, key => member? (.mk 0 (.typeOf c.kind)) key
  | _, _ => none

end Milp.Session
