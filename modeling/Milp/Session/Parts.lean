import Milp.Session.Repertoire

/-!
# What values tell about themselves

The properties that are worked out from a number, an array, a type of entries, a path or an
operation.
-/

namespace Milp.Session

/-! ### Numbers -/

/-- What a number is as a complex number or as a fraction. -/
def numberPart? (n : Number) : String → Option Number
  | "real" => some n.plus
  | "imag" =>
    match n with
    | .double _ => some (.double 0)
    | .cell _ => some (.cell 0)
    | .word _ => some (.word 0)
    | .whole _ | .truth _ => some (.whole 0)
  | "numerator" => n.integer?.map fun _ => n.plus
  | "denominator" => n.integer?.map fun _ => .whole 1
  | _ => none

/-- How many bytes lie between the entries that follow each other along each dimension. -/
def strides (size : Nat) : List Nat → List Nat
  | [] => []
  | _ :: shape => shape.foldl (· * max 1 ·) size :: strides size shape

/-- The entry of a type that stands for nothing. -/
def blankEntry : Numeric.EntryType → Value
  | .truth => .ofQuantity (.mark false)
  | .double => .ofNumber (.cell 0)
  | .text _ => .ofText ""
  | .any => .ofNumber (.whole 0)
  | t => .ofNumber t.zero

/-- What an array with entries of a type is made of, and how. -/
def arrayPart? (v : Value) (type : Numeric.EntryType) (block : Numeric.Block Value) (key : String) :
    Option Value :=
  let whole := fun n : Nat => Value.ofNumber (.whole n)
  let size := type.bytes
  match key with
  | "T" => some (.mk 0 (if block.shape.length < 2 then v.content else .array type block.turn))
  | "real" => some (.mk 0 v.content)
  | "imag" => some (.mk 0 (.array type (block.map fun _ => blankEntry type)))
  | "strides" => some (.mk 0 (.tuple ((strides size block.shape).map whole)))
  | "__array_priority__" => some (.ofNumber (.double 0))
  | "ndim" => some (whole block.shape.length)
  | "size" => some (whole (Numeric.Block.volume block.shape))
  | "itemsize" => some (whole size)
  | "nbytes" => some (whole (size * Numeric.Block.volume block.shape))
  | "shape" => some (.mk 0 (.tuple (block.shape.map whole)))
  | "dtype" => some (.mk 0 (.entryType type))
  | "device" => some (.ofText "cpu")
  | "data" => some (.mk 0 (.sealed "memoryview"))
  | "flat" => some (.mk 0 (.sealed "flatiter"))
  | "flags" => some (.mk 0 (.sealed "flagsobj"))
  | "ctypes" => some (.mk 0 (.sealed "_ctypes"))
  | _ => none

/-- What a type of entries tells about itself. -/
def entryTypePart? (v : Value) (t : Numeric.EntryType) (key : String) : Option Value :=
  let whole := fun n : Nat => Value.ofNumber (.whole n)
  let order := if t matches .truth | .byte | .any then "|" else "="
  let (letter, character, number, name) : String × String × Nat × String := match t with
    | .truth => ("b", "?", 0, "bool")
    | .byte => ("i", "b", 1, "int8")
    | .signed => ("i", "l", 7, "int64")
    | .unsigned => ("u", "L", 8, "uint64")
    | .double => ("f", "d", 12, "float64")
    | .text _ => ("U", "U", 19, "str_")
    | .any => ("O", "O", 17, "object_")
  let code := match t with
    | .truth => "|b1"
    | .byte => "|i1"
    | .any => "|O"
    | .text n => "<U" ++ toString (max 1 n)
    | t => "<" ++ letter ++ toString t.bytes
  let truth := fun b => some (Value.ofTruth b)
  match key with
  | "name" => some (.ofText (if t matches .text _ then "str" ++ toString (8 * t.bytes) else t.name))
  | "kind" => some (.ofText letter)
  | "char" => some (.ofText character)
  | "num" => some (whole number)
  | "str" => some (.ofText code)
  | "byteorder" => some (.ofText order)
  | "itemsize" => some (whole t.bytes)
  | "alignment" => some (whole (if t matches .text _ then 4 else t.bytes))
  | "ndim" => some (whole 0)
  | "shape" => some (.mk 0 (.tuple []))
  | "flags" => some (whole (if t = .any then 63 else 0))
  | "isbuiltin" => some (whole (if t matches .text _ then 0 else 1))
  | "hasobject" => truth (t = .any)
  | "isnative" => truth true
  | "isalignedstruct" => truth false
  | "base" => some (.mk v.tag v.content)
  | "type" => some (.mk 0 (.typeOf (.element name name)))
  | _ => none

/-- What a quantity is as an array with a single element. -/
def elementPart? (v : Value) (a : Quantity) (key : String) : Option Value :=
  let whole := fun n : Nat => Value.ofNumber (.whole n)
  let type := Numeric.EntryType.of (.quantity a)
  match key with
  | "T" => some v
  | "ndim" => some (whole 0)
  | "size" => some (whole 1)
  | "nbytes" | "itemsize" => some (whole (if a.isMark then 1 else 8))
  | "shape" | "strides" => some (.mk 0 (.tuple []))
  | "dtype" => some (.mk 0 (.entryType type))
  | "__array_priority__" =>
    some (.ofNumber (.double (Double.ofRatio true Numeric.elementPriority 1)))
  | "device" => some (.ofText "cpu")
  | "data" => some (.mk 0 (.sealed "memoryview"))
  | "flat" => some (.mk 0 (.sealed "flatiter"))
  | "flags" => some (.mk 0 (.sealed "flagsobj"))
  | _ => none

/-- What a quantity tells about itself. -/
def quantityPart? (v : Value) (a : Quantity) (key : String) : Option Value :=
  let part := match a with
    | .mark _ =>
      if key = "real" then some v
      else if key = "imag" then some (.ofQuantity (.mark false)) else none
    | .number n =>
      if key = "real" && (n matches .double _ | .whole _) then some v
      else Value.ofNumber <$> numberPart? n key
  match part with
  | some w => some w
  | none => if a.kind.isElement then elementPart? v a key else none

/-! ### Paths, operations and kinds -/

/-- What a path is made of. -/
def pathPart? (path : String) (key : String) : Option Value :=
  let texts := (·.map Value.ofText)
  match key with
  | "name" => some (.ofText (Path.name path))
  | "stem" => some (.ofText (Path.stem path))
  | "suffix" => some (.ofText (Path.suffix path))
  | "root" | "anchor" => some (.ofText (Path.root path))
  | "drive" | "_drv" => some (.ofText "")
  | "_root" => some (.ofText (Path.root path))
  | "_str" => some (.ofText path)
  | "_flavour" => some (.mk 0 (.sealed "_PosixFlavour"))
  | "parent" => some (.mk 0 (.path (Path.parent path)))
  | "parts" => some (.mk 0 (.tuple (texts (Path.parts path))))
  | "parents" => some (.mk 0 (.roll "_PathParents" ((Path.above path).map (.mk 0 <| .path ·))))
  | _ => none

/-- The kind that an operation belongs to. -/
def holderOf (self : Value) : Kind :=
  match self.content with
  | .typeOf kind => kind
  | c => c.kind

/-- The name of the kind that an operation belongs to. -/
def holder (self : Value) : String := (holderOf self).name

/-- What an operation tells about itself. -/
def operationPart? (binding : Binding) (name : String) (self : Value) (key : String) :
    Option Value :=
  match binding, key with
  | _, "__name__" => some (.ofText name)
  | .function, "__self__" => none
  | _, "__self__" => some self
  | .method, "__func__" =>
    some (.mk 0 (.bound .function name (.mk 0 (.typeOf (.plain (holder self))))))
  | .method, "__code__" | .function, "__code__" => some (.mk 0 (.sealed "code"))
  | .method, "__qualname__" | .function, "__qualname__" =>
    some (.ofText (definer (holder self) name ++ "." ++ name))
  | .method, "__module__" | .function, "__module__" => (moduleOfMethod? (holder self) name).map .ofText
  | .builtin, "__qualname__" => some (.ofText (holder self ++ "." ++ name))
  | .builtin, "__module__" => some .null
  | .operator, "__objclass__" => some (.mk 0 (.typeOf (.plain (holder self))))
  | _, _ => none

/-- What is worked out from a path. -/
def pathProperties : List String :=
  ["_cparts", "anchor", "drive", "name", "parent", "parents", "parts", "root", "stem", "suffix",
    "suffixes"]

/-- The properties that a path keeps for itself. -/
def pathSlots : List String :=
  ["_cached_cparts", "_drv", "_hash", "_parts", "_pparts", "_root", "_str"]

/-- A property that is worked out from others and cannot be changed itself. -/
def isWorkedOut (kind key : String) : Bool :=
  match kind, key with
  | "LinearExpression", "coeff" | "Expression", "linear" | "Expression", "constant"
  | "Problem", "variables" => true
  | "PosixPath", key => pathProperties.contains key
  | _, _ => false

end Milp.Session
