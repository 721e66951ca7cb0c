import Milp.Number.Power
import Milp.Scalar

/-!
# Types of array elements

All elements of an array have one type. An array may also be given as blocks or as fields: then
every item stands for a whole block of elements, or for one element in each field.
-/

namespace Milp.Numeric

/-- The type of an array's elements. -/
inductive Element where
  | truth
  | integer (signed : Bool) (bits : Nat)
  | half
  | single
  | double
  /-- Numbers of extended precision. -/
  | extended
  /-- Complex numbers of so many bytes, of which only the real parts remain. -/
  | complex (bytes : Nat)
  /-- Elements that stay what they are. -/
  | any
  /-- Elements in writing, in bytes or in characters, cut off at a width if there is one. -/
  | text (inBytes : Bool) (width? : Option Nat)
  /-- Single bytes; a text stands for all of its characters. -/
  | letter
  /-- Elements in writing, of any length. -/
  | words
  /-- Bytes without a meaning, as many as the width says if there is one. -/
  | raw (width? : Option Nat)
  /-- Lengths of time, counted in a unit if there is one. -/
  | span (unit : String)
  /-- Points in time, counted in a unit if there is one. -/
  | instant (unit : String)
  deriving DecidableEq, Repr

/-- How far single elements come after arrays where both could lead an operation. -/
def elementPriority : Nat := 1000000

namespace Element

/-- The number of bytes of an element; zero as long as a width is missing. -/
def bytes : Element → Nat
  | truth | letter => 1
  | integer _ bits => bits / 8
  | half => 2
  | single => 4
  | double | any | span _ | instant _ => 8
  | extended | words => 16
  | complex n => n
  | text inBytes width? => (width?.getD 0) * if inBytes then 1 else 4
  | raw width? => width?.getD 0

/-- Elements of the type may have any width, and none is given. -/
def isUnsized : Element → Bool
  | text _ none | raw none => true
  | _ => false

/-- An element of the type with a width, if it can have one. -/
def withWidth (width : Nat) : Element → Element
  | text inBytes none => text inBytes (if width = 0 then none else some width)
  | raw none => raw (if width = 0 then none else some width)
  | t => t

/-- The letter for the kind of the type. -/
def letterOf : Element → String
  | truth => "?"
  | integer signed _ => if signed then "i" else "u"
  | half | single | double | extended => "f"
  | complex _ => "c"
  | any => "O"
  | text inBytes _ => if inBytes then "S" else "U"
  | letter => "S"
  | words => "T"
  | raw _ => "V"
  | span _ => "m"
  | instant _ => "M"

/-- The order of the bytes shows in the code of the type. -/
def hasOrder : Element → Bool
  | truth | any | text true _ | letter | words | raw _ => false
  | integer _ bits => bits ≠ 8
  | _ => true

/-- The code of the type: the order of its bytes, its letter and its size. -/
def code (reversed : Bool) (t : Element) : String :=
  let size := match t with
    | truth | any | words => ""
    | text _ width? | raw width? => (width?.map toString).getD ""
    | span unit | instant unit => "8" ++ if unit.isEmpty then "" else "[" ++ unit ++ "]"
    | t => toString t.bytes
  (if t.hasOrder then if reversed then ">" else "<" else "") ++ t.letterOf ++ size

end Element

/-- The type of an array: elements, whose bytes may be in reverse order; blocks of some shape; or
named fields. -/
inductive ArrayType where
  | elements (t : Element) (reversed : Bool)
  | block (shape : List Nat) (t : ArrayType)
  | fields (fs : List (String × ArrayType))

namespace ArrayType

mutual

/-- The number of bytes that an item takes. -/
def bytes : ArrayType → Nat
  | elements t _ => t.bytes
  | block shape t => shape.foldl (· * ·) 1 * t.bytes
  | fields fs => bytesOf fs

def bytesOf : List (String × ArrayType) → Nat
  | [] => 0
  | (_, t) :: rest => t.bytes + bytesOf rest

end

/-- Items of the type take no bytes, and no fields tell what they are made of. -/
def isUnsized : ArrayType → Bool
  | fields _ => false
  | t => t.bytes = 0

end ArrayType

end Milp.Numeric
