/-!
# Kinds of values

What messages call the type of a value. Most types have one name. The types of the elements of
numeric arrays have three: a short one, one with the place they come from, and that of the plain
type behind them, which is what remains of an element that an array operation hands on.
-/

namespace Milp

/-- The names of a type. -/
structure Kind where
  name : String
  fullName : String
  bareName : String
  deriving DecidableEq, Repr

namespace Kind

/-- A type with one name. -/
def plain (name : String) : Kind := ⟨name, name, name⟩

/-- A type of elements of numeric arrays. -/
def element (name bareName : String) : Kind := ⟨name, "numpy." ++ name, bareName⟩

/-- The type of numeric arrays themselves. -/
def array : Kind := ⟨"ndarray", "numpy.ndarray", "numpy.ndarray"⟩

/-- The type of what tells the type of an array's entries. -/
def entryType (name : String) : Kind := ⟨name, "numpy.dtypes." ++ name, "numpy.dtypes." ++ name⟩

/-- The type of the types that tell the type of entries. -/
def ofEntryTypes : Kind := ⟨"_DTypeMeta", "numpy._DTypeMeta", "numpy._DTypeMeta"⟩

/-- The type is one of those that tell the type of entries. -/
def isEntryType (k : Kind) : Bool := k = entryType k.name

/-- The type is one of elements of numeric arrays. -/
def isElement (k : Kind) : Bool := k.fullName ≠ k.bareName

end Kind

end Milp
