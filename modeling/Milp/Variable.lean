import Milp.Datum

/-!
# Variables

A variable is an identity: two variables are the same only if they were made by one act, whatever
they are called. What is known of a variable, its name included, may change and is kept apart from
it in a store.
-/

namespace Milp

/-- The identity of a variable: its place in the store. -/
structure Var where
  index : Nat
  deriving DecidableEq, Repr, Inhabited

/-- What is known of a variable. Missing bounds, a missing starting value and a missing value are
nothing. -/
structure Variable (ν δ : Type) where
  name : ν
  min : δ
  max : δ
  integer : δ
  initial : δ
  value : δ
  deriving Inhabited

/-- All variables that were ever made. -/
structure Store (ν δ : Type) where
  entries : Array (Variable ν δ)

namespace Store

variable {ν δ : Type}

def empty : Store ν δ := ⟨#[]⟩

section Reading

variable [Inhabited (Variable ν δ)]

/-- What is known of a variable; of an identity that was never given out, nothing. -/
def get (s : Store ν δ) (x : Var) : Variable ν δ := s.entries[x.index]?.getD default

/-- The present name of a variable. -/
def name (s : Store ν δ) (x : Var) : ν := (s.get x).name

end Reading

/-- The identity that the next variable gets. -/
def fresh (s : Store ν δ) : Var := ⟨s.entries.size⟩

/-- Makes a variable. -/
def push (s : Store ν δ) (v : Variable ν δ) : Store ν δ := ⟨s.entries.push v⟩

/-- Changes what is known of a variable. -/
def modify (s : Store ν δ) (x : Var) (f : Variable ν δ → Variable ν δ) : Store ν δ :=
  ⟨s.entries.modify x.index f⟩

variable [Inhabited (Variable ν δ)]

theorem get_push_fresh (s : Store ν δ) (v : Variable ν δ) : (s.push v).get s.fresh = v := by
  simp [get, push, fresh]

theorem get_push_of_ne {s : Store ν δ} {v : Variable ν δ} {x : Var} (h : x ≠ s.fresh) :
    (s.push v).get x = s.get x := by
  have : x.index ≠ s.entries.size := fun e => h (by cases x; simp_all [fresh])
  simp [get, push, Array.getElem?_push, this]

theorem get_modify_self {s : Store ν δ} {x : Var} {f : Variable ν δ → Variable ν δ}
    (h : x.index < s.entries.size) : (s.modify x f).get x = f (s.get x) := by
  simp [get, modify, h, Array.getElem_modify]

theorem get_modify_of_ne {s : Store ν δ} {x y : Var} {f : Variable ν δ → Variable ν δ}
    (h : y ≠ x) : (s.modify x f).get y = s.get y := by
  have : x.index ≠ y.index := fun e => h (by cases x; cases y; simp_all)
  simp [get, modify, Array.getElem?_modify, this]

end Store

namespace Variable

variable {ν δ α : Type}

/-- Sets both bounds. -/
def bounds (v : Variable ν δ) (lower upper : δ) : Variable ν δ :=
  { v with min := lower, max := upper }

section Data

variable [Scalar α] [Data δ α]

/-- Restricts the variable to the integers. -/
def makeInteger (v : Variable ν δ) : Variable ν δ :=
  { v with integer := Data.ofNumber (Scalar.truth true : α) }

/-- Restricts the variable to zero and one. -/
def makeBinary (v : Variable ν δ) : Variable ν δ :=
  (v.bounds (Data.ofNumber (Scalar.ofInt 0 : α)) (Data.ofNumber (Scalar.ofInt 1 : α))).makeInteger

end Data

/-- The written form of a variable with a name. -/
def textOf (name : String) : String := "Variable(" ++ name ++ ")"

/-- The written form of a variable. -/
def display [Name ν] (v : Variable ν δ) : String := textOf (Name.text v.name)

end Variable

end Milp
