import Milp.Variable

/-!
# Affine expressions

An affine expression is a constant and a list of terms, each a factor times a variable. A term is
filed under a key, the name that its variable had when the term was made; no two terms of one
expression share a key. Everything the algebra does is `base + k * other`: the terms of `other` are
merged into those of `base` key by key, and a term that meets no other starts from zero.
-/

namespace Milp

/-- A factor times a variable, filed under a key. -/
structure Term (ν α : Type) where
  key : ν
  factor : α
  var : Var

/-- The linear part of an expression. -/
structure Linear (ν α : Type) [BEq ν] where
  terms : List (Term ν α)
  distinct : (terms.map Term.key).Pairwise fun a b => (a == b) = false

/-- An affine expression. -/
structure Affine (ν α : Type) [BEq ν] where
  linear : Linear ν α
  constant : α

/-! ### The linear part -/

namespace Linear

variable {ν α : Type} [BEq ν]

def empty : Linear ν α := ⟨[], by simp⟩

/-- Replaces the term filed under the same key, or files a new one at the end. -/
def place (t : Term ν α) : List (Term ν α) → List (Term ν α)
  | [] => [t]
  | u :: us => if u.key == t.key then ⟨u.key, t.factor, t.var⟩ :: us else u :: place t us

theorem map_key_place (t : Term ν α) (us : List (Term ν α)) :
    (place t us).map Term.key =
      if us.any (·.key == t.key) then us.map Term.key else us.map Term.key ++ [t.key] := by
  induction us with
  | nil => simp [place]
  | cons u us ih =>
    by_cases h : u.key == t.key
    · simp [place, h]
    · simp only [place, h, Bool.false_eq_true, if_false, List.map_cons, ih, List.any_cons,
        Bool.false_or]
      split <;> simp

theorem distinct_place (t : Term ν α) {us : List (Term ν α)}
    (h : (us.map Term.key).Pairwise fun a b => (a == b) = false) :
    ((place t us).map Term.key).Pairwise fun a b => (a == b) = false := by
  rw [map_key_place]
  split
  · exact h
  · next ht => exact List.pairwise_append.2 ⟨h, by simp, by simp_all⟩

/-- Files a term. -/
def insert (l : Linear ν α) (t : Term ν α) : Linear ν α :=
  ⟨place t l.terms, distinct_place t l.distinct⟩

/-- Files terms one after the other; of several under one key the last stays, in the place of the
first. -/
def ofList (ts : List (Term ν α)) : Linear ν α := ts.foldl insert empty

/-- The term filed under a key. -/
def find? (l : Linear ν α) (key : ν) : Option (Term ν α) := l.terms.find? fun t => t.key == key

/-- The keys, in the order in which they were first filed. -/
def keys (l : Linear ν α) : List ν := l.terms.map Term.key

def contains (l : Linear ν α) (key : ν) : Bool := (l.find? key).isSome

def size (l : Linear ν α) : Nat := l.terms.length

section Scalar

variable [Scalar α]

/-- The factor filed under a key, zero when there is none. -/
def factor (l : Linear ν α) (key : ν) : α :=
  match l.find? key with
  | some t => t.factor
  | none => Scalar.zero

/-- The two agree in the factor of every key that either of them files; `eq` compares factors. -/
def sameBy {μ : Type → Type} [Monad μ] (eq : α → α → μ Bool) (l m : Linear ν α) : μ Bool :=
  (l.keys ++ m.keys).allM fun key => eq (l.factor key) (m.factor key)

def same (l m : Linear ν α) : Except ScalarError Bool := l.sameBy Scalar.same m

/-- Adds `k` times a term. The variable of a term that is already filed stays. -/
def addTerm (k : α) (l : Linear ν α) (t : Term ν α) : Except ScalarError (Linear ν α) := do
  let (start, x) := match l.find? t.key with
    | some u => (u.factor, u.var)
    | none => (Scalar.zero, t.var)
  let factor ← Scalar.add start (← Scalar.mul k t.factor)
  return l.insert ⟨t.key, factor, x⟩

end Scalar

end Linear

/-! ### Expressions -/

namespace Affine

variable {ν α : Type} [BEq ν]

/-- The expression without terms. -/
def ofNumber (n : α) : Affine ν α := ⟨.empty, n⟩

/-- The variables of the terms. -/
def vars (e : Affine ν α) : List Var := e.linear.terms.map Term.var

def isConstant (e : Affine ν α) : Bool := e.linear.terms.isEmpty

/-- The present names and the factors of the terms. -/
def terms (name : Var → ν) (e : Affine ν α) : List (ν × α) :=
  e.linear.terms.map fun t => (name t.var, t.factor)

section Scalar

variable [Scalar α]

/-- The expression of a variable alone, filed under its present name. -/
def ofVar (name : Var → ν) (x : Var) : Affine ν α :=
  ⟨Linear.empty.insert ⟨name x, Scalar.one, x⟩, Scalar.zero⟩

/-- Equality of constants and of all factors, in whatever order they are filed. -/
def sameBy {ε : Type} (eq : α → α → Except ε Bool) (e f : Affine ν α) : Except ε Bool := do
  if ← eq e.constant f.constant then e.linear.sameBy eq f.linear else return false

def same (e f : Affine ν α) : Except ScalarError Bool := e.sameBy Scalar.same f

/-- `base + k * other`. -/
def addScaled (base : Affine ν α) (k : α) (other : Affine ν α) :
    Except ScalarError (Affine ν α) := do
  let linear ← other.linear.terms.foldlM (Linear.addTerm k) base.linear
  let constant ← Scalar.add base.constant (← Scalar.mul k other.constant)
  return ⟨linear, constant⟩

end Scalar

end Affine

end Milp
