import Milp.Proofs.Lexeme
import Milp.Template
import Mathlib.Algebra.Field.Rat

/-!
# Formulas

What a source says as ordinary arithmetic. A text is spelled in lexemes, each the longest one at its
place, with blanks around them; a template is spelled in the lexemes of its segments and the
operands between them. A formula is read off such a row of items by the rules of arithmetic:
products bind tighter than sums, both group to the left, parentheses override, and a signed numeral
that follows a complete operand directly starts a product that is added to it.

The value of a formula is its value as ordinary arithmetic over the rationals, so a formula with a
zero divisor has none.
-/

namespace Milp

open Text

variable {ω : Type}

/-! ### Items -/

/-- What a source is spelled in: lexemes, and operands between them. -/
inductive SourceItem (ω : Type) where
  | lexeme (l : Lexeme)
  | operand (o : ω)

/-- The text is spelled in these lexemes, apart from blanks. -/
inductive Spells (mode : Mode) : List Char → List Lexeme → Prop
  | nil : Spells mode [] []
  | blank {c cs ls} : isBlank c → Spells mode cs ls → Spells mode (c :: cs) ls
  | lexeme {l cs ls} : l.Starts mode (l.chars ++ cs) → Spells mode cs ls →
      Spells mode (l.chars ++ cs) (l :: ls)

/-- A segment and the operands and segments after it are spelled in these items. -/
inductive SpellsFrom (mode : Mode) : String → List (ω × String) → List (SourceItem ω) → Prop
  | last {segment ls} : Spells mode segment.toList ls →
      SpellsFrom mode segment [] (ls.map .lexeme)
  | more {segment ls o next rest is} : Spells mode segment.toList ls →
      SpellsFrom mode next rest is →
      SpellsFrom mode segment ((o, next) :: rest) (ls.map .lexeme ++ .operand o :: is)

/-- The template is spelled in these items. -/
def Template.Spells (mode : Mode) (t : Template ω) (is : List (SourceItem ω)) : Prop :=
  SpellsFrom mode t.first t.rest is

/-! ### Formulas and their grammar -/

inductive Formula.Operation where
  | plus
  | minus
  | times
  | dividedBy
  deriving DecidableEq, Repr

namespace Formula.Operation

def char : Formula.Operation → Char
  | plus => '+'
  | minus => '-'
  | times => '*'
  | dividedBy => '/'

/-- The operation joins summands. -/
def isAdditive : Formula.Operation → Bool
  | plus | minus => true
  | times | dividedBy => false

/-- What the operation makes of two numbers; a quotient by zero is nothing. -/
def apply : Formula.Operation → Rat → Rat → Option Rat
  | plus, x, y => some (x + y)
  | minus, x, y => some (x - y)
  | times, x, y => some (x * y)
  | dividedBy, x, y => if y = 0 then none else some (x / y)

end Formula.Operation

inductive Formula (ω : Type) where
  | numeral (n : Numeral)
  | operand (o : ω)
  | binary (op : Formula.Operation) (left right : Formula ω)

/-- A formula on each side of a comparator. -/
structure Assertion (ω : Type) where
  left : Formula ω
  sense : Sense
  right : Formula ω

mutual

/-- The items are a sum: the formula is what they say. -/
inductive SaysSum : List (SourceItem ω) → Formula ω → Prop
  | product {is f} : SaysProduct is f → SaysSum is f
  | more {is js op f g} : SaysSum is f → op.isAdditive = true → SaysProduct js g →
      SaysSum (is ++ .lexeme (.operator op.char) :: js) (.binary op f g)
  | beside {is n js f g} : SaysSum is f → n.sign.isSome →
      SaysProduct (.lexeme (.numeral n) :: js) g →
      SaysSum (is ++ .lexeme (.numeral n) :: js) (.binary .plus f g)

/-- The items are a product. -/
inductive SaysProduct : List (SourceItem ω) → Formula ω → Prop
  | primary {is f} : SaysPrimary is f → SaysProduct is f
  | more {is js op f g} : SaysProduct is f → op.isAdditive = false → SaysPrimary js g →
      SaysProduct (is ++ .lexeme (.operator op.char) :: js) (.binary op f g)

/-- The items are a numeral, an operand or a sum in parentheses. -/
inductive SaysPrimary : List (SourceItem ω) → Formula ω → Prop
  | numeral (n) : SaysPrimary [.lexeme (.numeral n)] (.numeral n)
  | operand (o) : SaysPrimary [.operand o] (.operand o)
  | group {is f} : SaysSum is f →
      SaysPrimary (.lexeme .opening :: (is ++ [.lexeme .closing])) f

end

/-- **What the template says** as an expression. -/
def Template.Says (t : Template ω) (f : Formula ω) : Prop :=
  ∃ is, t.Spells .expression is ∧ SaysSum is f

/-- **What the template asserts** as a constraint. -/
def Template.Asserts (t : Template ω) (a : Assertion ω) : Prop :=
  ∃ is js, t.Spells .constraint (is ++ .lexeme (.comparator a.sense) :: js) ∧
    SaysSum is a.left ∧ SaysSum js a.right

/-! ### Values -/

/-- The number that the digits around the point write. -/
def Numeral.rational (n : Numeral) : Rat :=
  let size : Rat := digitsValue n.whole + digitsValue n.fraction / 10 ^ n.fraction.length
  if n.sign = some '-' then -size else size

namespace Formula

/-- The operands, from left to right. -/
def operands : Formula ω → List ω
  | numeral _ => []
  | operand o => [o]
  | binary _ f g => f.operands ++ g.operands

/-- The value of a formula whose operands have these values, unless a divisor is zero. -/
def value (of : ω → Rat) : Formula ω → Option Rat
  | numeral n => some n.rational
  | operand o => some (of o)
  | binary op f g => do op.apply (← f.value of) (← g.value of)

end Formula

/-! ### Operands -/

def SourceItem.operand? : SourceItem ω → Option ω
  | lexeme _ => none
  | operand o => some o

/-- A template is spelled with every operand once, in order. -/
theorem SpellsFrom.operands_eq {mode : Mode} {segment : String} {rest : List (ω × String)}
    {is : List (SourceItem ω)} (h : SpellsFrom mode segment rest is) :
    is.filterMap SourceItem.operand? = rest.map Prod.fst := by
  have key (ls : List Lexeme) :
      (ls.map SourceItem.lexeme).filterMap (SourceItem.operand? (ω := ω)) = [] := by
    simp [SourceItem.operand?]
  induction h with
  | last _ => exact key _
  | more _ _ ih =>
    rw [List.filterMap_append, key, List.nil_append, List.map_cons, ← ih]
    rfl

mutual

/-- A formula has every operand of its items once, in order. -/
theorem SaysSum.operands_eq {is : List (SourceItem ω)} {f : Formula ω} (h : SaysSum is f) :
    f.operands = is.filterMap SourceItem.operand? := by
  match h with
  | .product h => exact h.operands_eq
  | .more h _ h' =>
    rw [Formula.operands, h.operands_eq, h'.operands_eq, List.filterMap_append,
      List.filterMap_cons_none rfl]
  | .beside h _ h' => rw [Formula.operands, h.operands_eq, h'.operands_eq, List.filterMap_append]

theorem SaysProduct.operands_eq {is : List (SourceItem ω)} {f : Formula ω}
    (h : SaysProduct is f) : f.operands = is.filterMap SourceItem.operand? := by
  match h with
  | .primary h => exact h.operands_eq
  | .more h _ h' =>
    rw [Formula.operands, h.operands_eq, h'.operands_eq, List.filterMap_append,
      List.filterMap_cons_none rfl]

theorem SaysPrimary.operands_eq {is : List (SourceItem ω)} {f : Formula ω}
    (h : SaysPrimary is f) : f.operands = is.filterMap SourceItem.operand? := by
  match h with
  | .numeral n => rfl
  | .operand o => rfl
  | .group h =>
    rw [h.operands_eq, List.filterMap_cons_none rfl, List.filterMap_append]
    exact (List.append_nil _).symm

end

theorem Template.Says.operands_eq {t : Template ω} {f : Formula ω} (h : t.Says f) :
    f.operands = t.operands := by
  obtain ⟨is, his, hf⟩ := h
  rw [hf.operands_eq]
  exact his.operands_eq

theorem Template.Asserts.operands_eq {t : Template ω} {a : Assertion ω} (h : t.Asserts a) :
    a.left.operands ++ a.right.operands = t.operands := by
  obtain ⟨is, js, his, hl, hr⟩ := h
  have h := his.operands_eq
  rw [List.filterMap_append, List.filterMap_cons_none rfl] at h
  rw [hl.operands_eq, hr.operands_eq, h]
  rfl

/-! ### Assertions that hold -/

/-- The two numbers compare in the sense. -/
def Sense.Holds : Sense → Rat → Rat → Prop
  | le, x, y => x ≤ y
  | eq, x, y => x = y
  | ge, x, y => x ≥ y

namespace Assertion

variable (of : ω → Rat) (a : Assertion ω)

/-- Both sides have a value. -/
def Defined : Prop := (a.left.value of).isSome ∧ (a.right.value of).isSome

/-- Both sides have a value, and the values compare as they should. -/
def Holds : Prop := ∃ x ∈ a.left.value of, ∃ y ∈ a.right.value of, a.sense.Holds x y

end Assertion

end Milp
