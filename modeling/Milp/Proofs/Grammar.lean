import Milp.Tree

/-!
# The grammar of sources

    sum        := product (("+" | "-") product)*
    product    := primary (("*" | "/") primary)*
    primary    := number | expression | "(" sum ")"
    comparison := sum comparator sum

The grammar speaks of the symbols of the tokens, not of their places. Both tiers group to the left,
which the rules say by having the repeated part as their last.
-/

namespace Milp.Grammar

variable {β : Type}

/-- The word joins summands. -/
def JoinsSummands (op : Word β) : Prop := op.sign = .ok "+" ∨ op.sign = .ok "-"

/-- The word joins factors. -/
def JoinsFactors (op : Word β) : Prop := op.sign = .ok "*" ∨ op.sign = .ok "/"

mutual

/-- The symbols are a sum with this tree. -/
inductive IsSum : List (Symbol β) → Tree β → Prop
  | product {ss t} : IsProduct ss t → IsSum ss t
  | more {ss us op t u} : IsSum ss t → JoinsSummands op → IsProduct us u →
      IsSum (ss ++ .operator op :: us) (.binary op t u)

/-- The symbols are a product with this tree. -/
inductive IsProduct : List (Symbol β) → Tree β → Prop
  | primary {ss t} : IsPrimary ss t → IsProduct ss t
  | more {ss us op t u} : IsProduct ss t → JoinsFactors op → IsPrimary us u →
      IsProduct (ss ++ .operator op :: us) (.binary op t u)

/-- The symbols are a number, an expression or a sum in parentheses. -/
inductive IsPrimary : List (Symbol β) → Tree β → Prop
  | number (v) : IsPrimary [.number v] (.literal v)
  | expression (v) : IsPrimary [.expression v] (.leaf v)
  | group (w w') {ss t} : IsSum ss t → IsPrimary (.opening w :: (ss ++ [.closing w'])) t

end

/-- The symbols are two sums with a comparator between them. -/
inductive IsComparison : List (Symbol β) → Comparison β → Prop
  | mk {ss us c t u} : IsSum ss t → IsSum us u →
      IsComparison (ss ++ .comparator c :: us) ⟨t, c, u⟩

end Grammar

/-! ### What a tree keeps of its symbols -/

variable {β : Type}

def Symbol.isParenthesis : Symbol β → Bool
  | .opening _ | .closing _ => true
  | _ => false

/-- The numbers, expressions and operators of a tree, from left to right. -/
def Tree.symbols : Tree β → List (Symbol β)
  | .literal v => [.number v]
  | .leaf v => [.expression v]
  | .binary op t u => t.symbols ++ .operator op :: u.symbols

/-- As for a tree, with the comparator between the two sides. -/
def Comparison.symbols (c : Comparison β) : List (Symbol β) :=
  c.left.symbols ++ .comparator c.comparator :: c.right.symbols

namespace Grammar

/-- The symbols without the parentheses. -/
def bare (ss : List (Symbol β)) : List (Symbol β) := ss.filter fun s => !s.isParenthesis

@[simp] theorem bare_append (ss us : List (Symbol β)) : bare (ss ++ us) = bare ss ++ bare us :=
  List.filter_append ..

theorem bare_cons (s : Symbol β) (ss : List (Symbol β)) :
    bare (s :: ss) = if s.isParenthesis then bare ss else s :: bare ss := by
  cases h : s.isParenthesis <;> simp [bare, h]

mutual

theorem IsSum.symbols_eq {ss : List (Symbol β)} {t : Tree β} : IsSum ss t → t.symbols = bare ss
  | .product h => h.symbols_eq
  | .more h _ h' => by
    simp [Tree.symbols, h.symbols_eq, h'.symbols_eq, bare_cons, Symbol.isParenthesis]

theorem IsProduct.symbols_eq {ss : List (Symbol β)} {t : Tree β} :
    IsProduct ss t → t.symbols = bare ss
  | .primary h => h.symbols_eq
  | .more h _ h' => by
    simp [Tree.symbols, h.symbols_eq, h'.symbols_eq, bare_cons, Symbol.isParenthesis]

theorem IsPrimary.symbols_eq {ss : List (Symbol β)} {t : Tree β} :
    IsPrimary ss t → t.symbols = bare ss
  | .number _ | .expression _ => rfl
  | .group _ _ h => by simp [h.symbols_eq, bare, Symbol.isParenthesis]

end

theorem IsComparison.symbols_eq {ss : List (Symbol β)} {c : Comparison β} (h : IsComparison ss c) :
    c.symbols = bare ss := by
  obtain ⟨h, h'⟩ := h
  simp [Comparison.symbols, h.symbols_eq, h'.symbols_eq, bare_cons, Symbol.isParenthesis]

end Grammar

end Milp
