import Milp.Proofs.Reading
import Milp.Proofs.Scanning
import Milp.Source

/-!
# What is said is what is read

The grammar of formulas speaks of the items of a template, the grammar of sources of the symbols
that they are read as. The two say the same:

* `Grammar.IsSum.says`: of a derivable tree there is a formula that the items say;
* `SaysSum.isSum`: of every formula that the items say the tree is derivable.

So the tree of a template is built from any formula that the template says.
-/

namespace Milp

open Grammar

/-! ### Operations and their words -/

namespace Formula.Operation

/-- The word of the operation. -/
def word {β : Type} (op : Formula.Operation) : Word β := .text (String.singleton op.char)

theorem joinsSummands_word {β : Type} {op : Formula.Operation} :
    JoinsSummands (op.word : Word β) ↔ op.isAdditive = true := by
  cases op <;> simp [JoinsSummands, word, char, isAdditive, Word.sign]

theorem joinsFactors_word {β : Type} {op : Formula.Operation} :
    JoinsFactors (op.word : Word β) ↔ op.isAdditive = false := by
  cases op <;> simp [JoinsFactors, word, char, isAdditive, Word.sign]

end Formula.Operation

theorem singleton_inj {c d : Char} (h : String.singleton c = String.singleton d) : c = d := by
  simpa using congrArg String.toList h

/-- The sign that a word of one character counts as. -/
theorem char_of_sign {β : Type} {c d : Char}
    (h : (Word.text (String.singleton c) : Word β).sign = .ok (String.singleton d)) : c = d :=
  singleton_inj (Except.ok.inj h)

theorem exists_of_joinsSummands {β : Type} {c : Char}
    (h : JoinsSummands (.text (String.singleton c) : Word β)) :
    ∃ op : Formula.Operation, op.char = c ∧ op.isAdditive = true := by
  obtain h | h := h
  · exact ⟨.plus, (char_of_sign h).symm, rfl⟩
  · exact ⟨.minus, (char_of_sign h).symm, rfl⟩

theorem exists_of_joinsFactors {β : Type} {c : Char}
    (h : JoinsFactors (.text (String.singleton c) : Word β)) :
    ∃ op : Formula.Operation, op.char = c ∧ op.isAdditive = false := by
  obtain h | h := h
  · exact ⟨.times, (char_of_sign h).symm, rfl⟩
  · exact ⟨.dividedBy, (char_of_sign h).symm, rfl⟩

/-! ### Symbols of operands -/

variable {ν α : Type} [Name ν] [Scalar α] {name : Var → ν}

/-- The items of operands are read as these symbols. -/
abbrev ReadOperands (name : Var → ν) :
    Bool → List (SourceItem (Operand ν α)) → List (Symbol (Operand ν α)) → Prop :=
  ReadAs (fun n => .number n.value) (Operand.symbol name)

/-- An operand is read as a number or as an expression. -/
theorem Operand.symbol_eq_ok {o : Operand ν α} {s : Symbol (Operand ν α)}
    (h : o.symbol name = .ok s) : (∃ x, o = .number x ∧ s = .number (.number x)) ∨
      ∃ e, o.isNumber = false ∧ o.lift name = .ok e ∧ s = .expression (.expression e) := by
  unfold symbol at h
  split at h
  · exact .inl ⟨_, rfl, (Except.ok.inj h).symm⟩
  · next _ ho =>
    obtain ⟨e, he, rfl⟩ := Except.map_eq_ok_iff.1 h
    refine .inr ⟨e, ?_, he, rfl⟩
    cases o with
    | number x => exact absurd rfl (ho x)
    | _ => rfl

/-- The symbol is a number or an expression. -/
def Symbol.isValue {β : Type} : Symbol β → Bool
  | .number _ | .expression _ => true
  | _ => false

theorem Operand.isValue_symbol {o : Operand ν α} {s : Symbol (Operand ν α)}
    (h : o.symbol name = .ok s) : s.isValue = true := by
  obtain ⟨x, -, rfl⟩ | ⟨e, -, -, rfl⟩ := symbol_eq_ok h <;> rfl

/-- The formula is built up to the tree, its operands being lifted unless they are numbers. -/
inductive Formula.Builds (name : Var → ν) : Formula (Operand ν α) → Tree (Operand ν α) → Prop
  | numeral (n) : Builds name (.numeral n) (.literal (.number n.value))
  | number (x) : Builds name (.operand (.number x)) (.literal (.number x))
  | lifted {o e} : o.isNumber = false → o.lift name = .ok e →
      Builds name (.operand o) (.leaf (.expression e))
  | binary {op f g t u} : Builds name f t → Builds name g u →
      Builds name (.binary op f g) (.binary op.word t u)

/-! ### The first symbol and its item -/

theorem SourceItem.exists_of_isSigned {ω : Type} {i : SourceItem ω} (h : i.isSigned) :
    ∃ n : Numeral, i = .lexeme (.numeral n) ∧ n.sign.isSome := by
  unfold isSigned at h
  split at h
  · exact ⟨_, rfl, h⟩
  · simp at h

/-- An item that shows a number or an expression is a formula alone. -/
theorem SourceItem.Shows.says {i : SourceItem (Operand ν α)} {s : Symbol (Operand ν α)}
    {t : Tree (Operand ν α)} (h : i.Shows (fun n => .number n.value) (Operand.symbol name) s)
    (hs : IsPrimary [s] t) : ∃ f, SaysPrimary [i] f ∧ f.Builds name t := by
  generalize hss : [s] = ss at hs
  cases hs with
  | number v =>
    obtain rfl := (List.cons.inj hss).1
    cases h with
    | numeral n => exact ⟨_, .numeral n, .numeral n⟩
    | operand h =>
      obtain ⟨x, rfl, hx⟩ | ⟨e, -, -, hx⟩ := Operand.symbol_eq_ok h
      · obtain rfl := Symbol.number.inj hx
        exact ⟨_, .operand _, .number x⟩
      · simp at hx
  | expression v =>
    obtain rfl := (List.cons.inj hss).1
    cases h with
    | operand h =>
      obtain ⟨x, -, hx⟩ | ⟨e, ho, he, hx⟩ := Operand.symbol_eq_ok h
      · simp at hx
      · obtain rfl := Symbol.expression.inj hx
        exact ⟨_, .operand _, .lifted ho he⟩
  | group w w' h => simp at hss

namespace ReadAs

variable {complete : Bool} {is : List (SourceItem (Operand ν α))}
  {ss : List (Symbol (Operand ν α))}

theorem eq_nil (h : ReadOperands name complete is []) : is = [] := by
  cases h
  rfl

/-- An operator has an item of its own, or it adds the signed numeral that follows. -/
theorem operator_cons {op : Word (Operand ν α)}
    (h : ReadOperands name complete is (.operator op :: ss)) :
    (∃ c js, is = .lexeme (.operator c) :: js ∧ op = .text (String.singleton c) ∧
      ReadOperands name false js ss) ∨
    (∃ n js, is = .lexeme (.numeral n) :: js ∧ n.sign.isSome ∧ op = .text "+" ∧
      ReadOperands name false is ss) := by
  cases h with
  | item hc hi h =>
    cases hi with
    | operator c => exact .inl ⟨c, _, rfl, rfl, h⟩
    | operand ho => cases Operand.isValue_symbol ho
  | added hc hi h =>
    obtain ⟨n, rfl, hn⟩ := SourceItem.exists_of_isSigned hc
    exact .inr ⟨n, _, rfl, hn, rfl, .item rfl hi h⟩

theorem opening_cons {w : Word (Operand ν α)}
    (h : ReadOperands name complete is (.opening w :: ss)) :
    ∃ js, is = .lexeme .opening :: js ∧ ReadOperands name false js ss := by
  cases h with
  | item hc hi h =>
    cases hi with
    | opening => exact ⟨_, rfl, h⟩
    | operand ho => cases Operand.isValue_symbol ho

theorem closing_cons {w : Word (Operand ν α)}
    (h : ReadOperands name complete is (.closing w :: ss)) :
    ∃ js, is = .lexeme .closing :: js ∧ ReadOperands name true js ss := by
  cases h with
  | item hc hi h =>
    cases hi with
    | closing => exact ⟨_, rfl, h⟩
    | operand ho => cases Operand.isValue_symbol ho

theorem comparator_cons {w : Word (Operand ν α)}
    (h : ReadOperands name complete is (.comparator w :: ss)) :
    ∃ s js, is = .lexeme (.comparator s) :: js ∧ w = .text s.text ∧
      ReadOperands name false js ss := by
  cases h with
  | item hc hi h =>
    cases hi with
    | comparator s => exact ⟨s, _, rfl, rfl, h⟩
    | operand ho => cases Operand.isValue_symbol ho

end ReadAs

/-! ### What is derivable is said -/

namespace Grammar

mutual

/-- The items of a sum say a formula for its tree. -/
theorem IsSum.says {ss : List (Symbol (Operand ν α))} {t : Tree (Operand ν α)} (h : IsSum ss t)
    {is : List (SourceItem (Operand ν α))} (hr : ReadOperands name false is ss) :
    ∃ f, SaysSum is f ∧ f.Builds name t := by
  match h with
  | .product h =>
    obtain ⟨f, hf, hb⟩ := h.says hr
    exact ⟨f, .product hf, hb⟩
  | .more h hop h' =>
    obtain ⟨js, ks, after, rfl, hj, hk⟩ := hr.split (by simp)
    obtain ⟨f, hf, hb⟩ := h.says hj
    obtain ⟨c, ks, rfl, rfl, hk'⟩ | ⟨n, ks, rfl, hn, rfl, hk'⟩ := hk.operator_cons
    · obtain ⟨op, rfl, ha⟩ := exists_of_joinsSummands hop
      obtain ⟨g, hg, hb'⟩ := h'.says hk'
      exact ⟨_, .more hf ha hg, .binary hb hb'⟩
    · obtain ⟨g, hg, hb'⟩ := h'.says hk'
      exact ⟨_, .beside hf hn hg, .binary hb hb'⟩

theorem IsProduct.says {ss : List (Symbol (Operand ν α))} {t : Tree (Operand ν α)}
    (h : IsProduct ss t) {is : List (SourceItem (Operand ν α))}
    (hr : ReadOperands name false is ss) : ∃ f, SaysProduct is f ∧ f.Builds name t := by
  match h with
  | .primary h =>
    obtain ⟨f, hf, hb⟩ := h.says hr
    exact ⟨f, .primary hf, hb⟩
  | .more h hop h' =>
    obtain ⟨js, ks, after, rfl, hj, hk⟩ := hr.split (by simp)
    obtain ⟨f, hf, hb⟩ := h.says hj
    obtain ⟨c, ks, rfl, rfl, hk'⟩ | ⟨n, ks, rfl, hn, rfl, hk'⟩ := hk.operator_cons
    · obtain ⟨op, rfl, ha⟩ := exists_of_joinsFactors hop
      obtain ⟨g, hg, hb'⟩ := h'.says hk'
      exact ⟨_, .more hf ha hg, .binary hb hb'⟩
    · simp [JoinsFactors, Word.sign] at hop

theorem IsPrimary.says {ss : List (Symbol (Operand ν α))} {t : Tree (Operand ν α)}
    (h : IsPrimary ss t) {is : List (SourceItem (Operand ν α))}
    (hr : ReadOperands name false is ss) : ∃ f, SaysPrimary is f ∧ f.Builds name t := by
  match h with
  | .number v =>
    cases hr with
    | item _ hi hr =>
      obtain rfl := hr.eq_nil
      exact hi.says (.number v)
  | .expression v =>
    cases hr with
    | item _ hi hr =>
      obtain rfl := hr.eq_nil
      exact hi.says (.expression v)
  | .group w w' h =>
    obtain ⟨js, rfl, hr'⟩ := hr.opening_cons
    obtain ⟨js, ks, after, rfl, hj, hk⟩ := hr'.split (by simp)
    obtain ⟨ks, rfl, hk'⟩ := hk.closing_cons
    obtain rfl := hk'.eq_nil
    obtain ⟨f, hf, hb⟩ := h.says hj
    exact ⟨f, .group hf, hb⟩

end

end Grammar

/-! ### What is said is derivable -/

section Complete

variable {ω : Type}

theorem completeAfter_append (complete : Bool) (is js : List (SourceItem ω)) :
    completeAfter complete (is ++ js) = completeAfter (completeAfter complete is) js :=
  List.foldl_append ..

mutual

/-- What is said ends in a complete operand. -/
theorem SaysSum.completeAfter {is : List (SourceItem ω)} {f : Formula ω} (h : SaysSum is f)
    (complete : Bool) : Milp.completeAfter complete is = true := by
  match h with
  | .product h => exact h.completeAfter complete
  | .more h _ h' =>
    rw [completeAfter_append]
    exact h'.completeAfter _
  | .beside h _ h' =>
    rw [completeAfter_append]
    exact h'.completeAfter _

theorem SaysProduct.completeAfter {is : List (SourceItem ω)} {f : Formula ω}
    (h : SaysProduct is f) (complete : Bool) : Milp.completeAfter complete is = true := by
  match h with
  | .primary h => exact h.completeAfter complete
  | .more h _ h' =>
    rw [completeAfter_append]
    exact h'.completeAfter _

theorem SaysPrimary.completeAfter {is : List (SourceItem ω)} {f : Formula ω}
    (h : SaysPrimary is f) (complete : Bool) : Milp.completeAfter complete is = true := by
  match h with
  | .numeral _ | .operand _ => rfl
  | .group h =>
    rw [← List.cons_append, completeAfter_append]
    rfl

end

end Complete

theorem ReadAs.of_operator {complete : Bool} {c : Char} {is : List (SourceItem (Operand ν α))}
    {ss : List (Symbol (Operand ν α))}
    (h : ReadOperands name complete (.lexeme (.operator c) :: is) ss) :
    ∃ us, ss = .operator (.text (String.singleton c)) :: us ∧ ReadOperands name false is us := by
  cases h with
  | item _ hi h =>
    cases hi
    exact ⟨_, rfl, h⟩
  | added hc => simp [SourceItem.isSigned] at hc

mutual

/-- The tree of a formula that the items say is derivable from their symbols. -/
theorem SaysSum.isSum {is : List (SourceItem (Operand ν α))} {f : Formula (Operand ν α)}
    (h : SaysSum is f) {ss : List (Symbol (Operand ν α))} (hr : ReadOperands name false is ss) :
    ∃ t, IsSum ss t ∧ f.Builds name t := by
  match h with
  | .product h =>
    obtain ⟨t, ht, hb⟩ := h.isProduct hr
    exact ⟨t, .product ht, hb⟩
  | .more h ha h' =>
    obtain ⟨us, vs, rfl, hu, hv⟩ := hr.of_append
    obtain ⟨vs, rfl, hv'⟩ := hv.of_operator
    obtain ⟨t, ht, hb⟩ := h.isSum hu
    obtain ⟨u, hu, hb'⟩ := h'.isProduct hv'
    exact ⟨_, .more ht (Formula.Operation.joinsSummands_word.2 ha) hu, .binary hb hb'⟩
  | .beside h hn h' =>
    obtain ⟨us, vs, rfl, hu, hv⟩ := hr.of_append
    rw [h.completeAfter] at hv
    obtain ⟨t, ht, hb⟩ := h.isSum hu
    cases hv with
    | item hc => simp [SourceItem.isSigned, hn] at hc
    | added _ hi hv =>
      obtain ⟨u, hu, hb'⟩ := h'.isProduct (.item rfl hi hv)
      exact ⟨_, .more ht (.inl rfl) hu, .binary hb hb'⟩

theorem SaysProduct.isProduct {is : List (SourceItem (Operand ν α))} {f : Formula (Operand ν α)}
    (h : SaysProduct is f) {ss : List (Symbol (Operand ν α))}
    (hr : ReadOperands name false is ss) : ∃ t, IsProduct ss t ∧ f.Builds name t := by
  match h with
  | .primary h =>
    obtain ⟨t, ht, hb⟩ := h.isPrimary hr
    exact ⟨t, .primary ht, hb⟩
  | .more h ha h' =>
    obtain ⟨us, vs, rfl, hu, hv⟩ := hr.of_append
    obtain ⟨vs, rfl, hv'⟩ := hv.of_operator
    obtain ⟨t, ht, hb⟩ := h.isProduct hu
    obtain ⟨u, hu, hb'⟩ := h'.isPrimary hv'
    exact ⟨_, .more ht (Formula.Operation.joinsFactors_word.2 ha) hu, .binary hb hb'⟩

theorem SaysPrimary.isPrimary {is : List (SourceItem (Operand ν α))} {f : Formula (Operand ν α)}
    (h : SaysPrimary is f) {ss : List (Symbol (Operand ν α))}
    (hr : ReadOperands name false is ss) : ∃ t, IsPrimary ss t ∧ f.Builds name t := by
  match h with
  | .numeral n =>
    cases hr with
    | item _ hi hr =>
      cases hr
      cases hi
      exact ⟨_, .number _, .numeral n⟩
  | .operand o =>
    cases hr with
    | item _ hi hr =>
      cases hr
      cases hi with
      | operand ho =>
        obtain ⟨x, rfl, rfl⟩ | ⟨e, hn, he, rfl⟩ := Operand.symbol_eq_ok ho
        · exact ⟨_, .number _, .number x⟩
        · exact ⟨_, .expression _, .lifted hn he⟩
  | .group h =>
    cases hr with
    | item _ hi hr =>
      cases hi
      obtain ⟨us, vs, rfl, hu, hv⟩ := hr.of_append
      rw [h.completeAfter] at hv
      obtain ⟨t, ht, hb⟩ := h.isSum hu
      cases hv with
      | item _ hi hv =>
        cases hi
        cases hv
        exact ⟨t, .group _ _ ht, hb⟩
      | added hc => simp [SourceItem.isSigned] at hc

end

/-! ### Templates -/

theorem Template.tokens_read {mode : Mode} {t : Template (Operand ν α)}
    (h : (t.tokens name mode).outcome = .ok ()) : (∃ is, t.Spells mode is) ∧
      ∀ is, t.Spells mode is →
        ReadOperands name false is ((t.tokens name mode).items.map Token.symbol) :=
  scan_reads h

/-- **The tree of a template** is built from every formula that the template says, and it says
one. -/
theorem Template.builds {t : Template (Operand ν α)} {tree : Tree (Operand ν α)}
    (h : Tree.ofFeed (t.tokens name .expression) = .ok tree) :
    (∃ f, t.Says f) ∧ ∀ f, t.Says f → f.Builds name tree := by
  obtain ⟨ho, ht⟩ := ofFeed_eq_ok_iff_isSum.1 h
  obtain ⟨⟨is, his⟩, hr⟩ := Template.tokens_read ho
  constructor
  · obtain ⟨f, hf, -⟩ := ht.says (hr is his)
    exact ⟨f, is, his, hf⟩
  · rintro f ⟨js, hjs, hf⟩
    obtain ⟨tree', ht', hb⟩ := hf.isSum (hr js hjs)
    rwa [ht.unique ht']

/-- **The comparison of a template** is built from everything that the template asserts, and it
asserts something. -/
theorem Template.compares {t : Template (Operand ν α)} {c : Comparison (Operand ν α)}
    (h : Comparison.ofFeed (t.tokens name .constraint) = .ok c) :
    (∃ a, t.Asserts a) ∧ ∀ a, t.Asserts a → a.left.Builds name c.left ∧
      a.right.Builds name c.right ∧ c.comparator = .text a.sense.text := by
  obtain ⟨ho, hc⟩ := ofFeed_eq_ok_iff_isComparison.1 h
  obtain ⟨⟨is, his⟩, hr⟩ := Template.tokens_read ho
  generalize (t.tokens name .constraint).items.map Token.symbol = ss at hc hr
  constructor
  · obtain ⟨hl, hu⟩ := hc
    obtain ⟨js, ks, after, rfl, hj, hk⟩ := (hr is his).split (by simp)
    obtain ⟨s, ks, rfl, -, hk'⟩ := hk.comparator_cons
    obtain ⟨f, hf, -⟩ := hl.says hj
    obtain ⟨g, hg, -⟩ := hu.says hk'
    exact ⟨⟨f, s, g⟩, js, ks, his, hf, hg⟩
  · rintro a ⟨js, ks, hjs, hf, hg⟩
    obtain ⟨us, vs, rfl, hu, hv⟩ := (hr _ hjs).of_append
    obtain ⟨l, hl, hb⟩ := hf.isSum hu
    rw [hf.completeAfter] at hv
    cases hv with
    | item _ hi hv =>
      cases hi
      obtain ⟨r, hr, hb'⟩ := hg.isSum hv
      rw [hc.unique (.mk hl hr)]
      exact ⟨hb, hb', rfl⟩
    | added hn => simp [SourceItem.isSigned] at hn

end Milp
