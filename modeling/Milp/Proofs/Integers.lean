import Milp.Proofs.Operators

/-!
# Integer constants

Integers of any size are added, subtracted and multiplied exactly, by the combinators as in a
source. With 64-bit words among them the constant is a word that wraps around; and an integer beyond
64 bits that meets a word is refused. What comes out of a calculation can be told from a tally of its
operands: `integer_constants`.
-/

namespace Milp

open Grammar

/-! ### Failing in one case -/

section Failing

variable {ε ε' β γ : Type}

/-- **The computation fails in one case** and with one error, and otherwise it has a result of some
kind. -/
inductive Except.OkUnless (p : Prop) (err : ε) (P : β → Prop) : Except ε β → Prop
  | ok {b : β} : ¬ p → P b → OkUnless p err P (.ok b)
  | error : p → OkUnless p err P (.error err)

namespace Except.OkUnless

variable {p q : Prop} {err : ε} {P : β → Prop} {Q : γ → Prop} {x : Except ε β}

/-- The case can be widened by what is not the case. -/
theorem or_of_not (h : OkUnless q err P x) (hp : ¬ p) : OkUnless (p ∨ q) err P x := by
  cases h with
  | error hq => exact .error (.inr hq)
  | ok hq hb => exact .ok (not_or.2 ⟨hp, hq⟩) hb

theorem bind {f : β → Except ε γ} (h : OkUnless p err P x)
    (hf : ∀ b, P b → OkUnless q err Q (f b)) : OkUnless (p ∨ q) err Q (x >>= f) := by
  cases h with
  | error hp => exact .error (.inl hp)
  | @ok b hp hb => exact (hf b hb).or_of_not hp

theorem bind_ok {f : β → Except ε γ} (h : OkUnless p err P x)
    (hf : ∀ b, P b → ∃ c, f b = .ok c ∧ Q c) : OkUnless p err Q (x >>= f) := by
  cases h with
  | error hp => exact .error hp
  | ok hp hb =>
    obtain ⟨c, hc, hQ⟩ := hf _ hb
    rw [Except.ok_bind, hc]
    exact .ok hp hQ

theorem map {f : β → γ} (h : OkUnless p err P x) (hf : ∀ b, P b → Q (f b)) :
    OkUnless p err Q (x.map f) := by
  cases h with
  | error hp => exact .error hp
  | ok hp hb => exact .ok hp (hf _ hb)

theorem mapError (m : ε → ε') (h : OkUnless p err P x) : OkUnless p (m err) P (x.mapError m) := by
  cases h with
  | error hp => exact .error hp
  | ok hp hb => exact .ok hp hb

theorem congr (h : OkUnless p err P x) (hpq : p ↔ q) : OkUnless q err P x := propext hpq ▸ h

theorem error_iff (h : OkUnless p err P x) {err' : ε} : x = .error err' ↔ p ∧ err' = err := by
  cases h with
  | error hp => simp [hp, eq_comm]
  | ok hp _ => simp [hp]

theorem of_ok (h : OkUnless p err P x) {b : β} (hb : x = .ok b) : P b := by
  cases h with
  | error _ => cases hb
  | ok _ hP =>
    obtain rfl := Except.ok.inj hb
    exact hP

theorem exists_ok (h : OkUnless p err P x) (hp : ¬ p) : ∃ b, x = .ok b ∧ P b := by
  cases h with
  | error h => exact absurd h hp
  | ok _ hP => exact ⟨_, rfl, hP⟩

end Except.OkUnless

end Failing

/-! ### Tallies -/

/-- The integer is in the range of words. -/
def Number.InWord (n : Int) : Prop := -twoPow 63 ≤ n ∧ n < twoPow 63

instance (n : Int) : Decidable (Number.InWord n) := inferInstanceAs (Decidable (_ ∧ _))

/-- What integers come to: the exact integer, and whether a word takes part in it. -/
structure Tally where
  exact : Int
  word : Bool

namespace Tally

/-- An integer without words. -/
def ofInt (n : Int) : Tally := ⟨n, false⟩

/-- The tally of an operation on two sides. -/
def meet (op : Int → Int → Int) (s t : Tally) : Tally := ⟨op s.exact t.exact, s.word || t.word⟩

def neg (s : Tally) : Tally := ⟨-s.exact, s.word⟩

/-- No word takes part, and none can take the integer in. -/
def Oversized (s : Tally) : Prop := s.word = false ∧ ¬ Number.InWord s.exact

/-- A word meets an integer that it cannot take in. -/
def Clash (s t : Tally) : Prop := s.word = true ∧ t.Oversized ∨ t.word = true ∧ s.Oversized

instance (s : Tally) : Decidable s.Oversized := inferInstanceAs (Decidable (_ ∧ _))

instance (s t : Tally) : Decidable (s.Clash t) := inferInstanceAs (Decidable (_ ∨ _))

variable {s t : Tally}

theorem Clash.word (h : s.Clash t) : s.word = true ∨ t.word = true := h.imp And.left And.left

/-- Beside a word there is a clash as soon as a side is oversized. -/
theorem clash_iff (h : (s.word || t.word) = true) : s.Clash t ↔ s.Oversized ∨ t.Oversized := by
  rw [Clash, or_comm]
  constructor
  · exact Or.imp And.right And.right
  · rintro (hs | ht)
    · exact .inl ⟨by simpa [hs.1] using h, hs⟩
    · exact .inr ⟨by simpa [ht.1] using h, ht⟩

theorem clash_comm : s.Clash t ↔ t.Clash s := or_comm

theorem meet_comm {op : Int → Int → Int} (hop : ∀ m n, op m n = op n m) (s t : Tally) :
    s.meet op t = t.meet op s := by rw [meet, meet, hop, Bool.or_comm]

theorem not_clash_ofInt {n : Int} (hn : Number.InWord n) : ¬ (ofInt n).Clash t := by
  rintro (⟨h, -⟩ | ⟨-, -, h⟩)
  · cases h
  · exact h hn

theorem meet_one (t : Tally) : (ofInt 1).meet (· * ·) t = t := by simp [meet, ofInt]

theorem meet_neg_one (t : Tally) : (ofInt (-1)).meet (· * ·) t = t.neg := by
  simp [meet, ofInt, neg]

theorem meet_zero (t : Tally) : (ofInt 0).meet (· + ·) t = t := by simp [meet, ofInt]

theorem meet_neg (s t : Tally) : s.meet (· + ·) t.neg = s.meet (· - ·) t := by
  simp [meet, neg, Int.sub_eq_add_neg]

end Tally

/-! ### Numbers -/

namespace Number

theorem inWord_small {n : Int} (h : n = 0 ∨ n = 1 ∨ n = -1) : InWord n := by
  obtain rfl | rfl | rfl := h <;> exact ⟨by decide, by decide⟩

/-- What can be told of the number from the tally: it is the exact integer, or a word that is
congruent to it. -/
inductive Counts : Number → Tally → Prop
  | exact {a : Number} {n : Int} : a.isWord = false → a.integer? = some n → Counts a ⟨n, false⟩
  | word (n : Int) : Counts (.word (Int64.ofInt n)) ⟨n, true⟩

/-- The tally of a number. -/
def tally (a : Number) : Tally := ⟨a.integer?.getD 0, a.isWord⟩

variable {a b : Number} {s t : Tally}

theorem counts_tally (h : a.integer?.isSome = true) : a.Counts a.tally := by
  cases a with
  | whole n | truth n => exact .exact rfl rfl
  | word w =>
    have hword := Counts.word w.toInt
    rwa [Int64.ofInt_toInt] at hword
  | double x | cell x => cases h

theorem Counts.isWord (h : a.Counts s) : a.isWord = s.word := by
  cases h with
  | exact hw _ => exact hw
  | word n => rfl

theorem Counts.integer?_of_word (h : a.Counts s) (hs : s.word = false) :
    a.integer? = some s.exact := by
  cases h with
  | exact _ hn => exact hn
  | word n => cases hs

theorem Counts.eq_word (h : a.Counts s) (hs : s.word = true) :
    a = .word (Int64.ofInt s.exact) := by
  cases h with
  | exact _ _ => cases hs
  | word n => rfl

/-- A word in range is exact, and without words the integer is so anyway. -/
theorem Counts.integer?_of_inWord (h : a.Counts s) (hs : InWord s.exact) :
    a.integer? = some s.exact := by
  cases h with
  | exact _ hn => exact hn
  | word n => exact congrArg some (Int64.toInt_ofInt_of_le hs.1 hs.2)

theorem wordOfInt_okUnless (n : Int) :
    Except.OkUnless (¬ InWord n) .tooLargeForWord (· = Int64.ofInt n) (wordOfInt n) := by
  unfold wordOfInt
  split
  · next h => exact .ok (not_not.2 h) rfl
  · next h => exact .error h

theorem inWord_toInt (w : Int64) : InWord w.toInt := ⟨w.le_toInt, w.toInt_lt⟩

/-- A number that is taken into a word. -/
theorem Counts.wordOfInt (h : a.Counts s) : ∃ n, a.integer? = some n ∧
    Except.OkUnless s.Oversized .tooLargeForWord (· = Int64.ofInt s.exact) (wordOfInt n) := by
  cases h with
  | exact _ hn => exact ⟨_, hn, (wordOfInt_okUnless _).congr (by simp [Tally.Oversized])⟩
  | word n =>
    refine ⟨(Int64.ofInt n).toInt, rfl, ?_⟩
    have hword := wordOfInt_okUnless (Int64.ofInt n).toInt
    rw [Int64.ofInt_toInt] at hword
    refine hword.congr ⟨fun h => absurd (inWord_toInt _) h, fun h => ?_⟩
    cases h.1

/-- The operation on words wraps the exact one around. -/
def Operation.Wraps (op : Operation) : Prop :=
  ∀ m n, Int64.ofInt (op.exact m n) = op.wrapping (Int64.ofInt m) (Int64.ofInt n)

/-- **One operation on integers** fails in case of a clash, and has otherwise what the tallies
say. -/
theorem combine_okUnless (op : Operation) (hop : op.Wraps) (ha : a.Counts s) (hb : b.Counts t) :
    Except.OkUnless (s.Clash t) .tooLargeForWord (fun c => c.Counts (s.meet op.exact t))
      (combine op a b) := by
  obtain ⟨m, hm, hms⟩ := ha.wordOfInt
  obtain ⟨n, hn, hnt⟩ := hb.wordOfInt
  simp only [combine, hm, hn, ha.isWord, hb.isWord]
  cases hword : s.word || t.word with
  | true =>
    have hmeet : s.meet op.exact t = ⟨op.exact s.exact t.exact, true⟩ := by
      rw [Tally.meet, hword]
    refine (hms.bind fun x hx => hnt.bind_ok fun y hy => ⟨_, rfl, ?_⟩).congr
      (Tally.clash_iff hword).symm
    rw [hx, hy, ← hop, hmeet]
    exact .word _
  | false =>
    have hmeet : s.meet op.exact t = ⟨op.exact s.exact t.exact, false⟩ := by
      rw [Tally.meet, hword]
    obtain ⟨hs, ht⟩ := Bool.or_eq_false_iff.1 hword
    have hclash : ¬ s.Clash t := fun h => by simpa [hs, ht] using h.word
    obtain rfl := Option.some.inj (hm.symm.trans (ha.integer?_of_word hs))
    obtain rfl := Option.some.inj (hn.symm.trans (hb.integer?_of_word ht))
    rw [hmeet]
    exact .ok hclash (.exact rfl rfl)

end Number

/-- The operation on exact integers; quotients are no integers, and none are asked for. -/
def Formula.Operation.exact : Formula.Operation → Int → Int → Int
  | plus => (· + ·)
  | minus => (· - ·)
  | times => (· * ·)
  | dividedBy => (· / ·)

theorem Formula.Operation.calculate_okUnless (op : Formula.Operation) (hop : op ≠ dividedBy)
    {a b : Number} {s t : Tally} (ha : a.Counts s) (hb : b.Counts t) :
    Except.OkUnless (s.Clash t) .tooLargeForWord (fun c => c.Counts (s.meet op.exact t))
      (op.calculate a b) := by
  cases op with
  | plus => exact Number.combine_okUnless ⟨_, _, _⟩ Int64.ofInt_add ha hb
  | minus => exact Number.combine_okUnless ⟨_, _, _⟩ Int64.ofInt_sub ha hb
  | times => exact Number.combine_okUnless ⟨_, _, _⟩ Int64.ofInt_mul ha hb
  | dividedBy => exact absurd rfl hop

/-! ### Expressions and operands -/

variable {ν : Type} [Name ν] {name : Var → ν}

/-- The expression has no terms, and a constant of which the tally tells. -/
structure Affine.Counts (e : Affine ν Number) (s : Tally) : Prop where
  isConstant : e.isConstant = true
  constant : e.constant.Counts s

theorem Affine.addScaled_okUnless {e f : Affine ν Number} {k : Number} {s t u : Tally}
    (he : e.Counts s) (hk : k.Counts u) (hf : f.Counts t) :
    Except.OkUnless (u.Clash t ∨ s.Clash (u.meet (· * ·) t)) .tooLargeForWord
      (fun g => g.Counts (s.meet (· + ·) (u.meet (· * ·) t))) (e.addScaled k f) := by
  have hterms : f.linear.terms = [] := List.isEmpty_iff.1 hf.isConstant
  have hproduct := Formula.Operation.calculate_okUnless .times (by decide) hk hf.constant
  rw [addScaled, hterms]
  refine hproduct.bind fun p hp => ?_
  have hsum := Formula.Operation.calculate_okUnless .plus (by decide) he.constant hp
  exact hsum.bind_ok fun c hc => ⟨_, rfl, he.isConstant, hc⟩

namespace Operand

/-- The operand is a number or an expression of which the tally tells. -/
def Counts : Operand ν Number → Tally → Prop
  | number n, s => n.Counts s
  | expression e, s => e.Counts s
  | var _, _ | other _, _ => False

/-- The tally of a number or of the constant of an expression. -/
def tally : Operand ν Number → Tally
  | number n => n.tally
  | expression e => e.constant.tally
  | var _ | other _ => .ofInt 0

/-- The operand is an integer, or an expression without terms the constant of which is one. -/
def Integral : Operand ν Number → Prop
  | number n => n.integer?.isSome = true
  | expression e => e.isConstant = true ∧ e.constant.integer?.isSome = true
  | var _ | other _ => False

variable {a b : Operand ν Number} {k : Number} {s t u : Tally}

theorem Integral.counts (h : a.Integral) : a.Counts a.tally := by
  cases a with
  | number n => exact Number.counts_tally h
  | expression e => exact ⟨h.1, Number.counts_tally h.2⟩
  | var _ | other _ => exact h.elim

theorem Counts.lift (h : a.Counts s) (name : Var → ν) :
    ∃ e, a.lift name = .ok e ∧ e.Counts s := by
  cases a with
  | number n => exact ⟨.ofNumber n, rfl, rfl, h⟩
  | expression e => exact ⟨e, rfl, h⟩
  | var _ | other _ => exact h.elim

/-! ### Combinators -/

theorem addScaled_okUnless (name : Var → ν) (ha : a.Counts s) (hk : k.Counts u) (hb : b.Counts t) :
    Except.OkUnless (u.Clash t ∨ s.Clash (u.meet (· * ·) t)) (.scalar .tooLargeForWord)
      (fun e => e.Counts (s.meet (· + ·) (u.meet (· * ·) t)))
      (addScaled name a (number k) b) := by
  obtain ⟨e, he, hes⟩ := ha.lift name
  obtain ⟨f, hf, hft⟩ := hb.lift name
  simp only [addScaled, he, hf, Except.ok_bind]
  exact (Affine.addScaled_okUnless hes hk hft).mapError _

theorem counts_ofInt (n : Int) : (Number.whole n).Counts (.ofInt n) := .exact rfl rfl

theorem add_okUnless (name : Var → ν) (ha : a.Counts s) (hb : b.Counts t) :
    Except.OkUnless (s.Clash t) (.scalar .tooLargeForWord) (fun e => e.Counts (s.meet (· + ·) t))
      (add name a b) := by
  have hadd := addScaled_okUnless name ha (counts_ofInt 1) hb
  rw [Tally.meet_one] at hadd
  exact hadd.congr (or_iff_right (Tally.not_clash_ofInt (Number.inWord_small (.inr (.inl rfl)))))

theorem sub_okUnless (name : Var → ν) (ha : a.Counts s) (hb : b.Counts t) :
    Except.OkUnless (s.Clash t.neg) (.scalar .tooLargeForWord)
      (fun e => e.Counts (s.meet (· - ·) t)) (sub name a b) := by
  have hsub := addScaled_okUnless name ha (counts_ofInt (-1)) hb
  rw [Tally.meet_neg_one, Tally.meet_neg] at hsub
  exact hsub.congr (or_iff_right (Tally.not_clash_ofInt (Number.inWord_small (.inr (.inr rfl)))))

/-- The multiple is added to zero, and with zero there is no clash. -/
theorem scale_okUnless (name : Var → ν) (hk : k.Counts u) (ha : a.Counts s) :
    Except.OkUnless (u.Clash s) (.scalar .tooLargeForWord) (fun e => e.Counts (u.meet (· * ·) s))
      (scale name (number k) a) := by
  have hscale := addScaled_okUnless name (a := ofInt 0) (counts_ofInt 0) hk ha
  rw [Tally.meet_zero] at hscale
  exact hscale.congr (or_iff_left (Tally.not_clash_ofInt (Number.inWord_small (.inl rfl))))

theorem neg_okUnless (name : Var → ν) (ha : a.Counts s) :
    Except.OkUnless False (.scalar .tooLargeForWord) (fun e => e.Counts s.neg) (neg name a) := by
  have hneg := scale_okUnless name (counts_ofInt (-1)) ha
  rw [Tally.meet_neg_one] at hneg
  exact hneg.congr
    (iff_false_intro (Tally.not_clash_ofInt (Number.inWord_small (.inr (.inr rfl)))))

end Operand

/-! ### Chains of combinators -/

/-- A chain of combinators, in any depth. -/
inductive Chain (ν : Type) [BEq ν] where
  | operand (o : Operand ν Number)
  | add (a b : Chain ν)
  | sub (a b : Chain ν)
  | neg (a : Chain ν)
  | scale (k : Number) (a : Chain ν)

namespace Chain

/-- The value of a chain. -/
def calculate (name : Var → ν) : Chain ν → Except AlgebraError (Operand ν Number)
  | operand o => .ok o
  | add a b => do
    let a ← a.calculate name
    let b ← b.calculate name
    (Operand.add name a b).map .expression
  | sub a b => do
    let a ← a.calculate name
    let b ← b.calculate name
    (Operand.sub name a b).map .expression
  | neg a => do
    let a ← a.calculate name
    (Operand.neg name a).map .expression
  | scale k a => do
    let a ← a.calculate name
    (Operand.scale name (.number k) a).map .expression

/-- The value of a chain as an expression. -/
def toAffine (name : Var → ν) (c : Chain ν) : Except AlgebraError (Affine ν Number) := do
  (← c.calculate name).lift name

/-- All numbers are integers, and all expressions are constant. -/
def Integral : Chain ν → Prop
  | operand o => o.Integral
  | add a b | sub a b => a.Integral ∧ b.Integral
  | neg a => a.Integral
  | scale k a => k.integer?.isSome = true ∧ a.Integral

/-- The exact integer that a chain prescribes, and whether there is a word in it. -/
def tally : Chain ν → Tally
  | operand o => o.tally
  | add a b => a.tally.meet (· + ·) b.tally
  | sub a b => a.tally.meet (· - ·) b.tally
  | neg a => a.tally.neg
  | scale k a => k.tally.meet (· * ·) a.tally

/-- Somewhere a word meets an integer that it cannot take in. What is subtracted is met as its
negative. -/
def Clashes : Chain ν → Prop
  | operand _ => False
  | add a b => a.Clashes ∨ b.Clashes ∨ a.tally.Clash b.tally
  | sub a b => a.Clashes ∨ b.Clashes ∨ a.tally.Clash b.tally.neg
  | neg a => a.Clashes ∨ False
  | scale k a => a.Clashes ∨ k.tally.Clash a.tally

instance decidableClashes : (c : Chain ν) → Decidable c.Clashes
  | operand _ => isFalse id
  | add a b | sub a b =>
    have := a.decidableClashes
    have := b.decidableClashes
    inferInstanceAs (Decidable (_ ∨ _ ∨ _))
  | neg a | scale _ a =>
    have := a.decidableClashes
    inferInstanceAs (Decidable (_ ∨ _))

variable {c : Chain ν}

theorem Clashes.word (h : c.Clashes) : c.tally.word = true := by
  induction c with
  | operand o => exact h.elim
  | add a b iha ihb | sub a b iha ihb =>
    simp only [tally, Tally.meet, Bool.or_eq_true]
    rcases h with h | h | h
    · exact .inl (iha h)
    · exact .inr (ihb h)
    · exact h.word
  | neg a ih => exact ih (h.resolve_right id)
  | scale k a ih =>
    simp only [tally, Tally.meet, Bool.or_eq_true]
    rcases h with h | h
    · exact .inr (ih h)
    · exact h.word

/-- **A chain of integers** fails in case of a clash, and has otherwise what its tally says. -/
theorem calculate_okUnless (hc : c.Integral) :
    Except.OkUnless c.Clashes (.scalar .tooLargeForWord) (fun a => a.Counts c.tally)
      (c.calculate name) := by
  induction c with
  | operand o => exact .ok id hc.counts
  | add a b iha ihb =>
    exact (iha hc.1).bind fun _ ha => (ihb hc.2).bind fun _ hb =>
      (Operand.add_okUnless name ha hb).map fun _ he => he
  | sub a b iha ihb =>
    exact (iha hc.1).bind fun _ ha => (ihb hc.2).bind fun _ hb =>
      (Operand.sub_okUnless name ha hb).map fun _ he => he
  | neg a ih => exact (ih hc).bind fun _ ha => (Operand.neg_okUnless name ha).map fun _ he => he
  | scale k a ih =>
    exact (ih hc.2).bind fun _ ha =>
      (Operand.scale_okUnless name (Number.counts_tally hc.1) ha).map fun _ he => he

theorem toAffine_okUnless (hc : c.Integral) :
    Except.OkUnless c.Clashes (.scalar .tooLargeForWord) (fun e => e.Counts c.tally)
      (c.toAffine name) := (calculate_okUnless hc).bind_ok fun _ ha => ha.lift name

end Chain

/-! ### Sources -/

/-- What the left side of an operation meets on the right. What is subtracted is met as its negative
unless both sides are numbers. -/
def Formula.Operation.met (op : Formula.Operation) (numbers : Bool) (t : Tally) : Tally :=
  if op = minus ∧ numbers = false then t.neg else t

theorem Formula.Operation.word_met (op : Formula.Operation) (numbers : Bool) (t : Tally) :
    (op.met numbers t).word = t.word := by
  unfold met
  split <;> rfl

namespace Operand

variable {a b : Operand ν Number} {s t : Tally} {p : Prop} {err : AlgebraError}

theorem okUnless_expression {x : Except AlgebraError (Affine ν Number)}
    (h : Except.OkUnless p err (fun e => e.Counts s) x) :
    Except.OkUnless p err (fun c => c.Counts s ∧ c.isNumber = false) (x.map expression) :=
  h.map fun _ he => ⟨he, rfl⟩

/-- **One operation of a source** on integers and expressions that are integers. -/
theorem apply_okUnless (name : Var → ν) {op : Formula.Operation} (hop : op ≠ .dividedBy)
    (hlinear : op = .times → (a.isNumber || b.isNumber) = true) (ha : a.Counts s)
    (hb : b.Counts t) :
    Except.OkUnless (s.Clash (op.met (a.isNumber && b.isNumber) t)) (.scalar .tooLargeForWord)
      (fun c => c.Counts (s.meet op.exact t) ∧ c.isNumber = (a.isNumber && b.isNumber))
      (apply name (String.singleton op.char) a b) := by
  have hsum := okUnless_expression (add_okUnless name ha hb)
  have hdifference := okUnless_expression (sub_okUnless name ha hb)
  cases a with
  | var _ | other _ => exact ha.elim
  | number m =>
    cases b with
    | var _ | other _ => exact hb.elim
    | number n =>
      have hmet : op.met true t = t := if_neg fun h => Bool.noConfusion h.2
      have hcalculate := op.calculate_okUnless hop ha hb
      rw [apply_numbers]
      change Except.OkUnless (s.Clash (op.met true t)) _ _ _
      rw [hmet]
      exact (hcalculate.map fun c hc => ⟨hc, rfl⟩).mapError _
    | expression f =>
      cases op with
      | plus => exact hsum
      | minus => exact hdifference
      | times => exact okUnless_expression (scale_okUnless name ha hb)
      | dividedBy => exact absurd rfl hop
  | expression e =>
    cases b with
    | var _ | other _ => exact hb.elim
    | number n =>
      cases op with
      | plus => exact hsum
      | minus => exact hdifference
      | times =>
        have hproduct := okUnless_expression (scale_okUnless name hb ha)
        rw [Tally.meet_comm Int.mul_comm] at hproduct
        exact hproduct.congr Tally.clash_comm
      | dividedBy => exact absurd rfl hop
    | expression f =>
      cases op with
      | plus => exact hsum
      | minus => exact hdifference
      | times => exact absurd (hlinear rfl) Bool.false_ne_true
      | dividedBy => exact absurd rfl hop

end Operand

namespace Arithmetic

/-- Made of numbers alone, the value is a number, and otherwise an expression. -/
def isNumeric : Arithmetic (Operand ν Number) → Bool
  | leaf o => o.isNumber
  | node _ left right => left.isNumeric && right.isNumeric

/-- Sums, differences and products of integers and of expressions that are integers; every product
has a side that is made of numbers alone. -/
def Integral : Arithmetic (Operand ν Number) → Prop
  | leaf o => o.Integral
  | node op left right => op ≠ .dividedBy ∧
      (op = .times → (left.isNumeric || right.isNumeric) = true) ∧ left.Integral ∧ right.Integral

/-- The exact integer that the arithmetic prescribes, and whether there is a word in it. -/
def tally : Arithmetic (Operand ν Number) → Tally
  | leaf o => o.tally
  | node op left right => left.tally.meet op.exact right.tally

/-- Somewhere a word meets an integer that it cannot take in. -/
def Clashes : Arithmetic (Operand ν Number) → Prop
  | leaf _ => False
  | node op left right => left.Clashes ∨ right.Clashes ∨
      left.tally.Clash (op.met (left.isNumeric && right.isNumeric) right.tally)

instance decidableClashes : (c : Arithmetic (Operand ν Number)) → Decidable c.Clashes
  | leaf _ => isFalse id
  | node _ left right =>
    have := left.decidableClashes
    have := right.decidableClashes
    inferInstanceAs (Decidable (_ ∨ _ ∨ _))

variable {c : Arithmetic (Operand ν Number)}

theorem Clashes.word (h : c.Clashes) : c.tally.word = true := by
  induction c with
  | leaf o => exact h.elim
  | node op left right ihl ihr =>
    simp only [tally, Tally.meet, Bool.or_eq_true]
    rcases h with h | h | h
    · exact .inl (ihl h)
    · exact .inr (ihr h)
    · have hword := h.word
      rwa [op.word_met] at hword

theorem Integral.exists_lift (h : c.Integral) (name : Var → ν) :
    ∀ o ∈ c.formula.operands, ∃ e, o.lift name = .ok e := by
  rw [operands_formula]
  induction c with
  | leaf o =>
    intro o' ho'
    obtain rfl := List.mem_singleton.1 ho'
    obtain ⟨e, he, -⟩ := h.counts.lift name
    exact ⟨e, he⟩
  | node op left right ihl ihr =>
    intro o ho
    exact (List.mem_append.1 ho).elim (ihl h.2.2.1 o) (ihr h.2.2.2 o)

/-- **A tree of integers** fails in case of a clash, and has otherwise what its tally says. -/
theorem evaluate_okUnless {tree : Tree (Operand ν Number)} (h : c.formula.Builds name tree)
    (hc : c.Integral) :
    Except.OkUnless c.Clashes (.scalar .tooLargeForWord)
      (fun a => a.Counts c.tally ∧ a.isNumber = c.isNumeric) (tree.evaluate name) := by
  induction c generalizing tree with
  | leaf o =>
    cases h with
    | number n => exact .ok id ⟨hc.counts, rfl⟩
    | lifted hn he =>
      obtain ⟨e, he', hcounts⟩ := hc.counts.lift name
      obtain rfl := Except.ok.inj (he.symm.trans he')
      exact .ok id ⟨hcounts, hn.symm⟩
  | node op left right ihl ihr =>
    obtain ⟨hop, hlinear, hl, hr⟩ := hc
    cases h with
    | binary hleft hright =>
      rw [Tree.evaluate_binary]
      refine (ihl hleft hl).bind fun a ha => (ihr hright hr).bind fun b hb => ?_
      have happly := Operand.apply_okUnless name hop
        (by rw [ha.2, hb.2]; exact hlinear) ha.1 hb.1
      rwa [ha.2, hb.2] at happly

/-- **A source of integers** fails in case of a clash, and has otherwise what its tally says. -/
theorem toAffine_okUnless {t : Template (Operand ν Number)} (h : t.Says c.formula)
    (hc : c.Integral) :
    Except.OkUnless c.Clashes (.algebra (.scalar .tooLargeForWord)) (fun e => e.Counts c.tally)
      (t.toAffine name) := by
  obtain ⟨tree, htree, hbuilds⟩ := h.exists_builds (hc.exists_lift name)
  rw [Template.toAffine, htree]
  exact ((evaluate_okUnless hbuilds hc).bind_ok fun _ ha => ha.1.lift name).mapError _

end Arithmetic

/-! ### Constants -/

/-- **What a tally foretells** of a calculation. If no word takes part, the calculation succeeds and
its constant is the exact integer. If one does, the constant is the word that is congruent to the
exact integer, so that it is exact as long as that is in the range of words. Nothing but a clash
makes the calculation fail. -/
structure Tally.Foretells {ε : Type} (s : Tally) (clashes : Prop) (clash : ε)
    (x : Except ε (Affine ν Number)) : Prop where
  exact : s.word = false → ∃ e, x = .ok e ∧ e.isConstant = true ∧ e.constant.isWord = false ∧
    e.constant.integer? = some s.exact
  wrapped : s.word = true → ∀ e, x = .ok e →
    e.isConstant = true ∧ e.constant = .word (Int64.ofInt s.exact)
  inRange : Number.InWord s.exact → ∀ e, x = .ok e → e.constant.integer? = some s.exact
  failure : ∀ err, x = .error err ↔ clashes ∧ err = clash

theorem Except.OkUnless.foretells {ε : Type} {s : Tally} {p : Prop} {err : ε}
    {x : Except ε (Affine ν Number)} (h : Except.OkUnless p err (fun e => e.Counts s) x)
    (hp : p → s.word = true) : s.Foretells p err x where
  exact hs := by
    obtain ⟨e, he, hcounts⟩ := h.exists_ok fun hclash => Bool.noConfusion (hs.symm.trans (hp hclash))
    refine ⟨e, he, hcounts.isConstant, hcounts.constant.isWord.trans hs, ?_⟩
    exact hcounts.constant.integer?_of_word hs
  wrapped hs e he := ⟨(h.of_ok he).isConstant, (h.of_ok he).constant.eq_word hs⟩
  inRange hs e he := (h.of_ok he).constant.integer?_of_inWord hs
  failure err' := h.error_iff

theorem Template.evaluate_of_toAffine_error {t : Template (Operand ν Number)}
    {err : SourceError ν Number} (h : t.toAffine name = .error err) :
    t.evaluate name = .error err := by
  rw [evaluate_eq_bind, h]
  rfl

/-- **Integer constants.** A chain of combinators on integers and a source of sums, differences and
products of integers come to what their tallies foretell: to the exact integer without words, and to
the word that is congruent to it with words, unless a word meets an integer that it cannot take in.
For the source this is the value that its line in the log tells of. -/
theorem integer_constants (name : Var → ν) :
    (∀ c : Chain ν, c.Integral →
      c.tally.Foretells c.Clashes (.scalar .tooLargeForWord) (c.toAffine name)) ∧
    ∀ (c : Arithmetic (Operand ν Number)) (t : Template (Operand ν Number)), c.Integral →
      t.Says c.formula →
      c.tally.Foretells c.Clashes (.algebra (.scalar .tooLargeForWord)) (t.toAffine name) ∧
      (∀ e, t.evaluate name = .ok e ↔
        t.toAffine name = .ok e ∧ ∃ line, t.logLine name e = .ok line) ∧
      ∀ err, t.toAffine name = .error err → t.evaluate name = .error err :=
  ⟨fun _ hc => (Chain.toAffine_okUnless hc).foretells Chain.Clashes.word,
    fun _ _ hc ht => ⟨(Arithmetic.toAffine_okUnless ht hc).foretells Arithmetic.Clashes.word,
      fun _ => Template.evaluate_iff_toAffine, fun _ => Template.evaluate_of_toAffine_error⟩⟩

/-- Three times what `2 ^ 70` is less a truth value. -/
def Chain.beyondWords : Chain String :=
  .scale (.whole 3) (.sub (.operand (.number (.whole (2 ^ 70)))) (.operand (.number (.truth true))))

/-- `(2 ^ 62) * 4 - 5`, where the power of two is a word. -/
def Arithmetic.aroundWords : Arithmetic (Operand String Number) :=
  .node .minus (.node .times (.leaf (.number (.word 4611686018427387904))) (.leaf (.number (.whole 4))))
    (.leaf (.number (.whole 5)))

/-- Without words the constant is exact, and with one it wraps around. -/
theorem integer_constants_beyondAndAround :
    Chain.beyondWords.Integral ∧ Arithmetic.aroundWords.Integral ∧
    (∃ e, Chain.beyondWords.toAffine (fun _ => "x") = .ok e ∧
      e.constant.integer? = some (3 * (2 ^ 70 - 1))) ∧
    ∃ e, Arithmetic.aroundWords.written.toAffine (fun _ => "x") = .ok e ∧
      e.constant = .word (-5) := by
  have hchain : Chain.beyondWords.Integral := ⟨rfl, rfl, rfl⟩
  have hsource : Arithmetic.aroundWords.Integral :=
    ⟨by decide, by decide, ⟨by decide, fun _ => rfl, rfl, rfl⟩, rfl⟩
  refine ⟨hchain, hsource, ?_, ?_⟩
  · obtain ⟨e, he, -, -, hconstant⟩ := ((integer_constants _).1 _ hchain).exact rfl
    exact ⟨e, he, hconstant⟩
  · have hforetold := ((integer_constants fun _ => "x").2 _ _ hsource
      Arithmetic.aroundWords.says_written).1
    cases hx : Arithmetic.aroundWords.written.toAffine (fun _ => "x") with
    | error err => exact absurd ((hforetold.failure err).1 hx).1 (by decide)
    | ok e =>
      have hwrapped : Int64.ofInt Arithmetic.aroundWords.tally.exact = -5 := by decide
      exact ⟨e, rfl, hwrapped ▸ (hforetold.wrapped rfl e hx).2⟩

/-- The greatest word and one. -/
def Chain.greatestAndOne : Chain String :=
  .add (.operand (.number (.word 9223372036854775807))) (.operand (.number (.word 1)))

/-- The integer after the greatest word, and the word one. -/
def Chain.nextAndOne : Chain String :=
  .add (.operand (.number (.whole 9223372036854775808))) (.operand (.number (.word 1)))

/-- Words wrap around, and a word and an integer beyond words are refused. -/
theorem Chain.greatestAndOne_wraps :
    greatestAndOne.Integral ∧ greatestAndOne.tally.exact = 2 ^ 63 ∧
    (∃ e, greatestAndOne.toAffine (fun _ => "x") = .ok e ∧
      e.constant.integer? = some (-2 ^ 63)) ∧
    nextAndOne.Integral ∧ ∀ e, nextAndOne.toAffine (fun _ => "x") ≠ .ok e := by
  refine ⟨⟨rfl, rfl⟩, by decide, ⟨_, rfl, by decide⟩, ⟨rfl, rfl⟩, fun e he => ?_⟩
  cases he

end Milp
