import Milp.Proofs.Saying
import Milp.Tree.Value

/-!
# Merging terms

Expressions are merged key by key, and of two terms under one key the variable of the first stays.
So the variable that an expression has under a key is the first one that its operands mention there,
from left to right: `Formula.Builds.var?_eq`. The factors do not matter for that.
-/

namespace Milp

variable {ν α : Type}

/-! ### The linear part -/

namespace Linear

section BEq

variable [BEq ν]

/-- The variable filed under a key. -/
def var? (l : Linear ν α) (key : ν) : Option Var := (l.find? key).map Term.var

variable [LawfulBEq ν]

theorem find?_place (t : Term ν α) (us : List (Term ν α)) (key : ν) :
    (place t us).find? (·.key == key) =
      if t.key == key then some t else us.find? (·.key == key) := by
  induction us with
  | nil =>
    rw [place, List.find?_cons]
    cases t.key == key <;> rfl
  | cons u us ih =>
    by_cases hu : u.key == t.key
    · have hkey : u.key = t.key := eq_of_beq hu
      simp only [place, hkey, BEq.rfl, if_true, List.find?_cons]
      cases t.key == key <;> rfl
    · simp only [place, hu, Bool.false_eq_true, if_false, List.find?_cons, ih]
      cases hk : u.key == key with
      | false => rfl
      | true =>
        obtain rfl : u.key = key := eq_of_beq hk
        exact (if_neg fun h => hu (BEq.symm h)).symm

theorem find?_insert (l : Linear ν α) (t : Term ν α) (key : ν) :
    (l.insert t).find? key = if t.key == key then some t else l.find? key :=
  find?_place t l.terms key

theorem of_find?_eq_some {l : Linear ν α} {key : ν} {t : Term ν α} (h : l.find? key = some t) :
    t ∈ l.terms ∧ t.key = key := by
  unfold find? at h
  exact ⟨List.mem_of_find?_eq_some h, by simpa using List.find?_some h⟩

/-- Under the key of a term no other one is filed. -/
theorem mem_terms_iff {l : Linear ν α} {t : Term ν α} :
    t ∈ l.terms ↔ l.find? t.key = some t := by
  obtain ⟨ts, hts⟩ := l
  simp only [find?]
  induction ts with
  | nil => simp
  | cons u us ih =>
    rw [List.map_cons, List.pairwise_cons] at hts
    rw [List.mem_cons, List.find?_cons]
    cases hu : u.key == t.key with
    | true =>
      simp only [Option.some.injEq]
      refine ⟨?_, fun h => .inl h.symm⟩
      rintro (rfl | ht)
      · rfl
      · have := hts.1 t.key (List.mem_map_of_mem ht)
        simp [hu] at this
    | false =>
      rw [← ih hts.2]
      refine or_iff_right ?_
      rintro rfl
      simp at hu

end BEq

variable [BEq ν] [Scalar α]

/-- What is filed after a term has been added. -/
theorem addTerm_eq_ok {k : α} {l l' : Linear ν α} {t : Term ν α} (h : addTerm k l t = .ok l') :
    ∃ p x, Scalar.mul k t.factor = .ok p ∧ Scalar.add (l.factor t.key) p = .ok x ∧
      l' = l.insert ⟨t.key, x, (l.var? t.key).getD t.var⟩ := by
  simp only [addTerm, Except.bind_eq_ok_iff, Except.pure_eq_ok_iff] at h
  obtain ⟨p, hp, x, hx, rfl⟩ := h
  refine ⟨p, x, hp, ?_, ?_⟩ <;> cases hf : l.find? t.key <;> simp_all [factor, var?]

variable [LawfulBEq ν]

theorem var?_addTerm {k : α} {l l' : Linear ν α} {t : Term ν α} (h : addTerm k l t = .ok l')
    (key : ν) : l'.var? key = (l.var? key).or (if t.key == key then some t.var else none) := by
  obtain ⟨p, x, -, -, rfl⟩ := addTerm_eq_ok h
  rw [var?, find?_insert]
  cases ht : t.key == key with
  | false => simp [var?]
  | true =>
    obtain rfl : t.key = key := eq_of_beq ht
    cases hl : l.var? t.key <;> rfl

theorem var?_foldlM {k : α} {ts : List (Term ν α)} {l l' : Linear ν α}
    (h : ts.foldlM (addTerm k) l = .ok l') (key : ν) :
    l'.var? key = (l.var? key).or ((ts.find? (·.key == key)).map Term.var) := by
  induction ts generalizing l with
  | nil =>
    obtain rfl := Except.ok.inj h
    simp
  | cons t ts ih =>
    rw [List.foldlM_cons, Except.bind_eq_ok_iff] at h
    obtain ⟨l₁, h₁, h⟩ := h
    rw [ih h, var?_addTerm h₁, List.find?_cons, Option.or_assoc]
    cases t.key == key <;> rfl

end Linear

/-! ### Expressions and operands -/

namespace Affine

variable [BEq ν]

/-- The variable filed under a key. -/
def var? (e : Affine ν α) (key : ν) : Option Var := e.linear.var? key

theorem var?_addScaled [LawfulBEq ν] [Scalar α] {base other e : Affine ν α} {k : α}
    (h : base.addScaled k other = .ok e) (key : ν) :
    e.var? key = (base.var? key).or (other.var? key) := by
  simp only [addScaled, Except.bind_eq_ok_iff, Except.pure_eq_ok_iff] at h
  obtain ⟨l, hl, p, -, c, -, rfl⟩ := h
  exact Linear.var?_foldlM hl key

end Affine

namespace Operand

/-- The variable that an operand mentions under a name. -/
def var? [BEq ν] (name : Var → ν) : Operand ν α → ν → Option Var
  | var x, key => if name x == key then some x else none
  | expression e, key => e.var? key
  | number _, _ | other _, _ => none

variable [Name ν] [Scalar α] {name : Var → ν}

theorem var?_lift {o : Operand ν α} {e : Affine ν α} (h : o.lift name = .ok e) (key : ν) :
    e.var? key = o.var? name key := by
  cases o with
  | number n =>
    obtain rfl := Except.ok.inj h
    rfl
  | var x =>
    simp only [lift] at h
    split at h
    · obtain rfl := Except.ok.inj h
      simp [Affine.var?, Linear.var?, Linear.find?, Affine.ofVar, Linear.insert, Linear.place,
        Linear.empty, var?, List.find?_cons]
      split <;> simp_all
    · simp at h
  | expression e =>
    obtain rfl := Except.ok.inj h
    rfl
  | other o => simp [lift] at h

variable [LawfulBEq ν]

theorem var?_addScaled {a b k : Operand ν α} {e : Affine ν α}
    (h : addScaled name a k b = .ok e) (key : ν) :
    e.var? key = (a.var? name key).or (b.var? name key) := by
  unfold addScaled at h
  split at h
  · simp only [Except.bind_eq_ok_iff, Except.mapError_eq_ok_iff] at h
    obtain ⟨a', ha, b', hb, h⟩ := h
    rw [Affine.var?_addScaled h, var?_lift ha, var?_lift hb]
  · simp at h

end Operand

/-! ### Where terms are filed -/

section Filed

/-- Every term is filed under the name of its variable. -/
def Affine.Filed [BEq ν] (name : Var → ν) (e : Affine ν α) : Prop :=
  ∀ t ∈ e.linear.terms, t.key = name t.var

theorem Affine.filed_iff [BEq ν] [LawfulBEq ν] {name : Var → ν} {e : Affine ν α} :
    e.Filed name ↔ ∀ key x, e.var? key = some x → name x = key := by
  constructor
  · intro h key x hx
    obtain ⟨t, ht, rfl⟩ := Option.map_eq_some_iff.1 hx
    obtain ⟨hmem, hkey⟩ := Linear.of_find?_eq_some ht
    rw [← h t hmem, hkey]
  · intro h t ht
    refine (h t.key t.var ?_).symm
    rw [Affine.var?, Linear.var?, Linear.mem_terms_iff.1 ht]
    rfl

/-- As for an expression; a variable or a number files nothing else. -/
def Operand.Filed [BEq ν] (name : Var → ν) : Operand ν α → Prop
  | expression e => e.Filed name
  | _ => True

theorem Operand.Filed.name_eq [BEq ν] [LawfulBEq ν] {name : Var → ν} {o : Operand ν α}
    (h : o.Filed name) {key : ν} {x : Var} (hx : o.var? name key = some x) : name x = key := by
  cases o with
  | var y =>
    simp only [var?] at hx
    split at hx
    · next hy =>
      obtain rfl := Option.some.inj hx
      exact eq_of_beq hy
    · simp at hx
  | expression e => exact Affine.filed_iff.1 h key x hx
  | number n | other o => simp [var?] at hx

end Filed

/-! ### Operations -/

/-- The operation between two numbers. -/
def Formula.Operation.calculate [Scalar α] : Formula.Operation → α → α → Except ScalarError α
  | plus => Scalar.add
  | minus => Scalar.sub
  | times => Scalar.mul
  | dividedBy => Scalar.div

namespace Operand

variable [Name ν] [Scalar α] {name : Var → ν}

/-- **What an operation does**: it calculates with two numbers, or it is one of the combinators. -/
inductive Applies (name : Var → ν) :
    Formula.Operation → Operand ν α → Operand ν α → Operand ν α → Prop
  | numbers {op x y z} : op.calculate x y = .ok z →
      Applies name op (number x) (number y) (number z)
  | plus {a b e} : add name a b = .ok e → Applies name .plus a b (expression e)
  | minus {a b e} : sub name a b = .ok e → Applies name .minus a b (expression e)
  | scaledLeft {x b e} : scale name (number x) b = .ok e →
      Applies name .times (number x) b (expression e)
  | scaledRight {a x e} : scale name (number x) a = .ok e →
      Applies name .times a (number x) (expression e)
  | divided {a x e} : divide name a (number x) = .ok e →
      Applies name .dividedBy a (number x) (expression e)

omit [Scalar α] in
theorem ofScalar_eq_ok {r : Except ScalarError α} {c : Operand ν α} (h : ofScalar r = .ok c) :
    ∃ z, r = .ok z ∧ c = number z := by
  obtain ⟨z, hz, rfl⟩ := Except.map_eq_ok_iff.1 (Except.mapError_eq_ok_iff.1 h)
  exact ⟨z, hz, rfl⟩

theorem applies_of_apply {op : Formula.Operation} {a b c : Operand ν α}
    (h : apply name (String.singleton op.char) a b = .ok c) : Applies name op a b c := by
  cases op with
  | plus =>
    change apply name "+" a b = _ at h
    simp only [apply] at h
    split at h
    · obtain ⟨z, hz, rfl⟩ := ofScalar_eq_ok h
      exact .numbers hz
    · obtain ⟨e, he, rfl⟩ := Except.map_eq_ok_iff.1 h
      exact .plus he
  | minus =>
    change apply name "-" a b = _ at h
    simp only [apply] at h
    split at h
    · obtain ⟨z, hz, rfl⟩ := ofScalar_eq_ok h
      exact .numbers hz
    · obtain ⟨e, he, rfl⟩ := Except.map_eq_ok_iff.1 h
      exact .minus he
  | times =>
    change apply name "*" a b = _ at h
    simp only [apply] at h
    split at h
    · obtain ⟨z, hz, rfl⟩ := ofScalar_eq_ok h
      exact .numbers hz
    · obtain ⟨e, he, rfl⟩ := Except.map_eq_ok_iff.1 h
      exact .scaledLeft he
    · obtain ⟨e, he, rfl⟩ := Except.map_eq_ok_iff.1 h
      exact .scaledRight he
    · simp at h
  | dividedBy =>
    change apply name "/" a b = _ at h
    simp only [apply] at h
    split at h
    · obtain ⟨z, hz, rfl⟩ := ofScalar_eq_ok h
      exact .numbers hz
    · obtain ⟨e, he, rfl⟩ := Except.map_eq_ok_iff.1 h
      exact .divided he
    · simp at h

variable [LawfulBEq ν] {a b c : Operand ν α} {e : Affine ν α}

/-- A number mentions no variable, so scaling changes nothing of what is mentioned. -/
theorem var?_scale {k : Operand ν α} (h : scale name k a = .ok e) (key : ν) :
    e.var? key = a.var? name key :=
  (var?_addScaled h key).trans (Option.none_or ..)

theorem var?_divide {k : Operand ν α} (h : divide name a k = .ok e) (key : ν) :
    e.var? key = a.var? name key := by
  unfold divide at h
  split at h
  · obtain ⟨k, -, h⟩ := Except.bind_eq_ok_iff.1 h
    exact var?_scale h key
  · simp at h

/-- **The left operand has precedence** in what is mentioned. -/
theorem Applies.var?_eq {op : Formula.Operation} (h : Applies name op a b c) (key : ν) :
    c.var? name key = (a.var? name key).or (b.var? name key) := by
  cases h with
  | numbers _ => rfl
  | plus h | minus h => exact var?_addScaled h key
  | scaledLeft h => exact (var?_scale h key).trans (Option.none_or ..).symm
  | scaledRight h => exact (var?_scale h key).trans (Option.or_none ..).symm
  | divided h => exact (var?_divide h key).trans (Option.or_none ..).symm

end Operand

/-! ### Formulas -/

namespace Formula

variable [Name ν] [Scalar α] {name : Var → ν}

/-- The first variable that a formula mentions under a name, from left to right. -/
def var? (name : Var → ν) : Formula (Operand ν α) → ν → Option Var
  | numeral _, _ => none
  | operand o, key => o.var? name key
  | binary _ f g, key => (f.var? name key).or (g.var? name key)

/-- **The values of an operation's tree**: those of its sides, to which the operation applies. -/
theorem evaluate_binary_eq_ok {op : Operation} {t u : Tree (Operand ν α)} {c : Operand ν α}
    (h : (Tree.binary op.word t u).evaluate name = .ok c) :
    ∃ a b, t.evaluate name = .ok a ∧ u.evaluate name = .ok b ∧ Operand.Applies name op a b c := by
  simp only [Tree.evaluate, Tree.evaluateWith, Except.bind_eq_ok_iff] at h
  obtain ⟨a, ha, b, hb, h⟩ := h
  exact ⟨a, b, ha, hb, Operand.applies_of_apply h⟩

/-- **What an expression mentions** under a name is what its formula mentions there first. -/
theorem Builds.var?_eq [LawfulBEq ν] {f : Formula (Operand ν α)} {t : Tree (Operand ν α)}
    (h : f.Builds name t) {a : Operand ν α} (ha : t.evaluate name = .ok a) (key : ν) :
    a.var? name key = f.var? name key := by
  induction h generalizing a with
  | numeral n | number n =>
    obtain rfl := Except.ok.inj ha
    rfl
  | lifted ho he =>
    obtain rfl := Except.ok.inj ha
    exact Operand.var?_lift he key
  | binary _ _ ihf ihg =>
    obtain ⟨b, c, hb, hc, h⟩ := evaluate_binary_eq_ok ha
    rw [h.var?_eq, ihf hb, ihg hc, var?]

omit [Scalar α] in
/-- What a formula mentions one of its operands does. -/
theorem exists_operand_of_var? {f : Formula (Operand ν α)} {key : ν} {x : Var}
    (hx : f.var? name key = some x) : ∃ o ∈ f.operands, o.var? name key = some x := by
  induction f with
  | numeral n => simp [var?] at hx
  | operand o => exact ⟨o, List.mem_singleton_self o, hx⟩
  | binary op f g ihf ihg =>
    obtain hx | ⟨-, hx⟩ := Option.or_eq_some_iff.1 hx
    · obtain ⟨o, ho, hx⟩ := ihf hx
      exact ⟨o, List.mem_append_left _ ho, hx⟩
    · obtain ⟨o, ho, hx⟩ := ihg hx
      exact ⟨o, List.mem_append_right _ ho, hx⟩

end Formula

end Milp
