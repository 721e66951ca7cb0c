import Milp.Proofs.Admission
import Milp.Proofs.Replacing
import Milp.Proofs.Splicing

/-!
# Expressions in place of their sources

An expression that comes out of a template can be an operand of another template. It makes no
difference whether the expression stands there or its template in parentheses, so long as there is a
variable or an expression in that template: `Template.evaluate_set_iff`. Without one the value would
be a number, which may stand where no expression may.
-/

namespace Milp

open Grammar

variable {ν α : Type} [Name ν] [Scalar α] {name : Var → ν}

/-! ### Templates in writing -/

/-- The pieces can be joined exactly if all of them are text. -/
theorem Piece.join_isOk_iff {ps : List Piece} (index : Nat) :
    (∃ cs, join index ps = .ok cs) ↔ ∀ p ∈ ps, p.IsText := by
  induction ps generalizing index with
  | nil => exact ⟨fun _ _ hp => absurd hp List.not_mem_nil, fun _ => ⟨[], rfl⟩⟩
  | cons p ps ih =>
    rw [List.forall_mem_cons]
    cases p with
    | bare kind written =>
      constructor
      · rintro ⟨cs, h⟩
        simp [join] at h
      · rintro ⟨h, -⟩
        exact h.elim
    | text cs =>
      rw [← ih (index + 1)]
      constructor
      · rintro ⟨ds, h⟩
        obtain ⟨es, hes, -⟩ := Except.bind_eq_ok_iff.1 h
        exact ⟨trivial, es, hes⟩
      · rintro ⟨-, es, hes⟩
        refine ⟨cs ++ es, ?_⟩
        rw [join, hes]
        rfl

namespace Template

/-- Every operand can be written in the source. -/
def IsWritten (name : Var → ν) (t : Template (Operand ν α)) : Prop :=
  ∀ o ∈ t.operands, ∃ cs, o.inSource name = .ok (.text cs)

/-- The operands in writing, each with the segment after it. -/
theorem mapM_inSource_isOk_iff {rest : List (Operand ν α × String)} :
    (∃ ps, (rest.mapM fun p => do return [← p.1.inSource name, .text p.2.toList]) = .ok ps ∧
      ∀ p ∈ ps.flatten, p.IsText) ↔ ∀ p ∈ rest, ∃ cs, p.1.inSource name = .ok (.text cs) := by
  induction rest with
  | nil => exact ⟨fun _ _ hp => absurd hp List.not_mem_nil, fun _ => ⟨[], rfl, by simp⟩⟩
  | cons p rest ih =>
    rw [List.forall_mem_cons, ← ih]
    simp only [List.mapM_cons, Except.bind_eq_ok_iff, Except.pure_eq_ok_iff]
    constructor
    · rintro ⟨_, ⟨_, ⟨piece, hpiece, rfl⟩, ps, hps, rfl⟩, htext⟩
      rw [List.flatten_cons, List.forall_mem_append, List.forall_mem_cons] at htext
      refine ⟨?_, ps, hps, htext.2⟩
      cases piece with
      | text cs => exact ⟨cs, hpiece⟩
      | bare => exact htext.1.1.elim
    · rintro ⟨⟨cs, hcs⟩, ps, hps, htext⟩
      refine ⟨_, ⟨_, ⟨_, hcs, rfl⟩, ps, hps, rfl⟩, ?_⟩
      rw [List.flatten_cons, List.forall_mem_append, List.forall_mem_cons, List.forall_mem_singleton]
      exact ⟨⟨trivial, trivial⟩, htext⟩

theorem substituted_isOk_iff {t : Template (Operand ν α)} :
    (∃ s, t.substituted (Operand.inSource name) = .ok s) ↔ t.IsWritten name := by
  have hoperands : t.IsWritten name ↔ ∀ p ∈ t.rest, ∃ cs, p.1.inSource name = .ok (.text cs) := by
    rw [IsWritten, operands, List.forall_mem_map]
  rw [hoperands, ← mapM_inSource_isOk_iff]
  simp only [substituted, Except.bind_eq_ok_iff]
  constructor
  · rintro ⟨_, ps, hps, hjoin⟩
    obtain ⟨cs, hcs, -⟩ := Except.map_eq_ok_iff.1 hjoin
    have htext := (Piece.join_isOk_iff 0).1 ⟨cs, hcs⟩
    exact ⟨ps, hps, (List.forall_mem_cons.1 htext).2⟩
  · rintro ⟨ps, hps, htext⟩
    have hfirst : (Piece.text t.first.toList).IsText := trivial
    obtain ⟨cs, hcs⟩ := (Piece.join_isOk_iff 0).2 (List.forall_mem_cons.2 ⟨hfirst, htext⟩)
    exact ⟨_, ps, hps, Except.map_eq_ok_iff.2 ⟨cs, hcs, rfl⟩⟩

theorem logLine_isOk_iff {t : Template (Operand ν α)} {e : Affine ν α} :
    (∃ s, t.logLine name e = .ok s) ↔ t.IsWritten name ∧ ∃ s, e.display name = .ok s := by
  rw [← substituted_isOk_iff]
  simp only [logLine, display, Except.bind_eq_ok_iff, Except.pure_eq_ok_iff]
  constructor
  · rintro ⟨_, _, ⟨s, hs, -⟩, u, hu, -⟩
    exact ⟨⟨s, hs⟩, u, hu⟩
  · rintro ⟨⟨s, hs⟩, u, hu⟩
    exact ⟨_, _, ⟨s, hs, rfl⟩, u, hu, rfl⟩

/-! ### What a template is read and evaluated as -/

/-- The symbols that the template is read as. -/
def Reads (name : Var → ν) (t : Template (Operand ν α)) (ss : List (Symbol (Operand ν α))) : Prop :=
  ∃ is, t.Spells .expression is ∧ ReadOperands name false is ss

theorem reads_iff {t : Template (Operand ν α)} {ss : List (Symbol (Operand ν α))} :
    t.Reads name ss ↔ (t.tokens name .expression).outcome = .ok () ∧
      (t.tokens name .expression).items.map Token.symbol = ss :=
  scan_eq_iff.symm

theorem Reads.unique {t : Template (Operand ν α)} {ss us : List (Symbol (Operand ν α))}
    (h : t.Reads name ss) (h' : t.Reads name us) : ss = us :=
  (reads_iff.1 h).2.symm.trans (reads_iff.1 h').2

/-- **The expression of a template**: it is read as the symbols of a sum, and the value of their
tree is lifted. -/
theorem evaluate_eq_ok_iff {t : Template (Operand ν α)} {e : Affine ν α} :
    t.evaluate name = .ok e ↔ ∃ ss tree a, t.Reads name ss ∧ IsSum ss tree ∧
      tree.evaluate name = .ok a ∧ a.lift name = .ok e ∧ t.IsWritten name ∧
      ∃ s, e.display name = .ok s := by
  simp only [evaluate, Tree.toAffine, Except.bind_eq_ok_iff, Except.mapError_eq_ok_iff,
    Except.pure_eq_ok_iff, Except.discard_eq_ok_iff, ofFeed_eq_ok_iff_isSum]
  constructor
  · rintro ⟨tree, ⟨ho, htree⟩, e', ⟨a, ha, he⟩, -, ⟨line, hline⟩, rfl⟩
    obtain ⟨hwritten, hdisplay⟩ := logLine_isOk_iff.1 ⟨line, hline⟩
    exact ⟨_, tree, a, reads_iff.2 ⟨ho, rfl⟩, htree, ha, he, hwritten, hdisplay⟩
  · rintro ⟨ss, tree, a, hss, htree, ha, he, hwritten, hdisplay⟩
    obtain ⟨ho, rfl⟩ := reads_iff.1 hss
    obtain ⟨line, hline⟩ := logLine_isOk_iff.2 ⟨hwritten, hdisplay⟩
    exact ⟨tree, ⟨ho, htree⟩, e, ⟨a, ha, he⟩, ⟨⟩, ⟨line, hline⟩, rfl⟩

/-- What is read before an operand and behind it, where it stands complete. -/
def ReadsAround (name : Var → ν) (t : Template (Operand ν α)) (i : Nat)
    (us vs : List (Symbol (Operand ν α))) : Prop :=
  ∃ is₁ is₂, (t.before i).Spells .expression is₁ ∧ (t.behind i).Spells .expression is₂ ∧
    ReadOperands name false is₁ us ∧ ReadOperands name true is₂ vs

section Around

variable {t u : Template (Operand ν α)} {i : Nat} {ss ws : List (Symbol (Operand ν α))}

theorem reads_set_iff (hi : i < t.rest.length) {e : Affine ν α} :
    (t.set i (.expression e)).Reads name ss ↔ ∃ us vs, t.ReadsAround name i us vs ∧
      ss = us ++ ([.expression (.expression e)] ++ vs) := by
  constructor
  · rintro ⟨is, his, hr⟩
    obtain ⟨is₁, is₂, rfl, h₁, h₂⟩ := (spells_set_iff hi).1 his
    obtain ⟨us, rest, rfl, hus, hrest⟩ := hr.of_append
    obtain ⟨s, vs, rfl, hs, hvs⟩ := ReadAs.operand_iff.1 hrest
    obtain rfl := Except.ok.inj hs
    exact ⟨us, vs, ⟨is₁, is₂, h₁, h₂, hus, hvs⟩, rfl⟩
  · rintro ⟨us, vs, ⟨is₁, is₂, h₁, h₂, hus, hvs⟩, rfl⟩
    refine ⟨_, (spells_set_iff hi).2 ⟨is₁, is₂, rfl, h₁, h₂⟩, hus.append ?_⟩
    exact ReadAs.operand_iff.2 ⟨_, vs, rfl, rfl, hvs⟩

theorem reads_splice_iff (hu : u.Reads name ws) :
    (t.splice i u).Reads name ss ↔ ∃ us vs, t.ReadsAround name i us vs ∧
      ss = us ++ (.opening (.text "(") :: (ws ++ [.closing (.text ")")]) ++ vs) := by
  constructor
  · rintro ⟨is, his, hr⟩
    obtain ⟨is₁, is₂, js, rfl, h₁, hjs, h₂⟩ := spells_splice_iff.1 his
    obtain ⟨us, rest, rfl, hus, hrest⟩ := hr.of_append
    obtain ⟨rest, rfl, hgroup⟩ := ReadAs.opening_iff.1 hrest
    obtain ⟨ws', rest, rfl, hws, hclosing⟩ := hgroup.of_append
    obtain ⟨vs, rfl, hvs⟩ := ReadAs.closing_iff.1 hclosing
    obtain rfl := hu.unique ⟨js, hjs, hws⟩
    exact ⟨us, vs, ⟨is₁, is₂, h₁, h₂, hus, hvs⟩, by simp⟩
  · rintro ⟨us, vs, ⟨is₁, is₂, h₁, h₂, hus, hvs⟩, rfl⟩
    obtain ⟨js, hjs, hws⟩ := hu
    refine ⟨_, spells_splice_iff.2 ⟨is₁, is₂, js, rfl, h₁, hjs, h₂⟩, hus.append ?_⟩
    refine ReadAs.opening_iff.2 ⟨ws ++ (.closing (.text ")") :: vs), by simp, hws.append ?_⟩
    exact ReadAs.closing_iff.2 ⟨vs, rfl, hvs⟩

end Around

end Template

/-! ### Expressions as values -/

/-- The trees have the same value, or fail to have one for the same reason. -/
def Tree.Agrees (name : Var → ν) (t u : Tree (Operand ν α)) : Prop :=
  t.evaluate name = u.evaluate name

theorem Tree.congruent_agrees (name : Var → ν) :
    Tree.Congruent (Tree.Agrees name : Tree (Operand ν α) → Tree (Operand ν α) → Prop) where
  refl _ := rfl
  binary := by
    intro op t t' u u' ht hu
    have ht : t.evaluateWith name .ok = t'.evaluateWith name .ok := ht
    have hu : u.evaluateWith name .ok = u'.evaluateWith name .ok := hu
    simp only [Agrees, evaluate, evaluateWith, ht, hu]

/-- The value of a formula with a variable or an expression in it is no number. -/
theorem Formula.Builds.exists_expression {f : Formula (Operand ν α)} {t : Tree (Operand ν α)}
    (h : f.Builds name t) (hf : ∃ o ∈ f.operands, o.isAffine = true) {a : Operand ν α}
    (ha : t.evaluate name = .ok a) : ∃ e, a = .expression e := by
  obtain ⟨o, ho, haffine⟩ := hf
  induction h generalizing a with
  | numeral n => exact absurd ho List.not_mem_nil
  | number x =>
    obtain rfl := List.mem_singleton.1 ho
    exact absurd haffine Bool.false_ne_true
  | @lifted o' e _ _ => exact ⟨e, (Except.ok.inj ha).symm⟩
  | binary _ _ ihf ihg =>
    obtain ⟨b, c, hb, hc, happlies⟩ := evaluate_binary_eq_ok ha
    have hsides : (∃ e, b = .expression e) ∨ ∃ e, c = .expression e :=
      (List.mem_append.1 ho).imp (fun ho => ihf hb ho) fun ho => ihg hc ho
    cases happlies with
    | numbers _ => simp at hsides
    | _ => exact ⟨_, rfl⟩

/-! ### Nesting -/

namespace Template

variable {inner outer : Template (Operand ν α)} {e x : Affine ν α} {i : Nat}

/-- What is evaluated with a variable or an expression in it is the value of its tree. -/
theorem exists_isSum_of_evaluate (h : inner.evaluate name = .ok e)
    (ha : ∃ o ∈ inner.operands, o.isAffine = true) :
    ∃ ws w, inner.Reads name ws ∧ IsSum ws w ∧ w.evaluate name = .ok (.expression e) ∧
      inner.IsWritten name := by
  obtain ⟨ws, w, a, ⟨js, hjs, hws⟩, hw, hvalue, hlift, hwritten, -⟩ := evaluate_eq_ok_iff.1 h
  obtain ⟨f, hf, hbuilds⟩ := hw.says hws
  have hoperands : f.operands = inner.operands := Says.operands_eq ⟨js, hjs, hf⟩
  obtain ⟨e', rfl⟩ := hbuilds.exists_expression (hoperands ▸ ha) hvalue
  obtain rfl := Except.ok.inj hlift
  exact ⟨ws, w, ⟨js, hjs, hws⟩, hw, hvalue, hwritten⟩

theorem isWritten_set_iff (hi : i < outer.rest.length) (h : inner.IsWritten name) :
    (outer.set i (.expression e)).IsWritten name ↔ (outer.splice i inner).IsWritten name := by
  unfold IsWritten
  rw [operands_set hi, operands_splice]
  simp only [List.forall_mem_append, List.forall_mem_cons]
  constructor
  · rintro ⟨hbefore, -, hbehind⟩
    exact ⟨⟨hbefore, h⟩, hbehind⟩
  · rintro ⟨⟨hbefore, -⟩, hbehind⟩
    exact ⟨hbefore, ⟨_, rfl⟩, hbehind⟩

/-- **An expression as an operand is its template in parentheses.** -/
theorem evaluate_set_iff (h : inner.evaluate name = .ok e)
    (ha : ∃ o ∈ inner.operands, o.isAffine = true) (hi : i < outer.operands.length) :
    (outer.set i (.expression e)).evaluate name = .ok x ↔
      (outer.splice i inner).evaluate name = .ok x := by
  obtain ⟨ws, w, hws, hw, hvalue, hinner⟩ := exists_isSum_of_evaluate h ha
  have hi : i < outer.rest.length := by rwa [operands, List.length_map] at hi
  have hagrees : (Tree.leaf (.expression e)).Agrees name w := hvalue.symm
  have hleaf := IsPrimary.expression (Operand.expression e)
  have hgroup := IsPrimary.group (.text "(") (.text ")") hw
  rw [evaluate_eq_ok_iff, evaluate_eq_ok_iff]
  constructor
  · rintro ⟨ss, tree, a, hss, htree, ha, hlift, hwritten, hdisplay⟩
    obtain ⟨us, vs, haround, rfl⟩ := (reads_set_iff hi).1 hss
    obtain ⟨tree', htree', heq⟩ := htree.replace (Tree.congruent_agrees name) hleaf hgroup hagrees
    exact ⟨_, tree', a, (reads_splice_iff hws).2 ⟨us, vs, haround, rfl⟩, htree', heq ▸ ha, hlift,
      (isWritten_set_iff hi hinner).1 hwritten, hdisplay⟩
  · rintro ⟨ss, tree, a, hss, htree, ha, hlift, hwritten, hdisplay⟩
    obtain ⟨us, vs, haround, rfl⟩ := (reads_splice_iff hws).1 hss
    obtain ⟨tree', htree', heq⟩ :=
      htree.replace (Tree.congruent_agrees name) hgroup hleaf hagrees.symm
    exact ⟨_, tree', a, (reads_set_iff hi).2 ⟨us, vs, haround, rfl⟩, htree', heq ▸ ha, hlift,
      (isWritten_set_iff hi hinner).2 hwritten, hdisplay⟩

/-- `{} + 1`, with a variable at the placeholder. -/
def plusOne : Template (Operand String Rat) := ⟨"", [(.var ⟨0⟩, " + 1")]⟩

/-- `2*{} -{}`, with a variable and a number at the placeholders. -/
def twiceLess : Template (Operand String Rat) := ⟨"2*", [(.var ⟨0⟩, " -"), (.number 3, "")]⟩

/-- The value of `{} + 1` in `2*{} - 3`, and `2*({} + 1) - 3`. -/
theorem evaluate_twicePlusOne : ∃ e x, plusOne.evaluate (fun _ => "x") = .ok e ∧
    (twiceLess.set 0 (.expression e)).evaluate (fun _ => "x") = .ok x ∧
    (twiceLess.splice 0 plusOne).evaluate (fun _ => "x") = .ok x := by
  have hok : ((plusOne.evaluate fun _ => "x").bind fun e =>
      (twiceLess.set 0 (.expression e)).evaluate fun _ => "x").toOption.isSome := by
    decide +kernel
  cases h : plusOne.evaluate fun _ => "x" with
  | error _ => simp [h, Except.bind, Except.toOption] at hok
  | ok e =>
    rw [h] at hok
    cases hx : (twiceLess.set 0 (.expression e)).evaluate fun _ => "x" with
    | error _ => simp [Except.bind, hx, Except.toOption] at hok
    | ok x => exact ⟨e, x, rfl, hx,
        (evaluate_set_iff h ⟨.var ⟨0⟩, by simp [plusOne, operands], rfl⟩ (by decide)).1 hx⟩

end Template

end Milp
