import Milp.Proofs.Comparing
import Milp.Proofs.Folding
import Milp.Proofs.Formats
import Milp.Proofs.Mirroring

/-!
# Operators and sources

Arithmetic on numbers, variables and expressions can be calculated with the operators, or it can be
written out, with a placeholder for every operand, and evaluated as a source. In either way it has
the same value or is refused with an error of the same class. Only the source has a line in the log,
though, and where that cannot be written its evaluation fails: `Arithmetic.evaluate_written`.
-/

namespace Milp

open Grammar

variable {ω : Type}

/-! ### Arithmetic -/

/-- A tree of the four operations, with operands at its leaves. -/
inductive Arithmetic (ω : Type) where
  | leaf (o : ω)
  | node (op : Formula.Operation) (left right : Arithmetic ω)

namespace Arithmetic

/-- The operands, from left to right. -/
def operands : Arithmetic ω → List ω
  | leaf o => [o]
  | node _ left right => left.operands ++ right.operands

/-- The same as a formula. -/
def formula : Arithmetic ω → Formula ω
  | leaf o => .operand o
  | node op left right => .binary op left.formula right.formula

theorem operands_formula (c : Arithmetic ω) : c.formula.operands = c.operands := by
  induction c with
  | leaf o => rfl
  | node op left right ihl ihr => rw [formula, Formula.operands, ihl, ihr, operands]

/-- The sign of an operation, with blanks around it. -/
def signText (op : Formula.Operation) : String := String.ofList [' ', op.char, ' ']

/-- The arithmetic written out, with parentheses around every operation. -/
def written : Arithmetic ω → Template ω
  | leaf o => ⟨"", [(o, "")]⟩
  | node op left right => .ofText "(" ++ left.written ++ .ofText (signText op) ++ right.written ++
      .ofText ")"

/-- The items of the arithmetic that is written out. -/
def items : Arithmetic ω → List (SourceItem ω)
  | leaf o => [.operand o]
  | node op left right => .lexeme .opening ::
      (left.items ++ .lexeme (.operator op.char) :: right.items ++ [.lexeme .closing])

theorem operands_written (c : Arithmetic ω) : c.written.operands = c.operands := by
  induction c with
  | leaf o => rfl
  | node op left right ihl ihr =>
    simp only [written, Template.operands_append, ihl, ihr, operands]
    simp [Template.ofText, Template.operands]

theorem says_items (c : Arithmetic ω) : SaysPrimary c.items c.formula := by
  induction c with
  | leaf o => exact .operand o
  | node op left right ihl ihr =>
    refine .group ?_
    cases hop : op.isAdditive with
    | true => exact .more (.product (.primary ihl)) hop (.primary ihr)
    | false => exact .product (.more (.primary ihl) hop ihr)

end Arithmetic

/-! ### Format strings -/

namespace Template

/-- The template as a format string, with a placeholder for every operand. -/
def format (t : Template ω) : String :=
  String.ofList (t.first.toList ++ t.rest.flatMap fun p => placeholder.toList ++ p.2.toList)

theorem format_eq (t : Template ω) : t.format = joined placeholder t.segments := by
  have hpieces (p : List Char) (ps : List (List Char)) :
      List.intercalate placeholder.toList (p :: ps) =
        p ++ ps.flatMap fun q => placeholder.toList ++ q := by
    induction ps generalizing p with
    | nil => simp
    | cons q ps ih => rw [List.intercalate_cons_cons, ih, List.flatMap_cons]; simp
  rw [← String.toList_inj, toList_joined, segments, List.map_cons, hpieces, format,
    String.toList_ofList, List.map_map, List.flatMap_map]
  rfl

/-- **A format string is split where the operands were**, if no segment has a placeholder. -/
theorem ofFormat?_format {t : Template ω}
    (h : ∀ s ∈ t.segments, ¬ placeholder.toList <:+: s.toList) :
    ofFormat? t.format t.operands = .ok t := by
  have hlength : (t.rest.map Prod.snd).length = t.operands.length := by simp [operands]
  have hzip : t.operands.zip (t.rest.map Prod.snd) = t.rest := by
    rw [operands, List.zip_map', List.map_id'']
    exact fun _ => rfl
  have hne : t.segments ≠ [] := List.cons_ne_nil t.first _
  rw [ofFormat?, format_eq, splitFormat_joined hne h, segments, ofParts?, if_pos hlength, hzip]

/-- A character that is in no segment is not in the sequence of characters and operands. -/
theorem notMem_segments_iff {t : Template ω} {c : Char} :
    (∀ s ∈ t.segments, c ∉ s.toList) ↔ Sum.inl c ∉ t.sequence := by
  have hrest : Sum.inl c ∉ (t.rest.flatMap fun p => .inr p.1 :: p.2.toList.map .inl) ↔
      ∀ p ∈ t.rest, c ∉ p.2.toList := by
    simp [List.mem_flatMap]
  rw [segments, List.forall_mem_cons, List.forall_mem_map, sequence, List.mem_append, not_or,
    hrest, List.mem_map_of_injective Sum.inl_injective]

theorem sequence_ofText (s : String) : (ofText s : Template ω).sequence = s.toList.map .inl :=
  List.append_nil _

end Template

theorem Arithmetic.toTemplate_written (c : Arithmetic ω) :
    (Source.format c.written.format).toTemplate c.operands = .ok c.written := by
  have hbrace : Sum.inl '\x7b' ∉ c.written.sequence := by
    induction c with
    | leaf o => simp [written, Template.sequence]
    | node op left right ihl ihr =>
      have hsign : '\x7b' ∉ (signText op).toList := by cases op <;> decide
      simp only [written, Template.sequence_append, Template.sequence_ofText, List.mem_append,
        List.mem_map, Sum.inl.injEq, exists_eq_right, not_or]
      exact ⟨⟨⟨⟨by decide, ihl⟩, hsign⟩, ihr⟩, by decide⟩
  have hplaceholder : ∀ s ∈ c.written.segments, ¬ Template.placeholder.toList <:+: s.toList :=
    fun s hs hfound =>
      Template.notMem_segments_iff.2 hbrace s hs (hfound.subset (by decide))
  rw [← c.operands_written, Source.toTemplate, Template.ofFormat?_format hplaceholder]
  rfl

/-! ### What is written out is read -/

theorem Formula.Operation.valid_operator (op : Formula.Operation) (mode : Mode) :
    (Lexeme.operator op.char).Valid mode := .operator (by cases op <;> decide)

namespace Arithmetic

theorem toList_signText (op : Formula.Operation) :
    (signText op).toList = ' ' :: (op.char :: [' ']) := String.toList_ofList

theorem spells_signText (op : Formula.Operation) (mode : Mode) :
    (Template.ofText (ω := ω) (signText op)).Spells mode [.lexeme (.operator op.char)] := by
  have hstarts : (Lexeme.operator op.char).Starts mode ([op.char] ++ [' ']) :=
    (Lexeme.starts_chars (op.valid_operator mode)).append (Lexeme.apart_blank (by decide) _ _).1
  have hspells : Spells mode (signText op).toList [.operator op.char] := by
    rw [toList_signText]
    exact .blank (by decide) (.lexeme hstarts (.blank (by decide) .nil))
  exact .last hspells

/-- **The arithmetic that is written out** is spelled in its items. -/
theorem spells_written (c : Arithmetic ω) (mode : Mode) : c.written.Spells mode c.items := by
  induction c with
  | leaf o =>
    have hempty : Spells mode "".toList [] := by
      rw [String.toList_empty]
      exact .nil
    exact .more hempty (.last hempty)
  | node op left right ihl ihr =>
    have hopening : (Template.ofText (ω := ω) "(").Spells mode [.lexeme .opening] :=
      (Template.spells_lexeme_iff .opening (by decide)).2 rfl
    have hclosing : (Template.ofText (ω := ω) ")").Spells mode [.lexeme .closing] :=
      (Template.spells_lexeme_iff .closing (by decide)).2 rfl
    -- the parentheses and the blanks around the sign keep the lexemes on either side apart
    have hleft : (.ofText "(" ++ left.written).Spells mode (.lexeme .opening :: left.items) := by
      refine (Template.spells_append_iff ?_).2 ⟨_, _, rfl, hopening, ihl⟩
      have hlast : "(".toList = [] ++ ['('] := by decide
      change Lexeme.Apart mode "(".toList left.written.first.toList
      rw [hlast]
      exact (Lexeme.separates_opening mode).apart_right
    have hsign : (.ofText "(" ++ left.written ++ .ofText (signText op)).Spells mode
        (.lexeme .opening :: left.items ++ [.lexeme (.operator op.char)]) := by
      refine (Template.spells_append_iff ?_).2 ⟨_, _, rfl, hleft, spells_signText op mode⟩
      change Lexeme.Apart mode _ (signText op).toList
      rw [toList_signText]
      exact (Lexeme.apart_blank (by decide) _ _).1
    have hright : (.ofText "(" ++ left.written ++ .ofText (signText op) ++ right.written).Spells
        mode (.lexeme .opening :: left.items ++ [.lexeme (.operator op.char)] ++ right.items) := by
      refine (Template.spells_append_iff ?_).2 ⟨_, _, rfl, hsign, ihr⟩
      have hblank : Text.isBlank ' ' = true := by decide
      rw [Template.last_append_ofText, String.toList_append, toList_signText,
        List.append_cons, List.append_cons]
      exact (Lexeme.apart_blank hblank _ _).2
    have hall : (node op left right).written.Spells mode (.lexeme .opening :: left.items ++
        [.lexeme (.operator op.char)] ++ right.items ++ [.lexeme .closing]) := by
      refine (Template.spells_append_iff ?_).2 ⟨_, _, rfl, hright, hclosing⟩
      have hfirst : ")".toList = [')'] := by decide
      change Lexeme.Apart mode _ ")".toList
      rw [hfirst]
      exact (Lexeme.separates_closing mode).apart_left
    simpa [items] using hall

theorem says_written (c : Arithmetic ω) : c.written.Says c.formula :=
  ⟨c.items, c.spells_written .expression, .product (.primary c.says_items)⟩

end Arithmetic

/-! ### Operators and operations -/

section Operators

variable {ν α : Type} [Name ν] [Scalar α] {name : Var → ν}

/-- The operator of an operation. -/
def Formula.Operation.operator (name : Var → ν) :
    Formula.Operation → Operand ν α → Operand ν α → Except AlgebraError (Affine ν α)
  | plus => Operand.plus name
  | minus => Operand.minus name
  | times => Operand.times name
  | dividedBy => Operand.dividedBy name

namespace Operand

/-- The operand as a leaf of a tree: a number as it is, and a variable or an expression lifted. -/
inductive LiftsTo (name : Var → ν) : Operand ν α → Operand ν α → Prop
  | number (n : α) : LiftsTo name (.number n) (.number n)
  | affine {o : Operand ν α} {e : Affine ν α} :
      o.isAffine = true → o.lift name = .ok e → LiftsTo name o (.expression e)

/-- The errors are of one class. -/
def SameClass (e e' : AlgebraError) : Prop := e.errorClass = e'.errorClass

variable {a b a' b' : Operand ν α}

theorem addScaled_congr {k : Operand ν α} (ha : a.lift name = a'.lift name)
    (hb : b.lift name = b'.lift name) : addScaled name a k b = addScaled name a' k b' := by
  unfold addScaled
  cases k with
  | number k => simp only [ha, hb]
  | _ => rfl

omit [Scalar α] in
/-- A result of an operator as the one of an operation. -/
theorem alike_map {x x' : Except AlgebraError (Affine ν α)} (h : x = x') :
    Except.Alike SameClass (fun e c => c = .expression e) x (x'.map expression) := by
  subst h
  cases x with
  | error e => exact .error rfl
  | ok e => exact .ok rfl

omit [Scalar α] in
theorem isNumber_of_isAffine (h : a.isAffine = true) : a.isNumber = false := by
  cases a with
  | number n => cases h
  | _ => rfl

/-- **A number and an expression**: only by the expression it cannot be divided. -/
theorem operator_alike_number (op : Formula.Operation) (m : α) {e : Affine ν α}
    (hb : b.isAffine = true) (hl : b.lift name = .ok e) :
    Except.Alike SameClass (fun e c => c = .expression e) (op.operator name (.number m) b)
      (apply name (String.singleton op.char) (.number m) (.expression e)) := by
  have haffine : (number m : Operand ν α).isAffine = false := rfl
  have hnumber : (number m : Operand ν α).isNumber = true := rfl
  have hmeets : meets (number m) b = true := by simp [meets, hb, hnumber]
  cases op with
  | plus => exact alike_map ((if_pos hmeets).trans (addScaled_congr rfl hl))
  | minus => exact alike_map ((if_pos hmeets).trans (addScaled_congr rfl hl))
  | times =>
    have htimes : times name (number m) b = scale name (number m) b := by
      simp [times, hb, haffine, hnumber]
    exact alike_map (htimes.trans (addScaled_congr rfl hl))
  | dividedBy =>
    have hdivided : dividedBy name (number m) b = .error .numberOverExpression := by
      simp [dividedBy, hb, haffine, hnumber]
    change Except.Alike _ _ (dividedBy name (number m) b) (.error AlgebraError.nonConstantDivisor)
    rw [hdivided]
    exact .error rfl

/-- **An expression and a number**, which it can be divided by. -/
theorem operator_alike_of_number (op : Formula.Operation) (n : α) {e : Affine ν α}
    (ha : a.isAffine = true) (hl : a.lift name = .ok e) :
    Except.Alike SameClass (fun e c => c = .expression e) (op.operator name a (.number n))
      (apply name (String.singleton op.char) (.expression e) (.number n)) := by
  have hmeets : meets a (number n) = true := by simp [meets, ha, isNumber]
  cases op with
  | plus => exact alike_map ((if_pos hmeets).trans (addScaled_congr hl rfl))
  | minus => exact alike_map ((if_pos hmeets).trans (addScaled_congr hl rfl))
  | times =>
    have htimes : times name a (number n) = scale name (number n) a := by
      simp [times, ha, isNumber]
    exact alike_map (htimes.trans (addScaled_congr rfl hl))
  | dividedBy =>
    have hdivided : dividedBy name a (number n) = divide name a (number n) := by
      simp [dividedBy, ha, isNumber]
    refine alike_map (hdivided.trans ?_)
    unfold divide
    exact bind_congr fun k => addScaled_congr rfl hl

/-- **Two expressions**, of which there is neither a product nor a quotient. -/
theorem operator_alike_affine (op : Formula.Operation) {e f : Affine ν α} (ha : a.isAffine = true)
    (hl : a.lift name = .ok e) (hb : b.isAffine = true) (hm : b.lift name = .ok f) :
    Except.Alike SameClass (fun e c => c = .expression e) (op.operator name a b)
      (apply name (String.singleton op.char) (.expression e) (.expression f)) := by
  have hnumber : b.isNumber = false := isNumber_of_isAffine hb
  have hmeets : meets a b = true := by simp [meets, ha, hb]
  cases op with
  | plus => exact alike_map ((if_pos hmeets).trans (addScaled_congr hl hm))
  | minus => exact alike_map ((if_pos hmeets).trans (addScaled_congr hl hm))
  | times =>
    have htimes : times name a b = .error .productOfExpressions := by
      simp [times, ha, hb, hnumber]
    change Except.Alike _ _ (times name a b) (.error AlgebraError.nonLinearProduct)
    rw [htimes]
    exact .error rfl
  | dividedBy =>
    have hdivided : dividedBy name a b = .error .quotientOfExpressions := by
      simp [dividedBy, ha, hb, hnumber]
    change Except.Alike _ _ (dividedBy name a b) (.error AlgebraError.nonConstantDivisor)
    rw [hdivided]
    exact .error rfl

/-- **An operator does what the operation does**, unless both sides are numbers. -/
theorem operator_alike (op : Formula.Operation) (ha : a.LiftsTo name a') (hb : b.LiftsTo name b')
    (hab : (a.isNumber && b.isNumber) = false) :
    Except.Alike SameClass (fun e c => c = .expression e) (op.operator name a b)
      (apply name (String.singleton op.char) a' b') := by
  cases ha with
  | number m =>
    cases hb with
    | number n => cases hab
    | affine hb hl => exact operator_alike_number op m hb hl
  | affine ha hl =>
    cases hb with
    | number n => exact operator_alike_of_number op n ha hl
    | affine hb hm => exact operator_alike_affine op ha hl hb hm

end Operand

/-! ### Calculations and trees -/

theorem Operand.isAffine_of_lift {o : Operand ν α} {e : Affine ν α} (hn : o.isNumber = false)
    (h : o.lift name = .ok e) : o.isAffine = true := by
  cases o with
  | number n => cases hn
  | other o => simp [lift] at h
  | _ => rfl

namespace Arithmetic

/-- **The arithmetic calculated with the operators**, from its leaves upwards. -/
def calculate (name : Var → ν) : Arithmetic (Operand ν α) → Except AlgebraError (Operand ν α)
  | leaf o => .ok o
  | node op left right => do
    let a ← left.calculate name
    let b ← right.calculate name
    return .expression (← op.operator name a b)

/-- The arithmetic is a number alone. -/
def isNumber : Arithmetic (Operand ν α) → Bool
  | leaf o => o.isNumber
  | node .. => false

/-- No operation has a number alone on both sides. -/
def Mixed : Arithmetic (Operand ν α) → Prop
  | leaf _ => True
  | node _ left right => (left.isNumber && right.isNumber) = false ∧ left.Mixed ∧ right.Mixed

/-- Every operand is a number, an expression, or a variable under a name that can be filed. -/
def Liftable (name : Var → ν) (c : Arithmetic (Operand ν α)) : Prop :=
  ∀ o ∈ c.operands, ∃ e, o.lift name = .ok e

/-- **The tree has the value** that the operators make, or is refused with an error of the same
class. -/
theorem calculate_alike {c : Arithmetic (Operand ν α)} {tree : Tree (Operand ν α)}
    (h : c.formula.Builds name tree) (hc : c.Mixed) :
    Except.Alike Operand.SameClass (fun a a' => a.isNumber = c.isNumber ∧ a.LiftsTo name a')
      (c.calculate name) (tree.evaluate name) := by
  induction c generalizing tree with
  | leaf o =>
    cases h with
    | number n => exact .ok ⟨rfl, .number n⟩
    | lifted hn he => exact .ok ⟨rfl, .affine (Operand.isAffine_of_lift hn he) he⟩
  | node op left right ihl ihr =>
    obtain ⟨hnumbers, hl, hr⟩ := hc
    cases h with
    | binary hleft hright =>
      rw [Tree.evaluate_binary]
      refine (ihl hleft hl).bind fun a a' ha => (ihr hright hr).bind fun b b' hb => ?_
      have hop := Operand.operator_alike op ha.2 hb.2 (by rw [ha.1, hb.1, hnumbers])
      rcases hop.ok_or_error with ⟨e, _, he, he', rfl⟩ | ⟨err, err', he, he', hclass⟩
      · rw [he, he']
        exact .ok ⟨rfl, .affine rfl rfl⟩
      · rw [he, he']
        exact .error hclass

/-- The calculation of an operation makes an expression. -/
theorem exists_expression {op : Formula.Operation} {left right : Arithmetic (Operand ν α)}
    {a : Operand ν α} (h : (node op left right).calculate name = .ok a) :
    ∃ e, a = .expression e := by
  simp only [calculate, Except.bind_eq_ok_iff, Except.pure_eq_ok_iff] at h
  obtain ⟨-, -, -, -, e, -, rfl⟩ := h
  exact ⟨e, rfl⟩

end Arithmetic

/-! ### Calculations and sources -/

/-- Items can be read if their operands can. -/
theorem ReadAs.exists_of_operands {β κ : Type} {value : Numeral → β}
    {read : ω → Except κ (Symbol β)} {is : List (SourceItem ω)}
    (h : ∀ o ∈ is.filterMap SourceItem.operand?, ∃ s, read o = .ok s) (complete : Bool) :
    ∃ ss, ReadAs value read complete is ss := by
  induction is generalizing complete with
  | nil => exact ⟨[], .nil⟩
  | cons i is ih =>
    cases i with
    | lexeme l =>
      obtain ⟨ss, hss⟩ := ih h l.completes
      exact ⟨_, hss.lexeme ⟨none, none⟩⟩
    | operand o =>
      obtain ⟨⟨s, hs⟩, h⟩ := List.forall_mem_cons.1 h
      obtain ⟨ss, hss⟩ := ih h true
      exact ⟨s :: ss, .item (Bool.and_false _) (.operand hs) hss⟩

/-- A template is read as the tree of what it says, if its operands can be lifted. -/
theorem Template.Says.exists_builds {t : Template (Operand ν α)} {f : Formula (Operand ν α)}
    (h : t.Says f) (hf : ∀ o ∈ f.operands, ∃ e, o.lift name = .ok e) :
    ∃ tree, Tree.ofFeed (t.tokens name .expression) = .ok tree ∧ f.Builds name tree := by
  obtain ⟨is, his, hsum⟩ := h
  have hread : ∀ o ∈ is.filterMap SourceItem.operand?, ∃ s, o.symbol name = .ok s := by
    rw [← hsum.operands_eq]
    intro o ho
    obtain ⟨e, he⟩ := hf o ho
    cases o with
    | number n => exact ⟨_, rfl⟩
    | _ =>
      have hsymbol := congrArg (Except.map fun e => Symbol.expression (Operand.expression e)) he
      exact ⟨_, hsymbol⟩
  obtain ⟨ss, hss⟩ := ReadAs.exists_of_operands hread false
  obtain ⟨tree, htree, hbuilds⟩ := hsum.isSum hss
  obtain ⟨ho, rfl⟩ := Template.reads_iff.1 ⟨is, his, hss⟩
  exact ⟨tree, ofFeed_eq_ok_iff_isSum.2 ⟨ho, htree⟩, hbuilds⟩

/-- **The evaluation agrees with the calculation**: it has the value of the calculation if the line
in the log can be written, and fails for the name or the number in the line that cannot; a
calculation that is refused is so by the evaluation with an error of the same class. -/
structure Template.Agrees (name : Var → ν) (t : Template (Operand ν α))
    (calculated : Except AlgebraError (Operand ν α))
    (evaluated : Except (SourceError ν α) (Affine ν α)) : Prop where
  expression : ∀ a, calculated = .ok a → ∃ e, a = .expression e
  value : ∀ e, evaluated = .ok e ↔
    calculated = .ok (.expression e) ∧ ∃ line, t.logLine name e = .ok line
  refused : ∀ err, calculated = .error err →
    ∃ err', evaluated = .error err' ∧ err'.errorClass = err.errorClass
  unwritten : ∀ e err, calculated = .ok (.expression e) → t.logLine name e = .error err →
    evaluated = .error (.ofName err)

namespace Template

variable {t : Template (Operand ν α)} {e : Affine ν α}

/-- A value that is told in the log. -/
theorem agrees_of_ok : t.Agrees name (.ok (.expression e))
    (do
      discard ((t.logLine name e).mapError .ofName)
      return e) where
  expression a ha := ⟨e, (Except.ok.inj ha).symm⟩
  value e' := by
    simp only [Except.bind_eq_ok_iff, Except.discard_eq_ok_iff, Except.mapError_eq_ok_iff,
      Except.pure_eq_ok_iff, Except.ok.injEq, Operand.expression.injEq]
    constructor
    · rintro ⟨-, hline, rfl⟩
      exact ⟨rfl, hline⟩
    · rintro ⟨rfl, hline⟩
      exact ⟨⟨⟩, hline, rfl⟩
  refused err h := by cases h
  unwritten e' err he hline := by
    obtain rfl : e = e' := Operand.expression.inj (Except.ok.inj he)
    rw [hline]
    rfl

theorem agrees_of_error {err err' : AlgebraError} (h : Operand.SameClass err err') :
    t.Agrees name (.error err) (.error (.algebra err')) where
  expression a ha := by cases ha
  value e' := by simp
  refused _ he := by
    obtain rfl := Except.error.inj he
    exact ⟨_, rfl, h.symm⟩
  unwritten e' _ he := by cases he

end Template

namespace Arithmetic

variable {op : Formula.Operation} {left right : Arithmetic (Operand ν α)}

/-- Every template that says the arithmetic, with parentheses or without, agrees with it. -/
theorem agrees_of_template {t : Template (Operand ν α)} (h : t.Says (node op left right).formula)
    (hmixed : (node op left right).Mixed) (hlift : (node op left right).Liftable name) :
    t.Agrees name ((node op left right).calculate name) (t.evaluate name) := by
  rw [Liftable, ← operands_formula] at hlift
  obtain ⟨tree, htree, hbuilds⟩ := h.exists_builds hlift
  have htoAffine : t.toAffine name = (tree.toAffine name).mapError .algebra := by
    rw [Template.toAffine, htree]
    rfl
  rw [Template.evaluate_eq_bind, htoAffine, Tree.toAffine]
  rcases (calculate_alike hbuilds hmixed).ok_or_error with
    ⟨a, a', ha, ha', -, hlifts⟩ | ⟨err, err', herr, herr', hclass⟩
  · obtain ⟨e, rfl⟩ := exists_expression ha
    cases hlifts with
    | affine _ hl =>
      obtain rfl := Except.ok.inj hl
      rw [ha, ha']
      exact Template.agrees_of_ok
  · rw [herr, herr']
    exact Template.agrees_of_error hclass

/-- **Operators and sources agree**, as far as the log does not get in the way. Arithmetic with an
operation in it, and none between two numbers, comes to the same with the operators and as a format
string with parentheses around every operation and its operands at the placeholders. -/
theorem evaluate_written (hmixed : (node op left right).Mixed)
    (hlift : (node op left right).Liftable name) (refusal : SourceError ν α) :
    (node op left right).written.Agrees name ((node op left right).calculate name)
      ((Given.source (.format (node op left right).written.format)).evaluate name refusal
        (node op left right).operands) := by
  rw [Given.evaluate, toTemplate_written]
  exact agrees_of_template (node op left right).says_written hmixed hlift

end Arithmetic

end Operators

namespace Arithmetic

/-- `(True * x) - 3`, a truth value being a number. -/
def onceLessThree : Arithmetic (Operand String Number) :=
  .node .minus (.node .times (.leaf (.number (.truth true))) (.leaf (.var ⟨0⟩)))
    (.leaf (.number (.whole 3)))

theorem evaluate_onceLessThree : onceLessThree.Mixed ∧ onceLessThree.Liftable (fun _ => "x") ∧
    onceLessThree.written.Agrees (fun _ => "x") (onceLessThree.calculate fun _ => "x")
      ((Given.source (.format onceLessThree.written.format)).evaluate (fun _ => "x")
        .operandsOfValue onceLessThree.operands) := by
  have hmixed : onceLessThree.Mixed := ⟨rfl, ⟨rfl, trivial, trivial⟩, trivial⟩
  have hlift : onceLessThree.Liftable (fun _ => "x") := by
    intro o ho
    simp only [onceLessThree, operands, List.mem_append, List.mem_singleton] at ho
    rcases ho with (rfl | rfl) | rfl <;> exact ⟨_, rfl⟩
  exact ⟨hmixed, hlift, evaluate_written hmixed hlift _⟩

/-- An integer that has too many digits to be written, less itself. The one is an expression and the
other a number. -/
def giantLessItself : Arithmetic (Operand String Number) :=
  .node .minus (.leaf (.expression (.ofNumber (.whole (10 ^ 4300)))))
    (.leaf (.number (.whole (10 ^ 4300))))

/-- The operators find a value where the evaluation of the source fails. -/
theorem evaluate_giantLessItself :
    giantLessItself.Mixed ∧ giantLessItself.Liftable (fun _ => "x") ∧
    (∃ e, giantLessItself.calculate (fun _ => "x") = .ok (.expression e)) ∧
    ∀ e, (Given.source (.format giantLessItself.written.format)).evaluate (fun _ => "x")
      .operandsOfValue giantLessItself.operands ≠ .ok e := by
  have hmixed : giantLessItself.Mixed := ⟨rfl, trivial, trivial⟩
  have hlift : giantLessItself.Liftable (fun _ => "x") := by
    intro o ho
    simp only [giantLessItself, operands, List.mem_append, List.mem_singleton] at ho
    rcases ho with rfl | rfl <;> exact ⟨_, rfl⟩
  have hcalculate : (giantLessItself.calculate fun _ => "x").toOption.isSome = true := by
    decide +kernel
  have hevaluate : ((Given.source (.format giantLessItself.written.format)).evaluate
      (fun _ => "x") .operandsOfValue giantLessItself.operands).toOption.isSome = false := by
    decide +kernel
  obtain ⟨a, ha⟩ := Except.isSome_toOption_iff.1 hcalculate
  obtain ⟨e, rfl⟩ := exists_expression ha
  refine ⟨hmixed, hlift, ⟨e, ha⟩, fun e' he' => ?_⟩
  rw [Except.isSome_toOption_iff.2 ⟨e', he'⟩] at hevaluate
  exact absurd hevaluate.symm Bool.false_ne_true

end Arithmetic

end Milp
