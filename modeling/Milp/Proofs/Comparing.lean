import Milp.Number
import Milp.Proofs.Nesting

/-!
# Two sides around a comparator

A constraint is read as two expressions around one comparator. Comparators are made of characters
that nothing else has in it, so what a template is spelled in tells how many of these characters
there are in it: two for every comparator. With one comparator among the items the two templates
around it have none of these characters, so nothing can reach over the seams, and no comparator,
so they are spelled in the same items as expressions.

The value of an expression is not all that is asked for when an expression is evaluated: a line of a
log is written too. No such line is written for a constraint.
-/

namespace Milp

open Grammar

variable {ω : Type} {mode : Mode}

/-! ### The characters of comparators -/

namespace Lexeme

/-- The character is one that comparators are made of. -/
def isRelation (c : Char) : Bool := c = '<' || c = '=' || c = '>'

def isComparator : Lexeme → Bool
  | comparator _ => true
  | _ => false

variable {l : Lexeme} {c : Char}

theorem eq_of_isRelation (h : isRelation c = true) : c = '<' ∨ c = '=' ∨ c = '>' := by
  simpa [isRelation, or_assoc] using h

theorem isRelation_of_isBlank (h : Text.isBlank c = true) : isRelation c = false := by
  rw [← Bool.not_eq_true]
  intro hc
  obtain rfl | rfl | rfl := eq_of_isRelation hc <;> exact absurd h (by decide)

/-- A comparator has nothing but these characters in it, any other lexeme none of them. -/
theorem isRelation_of_mem_chars (h : l.Valid mode) (hc : c ∈ l.chars) :
    isRelation c = l.isComparator := by
  cases h with
  | numeral hn =>
    change isRelation c = false
    rw [← Bool.not_eq_true]
    intro hrel
    have := numeral_of_mem_chars hn hc
    obtain rfl | rfl | rfl := eq_of_isRelation hrel <;> exact absurd this (by decide)
  | operator ho =>
    obtain rfl := List.mem_singleton.1 hc
    simpa [isComparator] using forall_operator (fun c => !isRelation c) (by decide) ho
  | opening | closing =>
    obtain rfl := List.mem_singleton.1 hc
    decide
  | comparator s _ =>
    rw [chars_comparator] at hc
    cases s <;> simp only [List.mem_cons, List.not_mem_nil, or_false] at hc <;>
      obtain rfl | rfl := hc <;> decide

theorem countP_chars (h : l.Valid mode) :
    l.chars.countP isRelation = if l.isComparator then 2 else 0 := by
  cases hl : l.isComparator with
  | false =>
    exact List.countP_eq_zero.2 fun c hc => by simp [isRelation_of_mem_chars h hc, hl]
  | true =>
    have hall : ∀ c ∈ l.chars, isRelation c = true := by
      intro c hc
      rw [isRelation_of_mem_chars h hc, hl]
    rw [List.countP_eq_length.2 hall]
    cases l with
    | comparator s => cases s <;> decide
    | _ => exact absurd hl Bool.false_ne_true

/-- A comparator stands apart from texts that have none of these characters. -/
theorem apart_comparator {cs ds : List Char} {x : Sense}
    (hcs : ∀ c ∈ cs, isRelation c = false) (hds : ∀ c ∈ ds, isRelation c = false) :
    Apart mode cs (comparator x).chars ∧ Apart mode (cs ++ (comparator x).chars) ds := by
  have hvalid : (comparator x).Valid .constraint := .comparator x rfl
  have hall : ∀ c ∈ (comparator x).chars, isRelation c = true :=
    fun c hc => isRelation_of_mem_chars hvalid hc
  -- a lexeme has these characters on both sides of the seam or on none
  have hmixed : ∀ l : Lexeme, l.Valid mode → ∀ c ∈ l.chars, ∀ d ∈ l.chars,
      isRelation c = isRelation d := by
    intro l hl c hc d hd
    rw [isRelation_of_mem_chars hl hc, isRelation_of_mem_chars hl hd]
  constructor
  · refine apart_of_ends fun l hl c hc d hd hc' hd' => ?_
    have h := hmixed l hl c hc' d hd'
    rw [hcs c (List.mem_of_getLast? hc), hall d (List.mem_of_head? hd)] at h
    exact absurd h Bool.false_ne_true
  · refine apart_of_ends fun l hl c hc d hd hc' hd' => ?_
    have h := hmixed l hl c hc' d hd'
    have hc : c ∈ (comparator x).chars.getLast? := by
      cases x <;> simpa [chars_comparator, List.getLast?_append] using hc
    rw [hall c (List.mem_of_getLast? hc), hds d (List.mem_of_head? hd)] at h
    exact absurd h.symm Bool.false_ne_true

end Lexeme

/-! ### How many there are -/

/-- There are two of these characters for every comparator that a text is spelled in. -/
theorem Spells.countP_isRelation {cs : List Char} {ls : List Lexeme} (h : Spells mode cs ls) :
    cs.countP Lexeme.isRelation = 2 * ls.countP Lexeme.isComparator := by
  induction h with
  | nil => rfl
  | blank hblank _ ih =>
    rw [List.countP_cons_of_neg (by simp [Lexeme.isRelation_of_isBlank hblank]), ih]
  | @lexeme l cs ls hl _ ih =>
    rw [List.countP_append, Lexeme.countP_chars hl.valid, ih, List.countP_cons]
    split <;> omega

namespace SourceItem

def isComparator : SourceItem ω → Bool
  | lexeme l => l.isComparator
  | operand _ => false

theorem countP_isComparator_map (ls : List Lexeme) :
    (ls.map lexeme : List (SourceItem ω)).countP isComparator =
      ls.countP Lexeme.isComparator := by
  rw [List.countP_map]
  rfl

end SourceItem

namespace Template

/-- How many characters of comparators there are in a template. -/
def relations (t : Template ω) : Nat :=
  t.sequence.countP (Sum.elim Lexeme.isRelation fun _ => false)

theorem relations_append (t u : Template ω) : (t ++ u).relations = t.relations + u.relations := by
  rw [relations, sequence_append, List.countP_append]
  rfl

theorem relations_ofText (s : String) :
    (ofText s : Template ω).relations = s.toList.countP Lexeme.isRelation := by
  simp [relations, sequence, ofText, List.countP_map, Function.comp_def]

theorem relations_cons (segment : String) (o : ω) (next : String) (rest : List (ω × String)) :
    relations ⟨segment, (o, next) :: rest⟩ =
      segment.toList.countP Lexeme.isRelation + relations ⟨next, rest⟩ := by
  simp [relations, sequence, List.countP_map, Function.comp_def]

/-- **There are two of these characters for every comparator** that a template is spelled in. -/
theorem Spells.relations_eq {t : Template ω} {is : List (SourceItem ω)} (h : t.Spells mode is) :
    t.relations = 2 * is.countP SourceItem.isComparator := by
  obtain ⟨segment, rest⟩ := t
  change SpellsFrom mode segment rest is at h
  induction h with
  | last hls =>
    rw [SourceItem.countP_isComparator_map, ← hls.countP_isRelation]
    exact relations_ofText _
  | more hls _ ih =>
    rw [relations_cons, ih, hls.countP_isRelation, List.countP_append, List.countP_cons_of_neg
      Bool.false_ne_true, SourceItem.countP_isComparator_map]
    omega

/-- Without any of these characters there are none in the first and the last segment. -/
theorem isRelation_of_relations {t : Template ω} (h : t.relations = 0) :
    (∀ c ∈ t.first.toList, Lexeme.isRelation c = false) ∧
      ∀ c ∈ t.last.toList, Lexeme.isRelation c = false := by
  obtain ⟨segment, rest⟩ := t
  induction rest generalizing segment with
  | nil =>
    have h := List.countP_eq_zero.1 ((relations_ofText segment).symm.trans h)
    exact ⟨fun c hc => by simpa using h c hc, fun c hc => by simpa using h c hc⟩
  | cons p rest ih =>
    obtain ⟨hsegment, hrest⟩ := Nat.add_eq_zero_iff.1 ((relations_cons ..).symm.trans h)
    have hsegment := List.countP_eq_zero.1 hsegment
    exact ⟨fun c hc => by simpa using hsegment c hc, (ih p.2 hrest).2⟩

end Template

/-! ### From constraints to expressions -/

namespace Lexeme

variable {l : Lexeme} {cs : List Char}

theorem valid_expression_iff : l.Valid .expression ↔
    l.Valid .constraint ∧ l.isComparator = false := by
  constructor
  · intro h
    cases h with
    | numeral hn => exact ⟨.numeral hn, rfl⟩
    | operator hc => exact ⟨.operator hc, rfl⟩
    | opening => exact ⟨.opening, rfl⟩
    | closing => exact ⟨.closing, rfl⟩
    | comparator s hm => cases hm
  · rintro ⟨h, hl⟩
    cases h with
    | numeral hn => exact .numeral hn
    | operator hc => exact .operator hc
    | opening => exact .opening
    | closing => exact .closing
    | comparator s => exact absurd hl.symm Bool.false_ne_true

theorem starts_expression_iff : l.Starts .expression cs ↔
    l.Starts .constraint cs ∧ l.isComparator = false := by
  constructor
  · intro h
    obtain ⟨hv, hl⟩ := valid_expression_iff.1 h.valid
    refine ⟨⟨hv, h.stands, fun l' hl' hp => ?_⟩, hl⟩
    -- a comparator does not start as the lexeme does
    have hfirst : l'.isComparator = l.isComparator := by
      obtain ⟨x, xs, hx, -⟩ := hv.chars_head
      obtain ⟨y, ys, hy, -⟩ := hl'.chars_head
      obtain ⟨rest, rfl⟩ := h.stands
      rw [hx, hy, List.cons_append, List.cons_prefix_cons] at hp
      obtain rfl := hp.1
      rw [← isRelation_of_mem_chars hl' (by rw [hy]; exact List.mem_cons_self),
        isRelation_of_mem_chars hv (by rw [hx]; exact List.mem_cons_self)]
    exact h.longest l' (valid_expression_iff.2 ⟨hl', hfirst.trans hl⟩) hp
  · rintro ⟨h, hl⟩
    refine ⟨valid_expression_iff.2 ⟨h.valid, hl⟩, h.stands, fun l' hl' hp => ?_⟩
    exact h.longest l' (valid_expression_iff.1 hl').1 hp

end Lexeme

theorem spells_expression_iff {cs : List Char} {ls : List Lexeme} : Spells .expression cs ls ↔
    Spells .constraint cs ls ∧ ∀ l ∈ ls, l.isComparator = false := by
  constructor
  · intro h
    induction h with
    | nil => exact ⟨.nil, fun l hl => absurd hl List.not_mem_nil⟩
    | blank hblank _ ih => exact ⟨.blank hblank ih.1, ih.2⟩
    | lexeme hl _ ih =>
      obtain ⟨hl, hcomp⟩ := Lexeme.starts_expression_iff.1 hl
      exact ⟨.lexeme hl ih.1, List.forall_mem_cons.2 ⟨hcomp, ih.2⟩⟩
  · rintro ⟨h, hls⟩
    induction h with
    | nil => exact .nil
    | blank hblank _ ih => exact .blank hblank (ih hls)
    | lexeme hl _ ih =>
      obtain ⟨hcomp, hls⟩ := List.forall_mem_cons.1 hls
      exact .lexeme (Lexeme.starts_expression_iff.2 ⟨hl, hcomp⟩) (ih hls)

namespace Template

/-- **Templates without comparators are spelled alike** as expressions and in constraints. -/
theorem spells_expression_iff {t : Template ω} {is : List (SourceItem ω)} :
    t.Spells .expression is ↔ t.Spells .constraint is ∧ ∀ i ∈ is, i.isComparator = false := by
  obtain ⟨segment, rest⟩ := t
  constructor
  · intro h
    change SpellsFrom .expression segment rest is at h
    induction h with
    | last hls =>
      obtain ⟨hls, hcomp⟩ := Milp.spells_expression_iff.1 hls
      exact ⟨.last hls, List.forall_mem_map.2 hcomp⟩
    | more hls _ ih =>
      obtain ⟨hls, hcomp⟩ := Milp.spells_expression_iff.1 hls
      refine ⟨.more hls ih.1, List.forall_mem_append.2 ⟨List.forall_mem_map.2 hcomp, ?_⟩⟩
      exact List.forall_mem_cons.2 ⟨rfl, ih.2⟩
  · rintro ⟨h, his⟩
    change SpellsFrom .constraint segment rest is at h
    induction h with
    | last hls => exact .last (Milp.spells_expression_iff.2 ⟨hls, List.forall_mem_map.1 his⟩)
    | more hls _ ih =>
      obtain ⟨hcomp, his⟩ := List.forall_mem_append.1 his
      exact .more (Milp.spells_expression_iff.2 ⟨hls, List.forall_mem_map.1 hcomp⟩)
        (ih (List.forall_mem_cons.1 his).2)

/-- Two templates with a comparator between them. -/
def compared (s : Template ω) (c : Sense) (t : Template ω) : Template ω := s ++ ofText c.text ++ t

variable {s t : Template ω} {c c' : Sense} {is js : List (SourceItem ω)}

/-- **What two sides are spelled in** with a comparator between them, if that is the only one among
the items. -/
theorem spells_compared_iff (his : ∀ i ∈ is, i.isComparator = false)
    (hjs : ∀ i ∈ js, i.isComparator = false) :
    (s.compared c t).Spells .constraint (is ++ .lexeme (.comparator c') :: js) ↔
      c' = c ∧ s.Spells .expression is ∧ t.Spells .expression js := by
  have hnone : ∀ {ks : List (SourceItem ω)}, (∀ i ∈ ks, i.isComparator = false) →
      ks.countP SourceItem.isComparator = 0 := by
    intro ks hks
    exact List.countP_eq_zero.2 fun i hi => by simp [hks i hi]
  have hvalid : (Lexeme.comparator c).Valid .constraint := .comparator c rfl
  -- the two sides have none of the characters, so they stand apart from the comparator
  have haround : s.relations = 0 → t.relations = 0 → ∀ ks : List (SourceItem ω),
      (s.compared c t).Spells .constraint ks ↔
        ∃ ks₁ ks₂, ks = ks₁ ++ .lexeme (.comparator c) :: ks₂ ∧ s.Spells .constraint ks₁ ∧
          t.Spells .constraint ks₂ := by
    intro hs ht ks
    obtain ⟨hbefore, hbehind⟩ := Lexeme.apart_comparator (isRelation_of_relations hs).2
      (isRelation_of_relations ht).1 (x := c)
    exact spells_around_iff hvalid rfl hbefore hbehind
  rw [spells_expression_iff, spells_expression_iff]
  constructor
  · intro h
    have hcount := Spells.relations_eq h
    rw [compared, relations_append, relations_append, relations_ofText, List.countP_append,
      List.countP_cons, hnone his, hnone hjs,
      show c.text.toList.countP Lexeme.isRelation = 2 from Lexeme.countP_chars hvalid] at hcount
    simp only [SourceItem.isComparator, Lexeme.isComparator, if_true] at hcount
    obtain ⟨ks₁, ks₂, hks, h₁, h₂⟩ := (haround (by omega) (by omega) _).1 h
    have hmem : ∀ {ks : List (SourceItem ω)}, (∀ i ∈ ks, i.isComparator = false) →
        .lexeme (.comparator c) ∉ ks :=
      fun hks hmem => absurd (hks _ hmem).symm Bool.false_ne_true
    obtain ⟨rfl, hc, rfl⟩ := (List.append_cons_inj_of_notMem (hmem his) (hmem hjs)).1 hks
    cases hc
    exact ⟨rfl, ⟨h₁, his⟩, h₂, hjs⟩
  · rintro ⟨rfl, ⟨h₁, -⟩, h₂, -⟩
    have hs := Spells.relations_eq h₁
    have ht := Spells.relations_eq h₂
    rw [hnone his] at hs
    rw [hnone hjs] at ht
    exact (haround hs ht _).2 ⟨is, js, rfl, h₁, h₂⟩

end Template

/-! ### Comparators among symbols -/

/-- A tree shows no comparator. -/
theorem Tree.comparator_notMem_symbols {β : Type} (w : Word β) (t : Tree β) :
    .comparator w ∉ t.symbols := by
  induction t with
  | literal v | leaf v =>
    intro h
    cases List.mem_singleton.1 h
  | binary op t u iht ihu =>
    intro h
    obtain h | h := List.mem_append.1 h
    · exact iht h
    · obtain h | h := List.mem_cons.1 h
      · cases h
      · exact ihu h

theorem Grammar.IsSum.comparator_notMem {β : Type} {ss : List (Symbol β)} {t : Tree β}
    (h : IsSum ss t) (w : Word β) : .comparator w ∉ ss := by
  intro hw
  refine t.comparator_notMem_symbols w ?_
  rw [h.symbols_eq]
  exact List.mem_filter.2 ⟨hw, rfl⟩

/-- Comparators among items show among their symbols. -/
theorem ReadAs.exists_comparator {β κ : Type} {value : Numeral → β} {read : ω → Except κ (Symbol β)}
    {complete : Bool} {is : List (SourceItem ω)} {ss : List (Symbol β)}
    (h : ReadAs value read complete is ss) {i : SourceItem ω} (hi : i ∈ is)
    (hcomp : i.isComparator = true) : ∃ w, .comparator w ∈ ss := by
  induction h with
  | nil => exact absurd hi List.not_mem_nil
  | @item complete j s is ss hc hj _ ih =>
    obtain rfl | hi := List.mem_cons.1 hi
    · cases hj with
      | comparator x => exact ⟨_, List.mem_cons_self⟩
      | _ => exact absurd hcomp Bool.false_ne_true
    · obtain ⟨w, hw⟩ := ih hi
      exact ⟨w, List.mem_cons_of_mem _ hw⟩
  | @added j s is ss hc hj _ ih =>
    obtain rfl | hi := List.mem_cons.1 hi
    · obtain ⟨n, rfl, -⟩ := SourceItem.exists_of_isSigned hc
      exact absurd hcomp Bool.false_ne_true
    · obtain ⟨w, hw⟩ := ih hi
      exact ⟨w, List.mem_cons_of_mem _ (List.mem_cons_of_mem _ hw)⟩

/-- The items of a sum have no comparator among them. -/
theorem ReadAs.isComparator_eq_false {β κ : Type} {value : Numeral → β}
    {read : ω → Except κ (Symbol β)} {complete : Bool} {is : List (SourceItem ω)}
    {ss : List (Symbol β)} {t : Tree β} (h : ReadAs value read complete is ss) (ht : IsSum ss t) :
    ∀ i ∈ is, i.isComparator = false := by
  intro i hi
  rw [← Bool.not_eq_true]
  intro hcomp
  obtain ⟨w, hw⟩ := h.exists_comparator hi hcomp
  exact ht.comparator_notMem w hw

/-! ### Two sides and their values -/

variable {ν α : Type} [Name ν] [Scalar α] {name : Var → ν}

namespace Template

variable {s t : Template (Operand ν α)} {c : Sense}

/-- **The trees of the two sides** around a comparator are those of two expressions. -/
theorem ofFeed_compared_iff {x : Comparison (Operand ν α)} :
    Comparison.ofFeed ((s.compared c t).tokens name .constraint) = .ok x ↔
      x.comparator = .text c.text ∧ Tree.ofFeed (s.tokens name .expression) = .ok x.left ∧
        Tree.ofFeed (t.tokens name .expression) = .ok x.right := by
  have hside : ∀ {u : Template (Operand ν α)} {tree : Tree (Operand ν α)},
      Tree.ofFeed (u.tokens name .expression) = .ok tree ↔
        ∃ ss, u.Reads name ss ∧ IsSum ss tree := by
    intro u tree
    rw [ofFeed_eq_ok_iff_isSum]
    constructor
    · rintro ⟨ho, h⟩
      exact ⟨_, reads_iff.2 ⟨ho, rfl⟩, h⟩
    · rintro ⟨ss, hss, h⟩
      obtain ⟨ho, rfl⟩ := reads_iff.1 hss
      exact ⟨ho, h⟩
  rw [ofFeed_eq_ok_iff_isComparison, hside, hside]
  constructor
  · rintro ⟨ho, h⟩
    generalize hss : ((s.compared c t).tokens name .constraint).items.map Token.symbol = ss at h
    obtain ⟨ks, hks, hread⟩ := scan_eq_iff.1 ⟨ho, hss⟩
    obtain ⟨hl, hr⟩ := h
    obtain ⟨is, rest, after, rfl, his, hrest⟩ := hread.split (by simp)
    obtain ⟨c', js, rfl, rfl, hjs⟩ := hrest.comparator_cons
    obtain ⟨rfl, hs, ht⟩ := (spells_compared_iff (his.isComparator_eq_false hl)
      (hjs.isComparator_eq_false hr)).1 hks
    exact ⟨rfl, ⟨_, ⟨is, hs, his⟩, hl⟩, _, ⟨js, ht, hjs⟩, hr⟩
  · rintro ⟨hx, ⟨ss, ⟨is, hs, his⟩, hl⟩, us, ⟨js, ht, hjs⟩, hr⟩
    have hks : (s.compared c t).Spells .constraint (is ++ .lexeme (.comparator c) :: js) :=
      (spells_compared_iff (his.isComparator_eq_false hl) (hjs.isComparator_eq_false hr)).2
        ⟨rfl, hs, ht⟩
    have hread := his.append (.item (Bool.and_false _) (.comparator c) hjs)
    obtain ⟨ho, hsymbols⟩ := scan_eq_iff.2 ⟨_, hks, hread⟩
    refine ⟨ho, ?_⟩
    obtain ⟨l, w, r⟩ := x
    obtain rfl : w = .text c.text := hx
    exact hsymbols ▸ IsComparison.mk hl hr

/-- The expression that a template stands for, before a log has its line on it. -/
def toAffine (name : Var → ν) (t : Template (Operand ν α)) :
    Except (SourceError ν α) (Affine ν α) := do
  let tree ← (Tree.ofFeed (t.tokens name .expression)).mapError .ofRead
  (tree.toAffine name).mapError .algebra

/-- The evaluation goes on from there to the line in the log. -/
theorem evaluate_eq_bind (name : Var → ν) (t : Template (Operand ν α)) :
    t.evaluate name = t.toAffine name >>= fun e => do
      discard ((t.logLine name e).mapError .ofName)
      return e := by
  rw [evaluate, toAffine, bind_assoc]

/-- To be evaluated, a template needs its line in the log besides. -/
theorem evaluate_iff_toAffine {e : Affine ν α} : t.evaluate name = .ok e ↔
    t.toAffine name = .ok e ∧ ∃ line, t.logLine name e = .ok line := by
  simp only [evaluate_eq_bind, Except.bind_eq_ok_iff, Except.mapError_eq_ok_iff,
    Except.pure_eq_ok_iff, Except.discard_eq_ok_iff]
  constructor
  · rintro ⟨e', he, -, hline, rfl⟩
    exact ⟨he, hline⟩
  · rintro ⟨he, hline⟩
    exact ⟨e, he, ⟨⟩, hline, rfl⟩

/-- **The sides of a constraint** are the expressions of the templates around its comparator. -/
theorem evaluateConstraint_compared_iff {x : Affine ν α × String × Affine ν α} :
    (s.compared c t).evaluateConstraint name = .ok x ↔ ∃ l r, x = (l, c.text, r) ∧
      s.toAffine name = .ok l ∧ t.toAffine name = .ok r := by
  simp only [evaluateConstraint, toAffine, Except.bind_eq_ok_iff, Except.mapError_eq_ok_iff,
    Except.pure_eq_ok_iff, ofFeed_compared_iff]
  constructor
  · rintro ⟨⟨tl, w, tr⟩, ⟨rfl, htl, htr⟩, l, hl, r, hr, rfl⟩
    exact ⟨l, r, rfl, ⟨tl, htl, hl⟩, tr, htr, hr⟩
  · rintro ⟨l, r, rfl, ⟨tl, htl, hl⟩, tr, htr, hr⟩
    exact ⟨⟨tl, .text c.text, tr⟩, ⟨rfl, htl, htr⟩, l, hl, r, hr, rfl⟩

end Template

/-! ### Constraints of a problem -/

namespace Model

variable {δ : Type} [Inhabited (Variable ν δ)] {m : Model ν δ α} {g g' : Given ν α}
  {operands operands' : List (Operand ν α)}

/-- What a problem makes of a constraint depends on how it is read only. -/
theorem run_addConstraint_congr (h : readConstraint m.store.name g operands =
    readConstraint m.store.name g' operands') :
    (addConstraint g operands).run m = (addConstraint g' operands').run m := by
  unfold addConstraint
  simp only [EStateM.run_bind, EStateM.run_get, h]

theorem run_addConstraint_of_error {e : SourceError ν α}
    (h : readConstraint m.store.name g operands = .error e) :
    (addConstraint g operands).run m = .error (.source e) m := by
  unfold addConstraint
  simp only [EStateM.run_bind, EStateM.run_get, h]
  rfl

variable {c : Sense} {l r : Affine ν α}

theorem readConstraint_source {source : Source (Operand ν α)} {t : Template (Operand ν α)}
    (ht : source.toTemplate operands = .ok t) (h : t.evaluateConstraint name = .ok (l, c.text, r)) :
    readConstraint name (.source source) operands =
      (Constraint.compare name (.expression l) c (.expression r)).mapError .algebra := by
  simp only [readConstraint, ht, h, Except.mapError_ok, Except.ok_bind, compareText,
    Sense.ofText?_text]

theorem readConstraint_triple {left sense right : Operand ν α}
    (hsense : textOf? sense = some c.text) :
    readConstraint name (.operand left) [sense, right] =
      (Constraint.compare name left c right).mapError .algebra := by
  simp only [readConstraint, hsense, compareText, Sense.ofText?_text]
  rfl

end Model

namespace Template

/-- **A constraint is two expressions around a comparator.** With a comparator between them two
templates are read as a constraint exactly if either has a value as an expression, and these values
are its sides; to be evaluated as an expression, a template needs besides that its line in the log
can be written. As a source for a problem, the two with the comparator between them are the same as
the two values and the text of the comparator, and the same as the constraint that the operator `<=`
or `>=` makes of the two values. -/
theorem evaluateConstraint_compared (s t : Template (Operand ν α)) (c : Sense) :
    (∀ (name : Var → ν) x, (s.compared c t).evaluateConstraint name = .ok x ↔
      ∃ l r, x = (l, c.text, r) ∧ s.toAffine name = .ok l ∧ t.toAffine name = .ok r) ∧
    (∀ (name : Var → ν) (u : Template (Operand ν α)) e, u.evaluate name = .ok e ↔
      u.toAffine name = .ok e ∧ ∃ line, u.logLine name e = .ok line) ∧
    ∀ {δ : Type} [Inhabited (Variable ν δ)] (m : Model ν δ α) (source : Source (Operand ν α))
      operands sense l r, source.toTemplate operands = .ok (s.compared c t) →
      s.toAffine m.store.name = .ok l → t.toAffine m.store.name = .ok r →
      Model.textOf? sense = some c.text →
      (Model.addConstraint (.source source) operands).run m =
        (Model.addConstraint (.operand (.expression l)) [sense, .expression r]).run m ∧
      (c ≠ .eq → (Model.addConstraint (.source source) operands).run m =
        match Constraint.ofOperator m.store.name (.expression l) c (.expression r) with
        | .ok k => (Model.addConstraint (.constraint k) []).run m
        | .error e => .error (.source (.algebra e)) m) := by
  refine ⟨fun name x => evaluateConstraint_compared_iff, fun name u e => evaluate_iff_toAffine, ?_⟩
  intro δ _ m source operands sense l r hsource hl hr hsense
  have hread : Model.readConstraint m.store.name (.source source) operands =
      (Constraint.compare m.store.name (.expression l) c (.expression r)).mapError .algebra :=
    Model.readConstraint_source hsource (evaluateConstraint_compared_iff.2 ⟨l, r, rfl, hl, hr⟩)
  refine ⟨Model.run_addConstraint_congr (hread.trans (Model.readConstraint_triple hsense).symm),
    fun _ => ?_⟩
  -- between two expressions the operator is the comparison
  change _ = match Constraint.compare m.store.name (.expression l) c (.expression r) with
    | .ok k => (Model.addConstraint (.constraint k) []).run m
    | .error e => .error (.source (.algebra e)) m
  cases hk : Constraint.compare m.store.name (.expression l) c (.expression r) with
  | error e =>
    rw [hk] at hread
    exact Model.run_addConstraint_of_error hread
  | ok k =>
    rw [hk] at hread
    exact Model.run_addConstraint_congr hread

/-- `{} + 1<=2*{} -{}`, and its two sides by themselves. -/
theorem evaluateConstraint_plusOne : ∃ l r,
    (plusOne.compared .le twiceLess).evaluateConstraint Model.twins.store.name = .ok (l, "<=", r) ∧
    (Model.addConstraint (.source (.template (plusOne.compared .le twiceLess))) []).run
        Model.twins =
      (Model.addConstraint (.operand (.expression l))
        [Model.comparatorText .le, .expression r]).run Model.twins := by
  obtain ⟨l, hl⟩ := Except.isSome_toOption_iff.1
    (by decide +kernel : (plusOne.toAffine Model.twins.store.name).toOption.isSome = true)
  obtain ⟨r, hr⟩ := Except.isSome_toOption_iff.1
    (by decide +kernel : (twiceLess.toAffine Model.twins.store.name).toOption.isSome = true)
  obtain ⟨hsides, -, hadd⟩ := evaluateConstraint_compared plusOne twiceLess .le
  exact ⟨l, r, (hsides _ _).2 ⟨l, r, rfl, hl, hr⟩,
    (hadd Model.twins (.template _) [] (Model.comparatorText .le) l r rfl hl hr rfl).1⟩

/-- `{} - {}`, with an integer at both placeholders that has too many digits to be written. -/
def giants : Template (Operand String Number) :=
  ⟨"", [(.number (.whole (10 ^ 4300)), " - "), (.number (.whole (10 ^ 4300)), "")]⟩

/-- A side whose operands cannot be written cannot be evaluated by itself. -/
theorem evaluateConstraint_giants :
    (∃ x, (giants.compared .le (ofText "0")).evaluateConstraint (fun _ => "x") = .ok x) ∧
      ∀ e, giants.evaluate (fun _ => "x") ≠ .ok e := by
  have hgiants : (giants.evaluate fun _ => "x").toOption.isSome = false := by decide +kernel
  refine ⟨Except.isSome_toOption_iff.1 (by decide +kernel), fun e he => ?_⟩
  exact absurd (Except.isSome_toOption_iff.2 ⟨e, he⟩) (by simp [hgiants])

end Template

end Milp
