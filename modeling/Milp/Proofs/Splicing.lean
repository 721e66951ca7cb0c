import Milp.Proofs.Cutting
import Milp.Proofs.Saying

/-!
# Templates put together

A parenthesis is a lexeme of its own wherever it stands. So a template that is put together with
parentheses at the seams is spelled in the items of its parts, one part after the other. This is
what happens when a template is spliced into another one, in parentheses and in place of an operand:
`Template.spells_splice_iff`.
-/

namespace Milp

variable {ω : Type} {mode : Mode}

/-! ### Parentheses among lexemes -/

namespace Lexeme

/-- The lexeme is a single character that no other lexeme has in it. -/
structure Separates (mode : Mode) (b : Lexeme) (c : Char) : Prop where
  valid : b.Valid mode
  chars : b.chars = [c]
  only : ∀ l : Lexeme, l.Valid mode → c ∈ l.chars → l = b

theorem numeral_of_mem_body {n : Numeral} (h : n.Valid) {c : Char} (hc : c ∈ n.body) :
    Text.isDigit c ∨ c = '.' := by
  rw [Numeral.body, List.mem_append] at hc
  obtain hc | hc := hc
  · exact .inl (h.whole c hc)
  · unfold Numeral.fractionChars at hc
    split at hc
    · exact absurd hc List.not_mem_nil
    · obtain rfl | hc := List.mem_cons.1 hc
      · exact .inr rfl
      · exact .inl (h.fraction c hc)

theorem numeral_of_mem_chars {n : Numeral} (h : n.Valid) {c : Char} (hc : c ∈ n.chars) :
    Numeral.isSign c ∨ Text.isDigit c ∨ c = '.' := by
  rw [Numeral.chars_eq, List.mem_append] at hc
  obtain hc | hc := hc
  · exact .inl (h.sign c (by simpa using hc))
  · exact .inr (numeral_of_mem_body h hc)

/-- The characters of all lexemes but the two parentheses. -/
theorem of_mem_chars {l : Lexeme} (h : l.Valid mode) {c : Char} (hc : c ∈ l.chars) :
    l = .opening ∨ l = .closing ∨ c ≠ '(' ∧ c ≠ ')' := by
  cases h with
  | @numeral n hn =>
    refine .inr (.inr ⟨?_, ?_⟩) <;>
    · rintro rfl
      exact absurd (numeral_of_mem_chars hn hc) (by decide)
  | @operator d hd =>
    obtain rfl : c = d := List.mem_singleton.1 hc
    refine .inr (.inr ⟨?_, ?_⟩) <;>
    · rintro rfl
      exact absurd hd (by decide)
  | opening => exact .inl rfl
  | closing => exact .inr (.inl rfl)
  | comparator s _ =>
    rw [chars_comparator] at hc
    refine .inr (.inr ⟨?_, ?_⟩) <;>
    · rintro rfl
      cases s <;> exact absurd hc (by decide)

/-- No lexeme has a blank in it. -/
theorem Valid.notMem_chars {l : Lexeme} (hl : l.Valid mode) {w : Char}
    (hw : Text.isBlank w = true) : w ∉ l.chars := by
  intro hmem
  suffices Text.isBlank w = false by simp [hw] at this
  cases hl with
  | numeral hn =>
    rcases numeral_of_mem_chars hn hmem with hsign | hdigit | rfl
    · simp only [Numeral.isSign, Bool.or_eq_true, decide_eq_true_eq] at hsign
      rcases hsign with rfl | rfl <;> decide
    · exact isBlank_of_isDigit hdigit
    · decide
  | operator hop =>
    obtain rfl := List.mem_singleton.1 hmem
    simpa using forall_operator (fun c => !Text.isBlank c) (by decide) hop
  | opening | closing =>
    obtain rfl := List.mem_singleton.1 hmem
    decide
  | comparator s _ =>
    rw [chars_comparator] at hmem
    cases s <;> simp only [List.mem_cons, List.not_mem_nil, or_false] at hmem <;>
      rcases hmem with rfl | rfl <;> decide

theorem separates_opening (mode : Mode) : Separates mode .opening '(' := by
  refine ⟨.opening, rfl, fun l hl hc => ?_⟩
  obtain h | rfl | ⟨h, -⟩ := of_mem_chars hl hc
  · exact h
  · exact absurd hc (by decide)
  · exact absurd rfl h

theorem separates_closing (mode : Mode) : Separates mode .closing ')' := by
  refine ⟨.closing, rfl, fun l hl hc => ?_⟩
  obtain rfl | h | ⟨-, h⟩ := of_mem_chars hl hc
  · exact absurd hc (by decide)
  · exact h
  · exact absurd rfl h

namespace Separates

variable {b : Lexeme} {c : Char} {cs ds : List Char}

theorem length_le_one (hb : Separates mode b c) (l : Lexeme) (hl : l.Valid mode)
    (hc : c ∈ l.chars) : l.chars.length ≤ 1 := by
  rw [hb.only l hl hc, hb.chars]
  exact Nat.le_refl 1

/-- A text that starts with a separator stands apart from what is before it. -/
theorem apart_left (hb : Separates mode b c) : Apart mode cs (c :: ds) := by
  refine apart_of_ends fun l hl x _ y hy _ hmem => hb.length_le_one l hl ?_
  rwa [← Option.mem_some.1 hy] at hmem

/-- A text that ends in a separator stands apart from what is behind it. -/
theorem apart_right (hb : Separates mode b c) : Apart mode (cs ++ [c]) ds := by
  refine apart_of_ends fun l hl x hx y _ hmem _ => hb.length_le_one l hl ?_
  rw [List.getLast?_concat] at hx
  rwa [← Option.mem_some.1 hx] at hmem

end Separates

/-- A blank stands apart from what is before it and from what is behind it. -/
theorem apart_blank {w : Char} (hw : Text.isBlank w = true) (cs ds : List Char) :
    Apart mode cs (w :: ds) ∧ Apart mode (cs ++ [w]) ds := by
  constructor
  · refine apart_of_ends fun l hl x _ y hy _ hmem => absurd hmem ?_
    rw [← Option.mem_some.1 hy]
    exact hl.notMem_chars hw
  · refine apart_of_ends fun l hl x hx y _ hmem _ => absurd hmem ?_
    rw [List.getLast?_concat] at hx
    rw [← Option.mem_some.1 hx]
    exact hl.notMem_chars hw

end Lexeme

/-! ### Putting templates together -/

namespace Template

/-- A template without operands. -/
def ofText (s : String) : Template ω := ⟨s, []⟩

/-- Operands and segments after a segment, and then a template, with whose first segment the last
one goes on. -/
def extend (segment : String) (u : Template ω) : List (ω × String) → Template ω
  | [] => ⟨segment ++ u.first, u.rest⟩
  | (o, next) :: rest => ⟨segment, (o, (extend next u rest).first) :: (extend next u rest).rest⟩

/-- One template after the other. The last segment of the first one goes on with the first segment
of the second one. -/
instance : Append (Template ω) := ⟨fun t u => extend t.first u t.rest⟩

theorem operands_extend (segment : String) (u : Template ω) (rest : List (ω × String)) :
    (extend segment u rest).operands = rest.map Prod.fst ++ u.operands := by
  induction rest generalizing segment with
  | nil => rfl
  | cons p rest ih =>
    rw [List.map_cons, List.cons_append, ← ih p.2]
    rfl

@[simp] theorem operands_append (t u : Template ω) :
    (t ++ u).operands = t.operands ++ u.operands :=
  operands_extend ..

/-- The last segment. -/
def last (t : Template ω) : String := t.rest.foldl (fun _ p => p.2) t.first

theorem last_append_ofText (t : Template ω) (s : String) : (t ++ ofText s).last = t.last ++ s := by
  obtain ⟨segment, rest⟩ := t
  change Template.last (extend segment (ofText s) rest) = _
  induction rest generalizing segment with
  | nil => rfl
  | cons p rest ih => exact ih p.2

/-- The characters and the operands of a template, from left to right. -/
def sequence (t : Template ω) : List (Char ⊕ ω) :=
  t.first.toList.map .inl ++ t.rest.flatMap fun p => .inr p.1 :: p.2.toList.map .inl

theorem sequence_append (t u : Template ω) : (t ++ u).sequence = t.sequence ++ u.sequence := by
  obtain ⟨segment, rest⟩ := t
  change (extend segment u rest).sequence = _
  induction rest generalizing segment with
  | nil => simp [extend, sequence, String.toList_append]
  | cons p rest ih =>
    have h := ih p.2
    simp only [sequence, List.append_assoc] at h
    simp [extend, sequence, h]

/-- The template up to an operand. -/
def before (t : Template ω) (i : Nat) : Template ω := ⟨t.first, t.rest.take i⟩

/-- The template behind an operand. -/
def behind (t : Template ω) (i : Nat) : Template ω :=
  match t.rest.drop i with
  | [] => ofText ""
  | p :: rest => ⟨p.2, rest⟩

/-- The template with another operand in a place. -/
def set (t : Template ω) (i : Nat) (o : ω) : Template ω :=
  ⟨t.first, t.rest.modify i fun p => (o, p.2)⟩

/-- **The template with another one in place of an operand**, in parentheses. -/
def splice (t : Template ω) (i : Nat) (u : Template ω) : Template ω :=
  t.before i ++ ofText "(" ++ u ++ ofText ")" ++ t.behind i

variable {t u : Template ω} {i : Nat}

/-- What is written around a place stays, and in it comes the other template in parentheses. -/
theorem sequence_splice (t : Template ω) (i : Nat) (u : Template ω) : (t.splice i u).sequence =
    (t.before i).sequence ++ .inl '(' :: (u.sequence ++ .inl ')' :: (t.behind i).sequence) := by
  simp only [splice, sequence_append]
  simp [sequence, ofText]

/-- The operands around a place, the one in it left out. -/
theorem operands_splice (t : Template ω) (i : Nat) (u : Template ω) :
    (t.splice i u).operands = (t.before i).operands ++ u.operands ++ (t.behind i).operands := by
  rw [splice, operands_append, operands_append, operands_append, operands_append]
  simp [operands, ofText]

/-- The operand in a place stands between what is before and what is behind it. -/
theorem set_eq (hi : i < t.rest.length) (o : ω) : t.set i o =
    ⟨t.first, (t.before i).rest ++ (o, (t.behind i).first) :: (t.behind i).rest⟩ := by
  rw [set, List.modify_eq_take_cons_drop hi, behind, List.drop_eq_getElem_cons hi]
  rfl

theorem operands_set (hi : i < t.rest.length) (o : ω) :
    (t.set i o).operands = (t.before i).operands ++ o :: (t.behind i).operands := by
  rw [set_eq hi, operands, List.map_append]
  rfl

theorem sequence_set (hi : i < t.rest.length) (o : ω) :
    (t.set i o).sequence = (t.before i).sequence ++ .inr o :: (t.behind i).sequence := by
  rw [set_eq hi]
  simp [sequence, before]

end Template

/-! ### How they are spelled -/

namespace SpellsFrom

variable {o : ω} {segment next : String} {rest after : List (ω × String)}
  {is : List (SourceItem ω)}

/-- An operand divides what a template is spelled in. -/
theorem operand_iff : SpellsFrom mode segment (rest ++ (o, next) :: after) is ↔
    ∃ is₁ is₂, is = is₁ ++ .operand o :: is₂ ∧ SpellsFrom mode segment rest is₁ ∧
      SpellsFrom mode next after is₂ := by
  induction rest generalizing segment is with
  | nil =>
    constructor
    · rintro (_ | ⟨hls, h⟩)
      exact ⟨_, _, rfl, .last hls, h⟩
    · rintro ⟨is₁, is₂, rfl, ⟨hls⟩, h⟩
      exact .more hls h
  | cons p rest ih =>
    obtain ⟨o', next'⟩ := p
    constructor
    · rintro (_ | ⟨hls, h⟩)
      obtain ⟨is₁, is₂, rfl, h₁, h₂⟩ := ih.1 h
      exact ⟨_, is₂, (List.append_assoc _ (_ :: is₁) _).symm, .more hls h₁, h₂⟩
    · rintro ⟨is₁, is₂, rfl, _ | ⟨hls, h₁⟩, h₂⟩
      rw [List.append_assoc]
      exact .more hls (ih.2 ⟨_, is₂, rfl, h₁, h₂⟩)

/-- Of a segment that is cut in two the second part goes on with what comes after it. -/
theorem append_iff (hseam : Lexeme.Apart mode segment.toList next.toList) :
    SpellsFrom mode (segment ++ next) rest is ↔
      ∃ ls is₂, is = ls.map .lexeme ++ is₂ ∧ Spells mode segment.toList ls ∧
        SpellsFrom mode next rest is₂ := by
  have htext : (segment ++ next).toList = segment.toList ++ next.toList := String.toList_append
  constructor
  · rintro (hls | ⟨hls, h⟩)
    · rw [htext] at hls
      obtain ⟨ls₁, ls₂, rfl, h₁, h₂⟩ := hls.of_append hseam
      exact ⟨ls₁, ls₂.map .lexeme, List.map_append, h₁, .last h₂⟩
    · rw [htext] at hls
      obtain ⟨ls₁, ls₂, rfl, h₁, h₂⟩ := hls.of_append hseam
      refine ⟨ls₁, _, ?_, h₁, .more h₂ h⟩
      rw [List.map_append, List.append_assoc]
  · rintro ⟨ls, is₂, rfl, h₁, h₂⟩
    cases h₂ with
    | @last _ ls' hls =>
      rw [← List.map_append]
      exact .last (htext ▸ h₁.append hls hseam)
    | @more _ ls' o next rest is hls h =>
      rw [← List.append_assoc, ← List.map_append]
      exact .more (htext ▸ h₁.append hls hseam) h

end SpellsFrom

namespace Template

open Lexeme

/-- **Templates that stand apart** are spelled one after the other. -/
theorem spells_append_iff {t u : Template ω} (hseam : Apart mode t.last.toList u.first.toList)
    {is : List (SourceItem ω)} : (t ++ u).Spells mode is ↔
      ∃ is₁ is₂, is = is₁ ++ is₂ ∧ t.Spells mode is₁ ∧ u.Spells mode is₂ := by
  obtain ⟨segment, rest⟩ := t
  induction rest generalizing segment is with
  | nil =>
    constructor
    · intro h
      obtain ⟨ls, is₂, rfl, h₁, h₂⟩ := (SpellsFrom.append_iff hseam).1 h
      exact ⟨_, is₂, rfl, .last h₁, h₂⟩
    · rintro ⟨is₁, is₂, rfl, ⟨h₁⟩, h₂⟩
      exact (SpellsFrom.append_iff hseam).2 ⟨_, is₂, rfl, h₁, h₂⟩
  | cons p rest ih =>
    obtain ⟨o, next⟩ := p
    constructor
    · rintro (_ | ⟨hls, h⟩)
      obtain ⟨is₁, is₂, rfl, h₁, h₂⟩ := (ih next hseam).1 h
      exact ⟨_, is₂, (List.append_assoc _ (_ :: is₁) _).symm, .more hls h₁, h₂⟩
    · rintro ⟨is₁, is₂, rfl, _ | ⟨hls, h₁⟩, h₂⟩
      rw [List.append_assoc]
      exact .more hls ((ih next hseam).2 ⟨_, is₂, rfl, h₁, h₂⟩)

/-- A text of one lexeme is spelled in it. -/
theorem spells_lexeme_iff {l : Lexeme} (hl : l.Valid mode) {s : String} (hs : s.toList = l.chars)
    {is : List (SourceItem ω)} : (ofText s).Spells mode is ↔ is = [.lexeme l] := by
  constructor
  · rintro ⟨hls⟩
    rw [ofText, hs] at hls
    rw [(Spells.chars_iff hl).1 hls]
    rfl
  · rintro rfl
    exact .last (hs ▸ (Spells.chars_iff hl).2 rfl)

/-- **Templates around a lexeme** that stands apart from both are spelled around it. -/
theorem spells_around_iff {l : Lexeme} (hl : l.Valid mode) {s : String} (hs : s.toList = l.chars)
    {t u : Template ω} (hbefore : Apart mode t.last.toList l.chars)
    (hbehind : Apart mode (t.last.toList ++ l.chars) u.first.toList)
    {is : List (SourceItem ω)} : (t ++ ofText s ++ u).Spells mode is ↔
      ∃ is₁ is₂, is = is₁ ++ .lexeme l :: is₂ ∧ t.Spells mode is₁ ∧ u.Spells mode is₂ := by
  rw [spells_append_iff (by rwa [last_append_ofText, String.toList_append, hs])]
  constructor
  · rintro ⟨js, is₂, rfl, hjs, h₂⟩
    obtain ⟨is₁, ks, rfl, h₁, hks⟩ := (spells_append_iff (hs ▸ hbefore)).1 hjs
    obtain rfl := (spells_lexeme_iff hl hs).1 hks
    exact ⟨is₁, is₂, List.append_assoc .., h₁, h₂⟩
  · rintro ⟨is₁, is₂, rfl, h₁, h₂⟩
    refine ⟨is₁ ++ [.lexeme l], is₂, List.append_cons .., ?_, h₂⟩
    exact (spells_append_iff (hs ▸ hbefore)).2 ⟨is₁, _, rfl, h₁, (spells_lexeme_iff hl hs).2 rfl⟩

/-- A separator stands apart from everything around it. -/
theorem spells_separated_iff {b : Lexeme} {c : Char} (hb : b.Separates mode c) {s : String}
    (hs : s.toList = [c]) {t u : Template ω} {is : List (SourceItem ω)} :
    (t ++ ofText s ++ u).Spells mode is ↔
      ∃ is₁ is₂, is = is₁ ++ .lexeme b :: is₂ ∧ t.Spells mode is₁ ∧ u.Spells mode is₂ := by
  refine spells_around_iff hb.valid (hs.trans hb.chars.symm) ?_ ?_
  · rw [hb.chars]
    exact hb.apart_left
  · rw [hb.chars]
    exact hb.apart_right

/-- **What a template with another one in place of an operand is spelled in.** -/
theorem spells_splice_iff {t u : Template ω} {i : Nat} {is : List (SourceItem ω)} :
    (t.splice i u).Spells mode is ↔ ∃ is₁ is₂ js,
      is = is₁ ++ .lexeme .opening :: (js ++ .lexeme .closing :: is₂) ∧
      (t.before i).Spells mode is₁ ∧ u.Spells mode js ∧ (t.behind i).Spells mode is₂ := by
  have hopening : "(".toList = ['('] := by decide
  have hclosing : ")".toList = [')'] := by decide
  constructor
  · intro h
    obtain ⟨ks, is₂, rfl, hks, h₂⟩ := (spells_separated_iff (separates_closing mode) hclosing).1 h
    obtain ⟨is₁, js, rfl, h₁, hjs⟩ := (spells_separated_iff (separates_opening mode) hopening).1 hks
    exact ⟨is₁, is₂, js, List.append_assoc .., h₁, hjs, h₂⟩
  · rintro ⟨is₁, is₂, js, rfl, h₁, hjs, h₂⟩
    have hks := (spells_separated_iff (separates_opening mode) hopening).2 ⟨is₁, js, rfl, h₁, hjs⟩
    have h := (spells_separated_iff (separates_closing mode) hclosing).2 ⟨_, is₂, rfl, hks, h₂⟩
    rw [List.append_assoc] at h
    exact h

/-- What a template with an operand in a place is spelled in. -/
theorem spells_set_iff {t : Template ω} {i : Nat} (hi : i < t.rest.length) {o : ω}
    {is : List (SourceItem ω)} : (t.set i o).Spells mode is ↔
      ∃ is₁ is₂, is = is₁ ++ .operand o :: is₂ ∧ (t.before i).Spells mode is₁ ∧
        (t.behind i).Spells mode is₂ := by
  rw [set_eq hi]
  exact SpellsFrom.operand_iff

end Template

end Milp
