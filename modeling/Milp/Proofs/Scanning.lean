import Milp.Proofs.Formula
import Milp.Proofs.Success
import Milp.Token

/-!
# Scanning follows the spelling

A text can be scanned exactly if it is spelled in lexemes, and what comes out are the symbols of
these lexemes in order. Of a template come out the symbols of its items: `Template.scan_reads`.
-/

namespace Milp

variable {β ω κ : Type} {mode : Mode}

theorem Feed.outcome_mapError {τ ε ε' ρ : Type} (f : ε → ε') (a : Feed τ ε ρ) :
    (a.mapError f).outcome = a.outcome.mapError f := by
  induction a with
  | done | fail => rfl
  | next t rest ih => exact ih

/-! ### Symbols of items -/

namespace SourceItem

/-- The item is a numeral with a sign. -/
def isSigned : SourceItem ω → Bool
  | lexeme (.numeral n) => n.sign.isSome
  | _ => false

/-- An operand stands complete after the item. -/
def completes : SourceItem ω → Bool
  | lexeme l => l.completes
  | operand _ => true

/-- The symbol of an item. -/
inductive Shows (value : Numeral → β) (read : ω → Except κ (Symbol β)) :
    SourceItem ω → Symbol β → Prop
  | numeral (n) : Shows value read (.lexeme (.numeral n)) (.number (value n))
  | operator (c) :
      Shows value read (.lexeme (.operator c)) (.operator (.text (String.singleton c)))
  | opening : Shows value read (.lexeme .opening) (.opening (.text "("))
  | closing : Shows value read (.lexeme .closing) (.closing (.text ")"))
  | comparator (s) : Shows value read (.lexeme (.comparator s)) (.comparator (.text s.text))
  | operand {o s} : read o = .ok s → Shows value read (.operand o) s

end SourceItem

/-- The items are read as these symbols, where `complete` tells whether an operand stands complete
before them. A signed numeral after a complete operand brings the operator that adds it. -/
inductive ReadAs (value : Numeral → β) (read : ω → Except κ (Symbol β)) :
    Bool → List (SourceItem ω) → List (Symbol β) → Prop
  | nil {complete} : ReadAs value read complete [] []
  | item {complete i s is ss} : (complete && i.isSigned) = false → i.Shows value read s →
      ReadAs value read i.completes is ss → ReadAs value read complete (i :: is) (s :: ss)
  | added {i s is ss} : i.isSigned → i.Shows value read s →
      ReadAs value read i.completes is ss →
      ReadAs value read true (i :: is) (.operator (.text "+") :: s :: ss)

/-- An operand stands complete after the items. -/
def completeAfter (complete : Bool) (is : List (SourceItem ω)) : Bool :=
  is.foldl (fun _ i => i.completes) complete

namespace ReadAs

variable {value : Numeral → β} {read : ω → Except κ (Symbol β)} {complete : Bool}
  {is js : List (SourceItem ω)} {ss us : List (Symbol β)}

/-- A lexeme is read as the symbols of its tokens. -/
theorem lexeme {l : Lexeme} (place : Place) (h : ReadAs value read l.completes is ss) :
    ReadAs value read complete (.lexeme l :: is)
      ((l.tokens value place complete).map Token.symbol ++ ss) := by
  cases l with
  | numeral n =>
    cases complete with
    | false => exact .item rfl (.numeral n) h
    | true =>
      cases hn : n.sign.isSome with
      | false =>
        simp only [Lexeme.tokens, hn, Bool.and_false, Bool.false_eq_true, if_false]
        exact .item hn (.numeral n) h
      | true =>
        simp only [Lexeme.tokens, hn, Bool.and_true, if_true]
        exact .added hn (.numeral n) h
  | operator c => exact .item (Bool.and_false _) (.operator c) h
  | opening => exact .item (Bool.and_false _) .opening h
  | closing => exact .item (Bool.and_false _) .closing h
  | comparator s => exact .item (Bool.and_false _) (.comparator s) h

/-- Items one after the other are read one after the other. -/
theorem of_append (h : ReadAs value read complete (is ++ js) ss) :
    ∃ us vs, ss = us ++ vs ∧ ReadAs value read complete is us ∧
      ReadAs value read (completeAfter complete is) js vs := by
  induction is generalizing complete ss with
  | nil => exact ⟨[], ss, rfl, .nil, h⟩
  | cons i is ih =>
    cases h with
    | item hc hi h =>
      obtain ⟨us, vs, rfl, hu, hv⟩ := ih h
      exact ⟨_ :: us, vs, rfl, .item hc hi hu, hv⟩
    | added hc hi h =>
      obtain ⟨us, vs, rfl, hu, hv⟩ := ih h
      exact ⟨_ :: _ :: us, vs, rfl, .added hc hi hu, hv⟩

theorem append (h : ReadAs value read complete is us)
    (h' : ReadAs value read (completeAfter complete is) js ss) :
    ReadAs value read complete (is ++ js) (us ++ ss) := by
  induction h with
  | nil => exact h'
  | item hc hi _ ih => exact .item hc hi (ih h')
  | added hc hi _ ih => exact .added hc hi (ih h')

/-- Items are read in one way only. -/
theorem unique (h : ReadAs value read complete is ss) (h' : ReadAs value read complete is us) :
    ss = us := by
  have hshows : ∀ {i : SourceItem ω} {s s' : Symbol β}, i.Shows value read s →
      i.Shows value read s' → s = s' := by
    rintro i s s' h h'
    cases h with
    | operand ho =>
      cases h' with
      | operand ho' => exact Except.ok.inj (ho.symm.trans ho')
    | _ =>
      cases h'
      rfl
  induction h generalizing us with
  | nil =>
    cases h'
    rfl
  | item hc hi _ ih =>
    cases h' with
    | item _ hi' h' => rw [hshows hi hi', ih h']
    | added hc' => simp [hc'] at hc
  | added hc hi _ ih =>
    cases h' with
    | item hc' => simp [hc] at hc'
    | added _ hi' h' => rw [hshows hi hi', ih h']

theorem operand_iff {o : ω} : ReadAs value read complete (.operand o :: is) ss ↔
    ∃ s us, ss = s :: us ∧ read o = .ok s ∧ ReadAs value read true is us := by
  constructor
  · intro h
    cases h with
    | item hc hi h =>
      cases hi with
      | operand ho => exact ⟨_, _, rfl, ho, h⟩
    | added hc => exact absurd hc Bool.false_ne_true
  · rintro ⟨s, us, rfl, ho, h⟩
    exact .item (Bool.and_false _) (.operand ho) h

theorem opening_iff : ReadAs value read complete (.lexeme .opening :: is) ss ↔
    ∃ us, ss = .opening (.text "(") :: us ∧ ReadAs value read false is us := by
  constructor
  · rintro (_ | ⟨hc, ⟨⟩, h⟩ | ⟨hc, hi, h⟩)
    · exact ⟨_, rfl, h⟩
    · exact absurd hc Bool.false_ne_true
  · rintro ⟨us, rfl, h⟩
    exact .item (Bool.and_false _) .opening h

theorem closing_iff : ReadAs value read complete (.lexeme .closing :: is) ss ↔
    ∃ us, ss = .closing (.text ")") :: us ∧ ReadAs value read true is us := by
  constructor
  · rintro (_ | ⟨hc, ⟨⟩, h⟩ | ⟨hc, hi, h⟩)
    · exact ⟨_, rfl, h⟩
    · exact absurd hc Bool.false_ne_true
  · rintro ⟨us, rfl, h⟩
    exact .item (Bool.and_false _) .closing h

/-- The symbols can be taken apart in front of everything but a number, which may come with the
operator that adds it. -/
theorem split {s : Symbol β} (h : ReadAs value read complete is (ss ++ s :: us))
    (hs : ∀ v, s ≠ .number v) : ∃ js ks after, is = js ++ ks ∧
      ReadAs value read complete js ss ∧ ReadAs value read after ks (s :: us) := by
  generalize hvs : ss ++ s :: us = vs at h
  induction h generalizing ss with
  | nil => simp at hvs
  | @item complete i x is vs hc hi h ih =>
    cases ss with
    | nil =>
      obtain ⟨rfl, rfl⟩ := List.cons.inj hvs
      exact ⟨[], _, complete, rfl, .nil, .item hc hi h⟩
    | cons y ss =>
      obtain ⟨rfl, hvs'⟩ := List.cons.inj hvs
      obtain ⟨js, ks, after, rfl, hj, hk⟩ := ih hvs'
      exact ⟨_ :: js, ks, after, rfl, .item hc hi hj, hk⟩
  | @added i x is vs hc hi h ih =>
    match ss with
    | [] =>
      obtain ⟨rfl, rfl⟩ := List.cons.inj hvs
      exact ⟨[], _, true, rfl, .nil, .added hc hi h⟩
    | [_] =>
      obtain ⟨rfl, -⟩ := List.cons.inj (List.cons.inj hvs).2
      cases hi with
      | numeral n => exact absurd rfl (hs _)
      | _ => simp [SourceItem.isSigned] at hc
    | _ :: _ :: ss =>
      obtain ⟨rfl, hvs'⟩ := List.cons.inj hvs
      obtain ⟨rfl, hvs''⟩ := List.cons.inj hvs'
      obtain ⟨js, ks, after, rfl, hj, hk⟩ := ih hvs''
      exact ⟨_ :: js, ks, after, rfl, .added hc hi hj, hk⟩

end ReadAs

/-! ### Segments -/

section Segment

variable {value : Numeral → β} {segment column : Nat} {complete : Bool}

theorem scanSegment_skip (xs cs : List Char) :
    scanSegment mode value segment xs.length complete column (xs ++ cs) =
      scanSegment mode value segment 0 complete (column + xs.length) cs := by
  induction xs generalizing column with
  | nil => rfl
  | cons x xs ih =>
    rw [List.length_cons, List.cons_append, scanSegment, ih]
    congr 1
    omega

theorem scanSegment_blank {c : Char} {cs : List Char} (h : Text.isBlank c) :
    scanSegment mode value segment 0 complete column (c :: cs) =
      scanSegment mode value segment 0 complete (column + 1) cs := by
  rw [scanSegment, if_pos h]

/-- The scan goes on behind the lexeme that the text starts with. -/
theorem scanSegment_lexeme {l : Lexeme} {cs : List Char} (h : l.Starts mode (l.chars ++ cs)) :
    scanSegment mode value segment 0 complete column (l.chars ++ cs) =
      (Feed.ofList (l.tokens value ⟨some segment, some column⟩ complete)).followedBy
        (scanSegment mode value segment 0 l.completes (column + l.chars.length) cs) := by
  have hread := Lexeme.read?_eq_some_iff.2 h
  obtain ⟨c, xs, hl, hc⟩ := h.valid.chars_head
  rw [hl, List.cons_append] at hread ⊢
  rw [scanSegment, if_neg (by simp [hc]), hread]
  simp only [hl, List.length_cons, Nat.add_sub_cancel]
  rw [scanSegment_skip]
  congr 2
  omega

/-- What has been scanned to its end is spelled in lexemes. -/
theorem spells_of_scanSegment {column : Nat} {complete after : Bool} {cs : List Char}
    (h : (scanSegment mode value segment 0 complete column cs).outcome = .ok after) :
    ∃ ls, Spells mode cs ls := by
  match cs with
  | [] => exact ⟨[], .nil⟩
  | c :: cs =>
    by_cases hc : Text.isBlank c
    · rw [scanSegment_blank hc] at h
      obtain ⟨ls, hls⟩ := spells_of_scanSegment h
      exact ⟨ls, .blank hc hls⟩
    · cases hl : Lexeme.read? mode (c :: cs) with
      | none =>
        rw [scanSegment, if_neg hc, hl] at h
        simp [Feed.outcome] at h
      | some l =>
        have hs := Lexeme.read?_eq_some_iff.1 hl
        obtain ⟨rest, hrest⟩ := hs.stands
        have hpos := hs.valid.length_pos
        have hlt : rest.length < (c :: cs).length := by
          rw [← hrest, List.length_append]
          omega
        rw [← hrest] at h hs ⊢
        rw [scanSegment_lexeme hs, Feed.followedBy, Feed.outcome_andThen,
          Feed.outcome_ofList] at h
        obtain ⟨ls, hls⟩ := spells_of_scanSegment h
        exact ⟨l :: ls, .lexeme hs hls⟩
termination_by cs.length
decreasing_by
  · exact Nat.lt_succ_self _
  · exact hlt

/-- **A segment that is spelled in lexemes is scanned as their symbols.** What follows them is read
on from there. -/
theorem Spells.scanSegment {cs : List Char} {ls : List Lexeme} (h : Spells mode cs ls)
    (read : ω → Except κ (Symbol β)) (complete : Bool) (column : Nat) :
    ∃ after, (scanSegment mode value segment 0 complete column cs).outcome = .ok after ∧
      ∀ is ss, ReadAs value read after is ss →
        ReadAs value read complete (ls.map .lexeme ++ is)
          ((Milp.scanSegment mode value segment 0 complete column cs).items.map Token.symbol
            ++ ss) := by
  induction h generalizing complete column with
  | nil => exact ⟨complete, rfl, fun is ss h => h⟩
  | blank hc _ ih =>
    obtain ⟨after, ho, hi⟩ := ih complete (column + 1)
    rw [scanSegment_blank hc]
    exact ⟨after, ho, hi⟩
  | @lexeme l cs ls hl _ ih =>
    obtain ⟨after, ho, hi⟩ := ih l.completes (column + l.chars.length)
    rw [scanSegment_lexeme hl, Feed.followedBy, Feed.outcome_andThen, Feed.items_andThen,
      Feed.outcome_ofList, Feed.items_ofList]
    refine ⟨after, ho, fun is ss h => ?_⟩
    rw [List.map_append, List.append_assoc]
    exact .lexeme _ (hi is ss h)

end Segment

/-! ### Templates -/

section Template

variable {value : Numeral → β} {read : ω → Except κ (Symbol β)} {source : Except κ String}

theorem spellsFrom_of_scanFrom {index : Nat} {complete : Bool} {segment : String}
    {rest : List (ω × String)}
    (h : (scanFrom mode value read source index complete segment rest).outcome = .ok ()) :
    ∃ is, SpellsFrom mode segment rest is := by
  induction rest generalizing index complete segment with
  | nil =>
    rw [scanFrom, Feed.outcome_andThen, Feed.outcome_mapError] at h
    obtain ⟨after, ho, -⟩ := Except.bind_eq_ok_iff.1 h
    obtain ⟨ls, hls⟩ := spells_of_scanSegment (Except.mapError_eq_ok_iff.1 ho)
    exact ⟨_, .last hls⟩
  | cons p rest ih =>
    obtain ⟨o, next⟩ := p
    rw [scanFrom, Feed.outcome_andThen, Feed.outcome_mapError] at h
    obtain ⟨after, ho, h⟩ := Except.bind_eq_ok_iff.1 h
    obtain ⟨ls, hls⟩ := spells_of_scanSegment (Except.mapError_eq_ok_iff.1 ho)
    cases hr : read o with
    | error e => simp [hr, Feed.outcome] at h
    | ok s =>
      rw [hr] at h
      obtain ⟨is, his⟩ := ih h
      exact ⟨_, .more hls his⟩

theorem SpellsFrom.scanFrom {segment : String} {rest : List (ω × String)}
    {is : List (SourceItem ω)} (h : SpellsFrom mode segment rest is) {index : Nat}
    {complete : Bool}
    (ho : (scanFrom mode value read source index complete segment rest).outcome = .ok ()) :
    ReadAs value read complete is
      ((Milp.scanFrom mode value read source index complete segment rest).items.map
        Token.symbol) := by
  induction h generalizing index complete with
  | last hls =>
    obtain ⟨after, hs, hi⟩ := hls.scanSegment read complete 0
    rw [Milp.scanFrom, Feed.items_andThen, Feed.outcome_mapError, Feed.items_mapError, hs]
    simpa [Feed.items] using hi [] [] .nil
  | @more segment ls o next rest is hls _ ih =>
    obtain ⟨after, hs, hi⟩ := hls.scanSegment read complete 0
    rw [Milp.scanFrom, Feed.outcome_andThen, Feed.outcome_mapError, hs] at ho
    rw [Milp.scanFrom, Feed.items_andThen, Feed.outcome_mapError, Feed.items_mapError, hs,
      List.map_append]
    refine hi _ _ ?_
    cases hr : read o with
    | error e => simp [hr, Feed.outcome, Except.bind] at ho
    | ok s =>
      rw [hr] at ho
      exact .item (Bool.and_false _) (.operand hr) (ih ho)

/-- **Scanning follows the spelling**: a template whose scan does not fail is spelled in items, and
what was scanned are the symbols of any items that it is spelled in. -/
theorem Template.scan_reads {t : Template ω}
    (h : (t.scan mode value read source).outcome = .ok ()) :
    (∃ is, t.Spells mode is) ∧ ∀ is, t.Spells mode is →
      ReadAs value read false is ((t.scan mode value read source).items.map Token.symbol) :=
  ⟨spellsFrom_of_scanFrom h, fun _ his => SpellsFrom.scanFrom his h⟩

/-- A template whose items can be read is scanned to its end. -/
theorem SpellsFrom.outcome_scanFrom {segment : String} {rest : List (ω × String)}
    {is : List (SourceItem ω)} (h : SpellsFrom mode segment rest is) {complete : Bool}
    {ss : List (Symbol β)} (hr : ReadAs value read complete is ss) {index : Nat} :
    (Milp.scanFrom mode value read source index complete segment rest).outcome = .ok () := by
  induction h generalizing complete ss index with
  | last hls =>
    obtain ⟨after, hs, -⟩ := hls.scanSegment read complete 0
    rw [Milp.scanFrom, Feed.outcome_andThen, Feed.outcome_mapError, hs]
    rfl
  | @more segment ls o next rest is hls _ ih =>
    obtain ⟨after, hs, -⟩ := hls.scanSegment read complete 0
    obtain ⟨us, vs, rfl, -, hv⟩ := hr.of_append
    obtain ⟨s, vs, rfl, ho, hv⟩ := ReadAs.operand_iff.1 hv
    rw [Milp.scanFrom, Feed.outcome_andThen, Feed.outcome_mapError, hs, ho]
    exact ih hv

/-- **Which symbols a template is scanned as**: those of any items that it is spelled in. -/
theorem Template.scan_eq_iff {t : Template ω} {ss : List (Symbol β)} :
    (t.scan mode value read source).outcome = .ok () ∧
        (t.scan mode value read source).items.map Token.symbol = ss ↔
      ∃ is, t.Spells mode is ∧ ReadAs value read false is ss := by
  constructor
  · rintro ⟨ho, rfl⟩
    obtain ⟨⟨is, his⟩, hall⟩ := Template.scan_reads ho
    exact ⟨is, his, hall is his⟩
  · rintro ⟨is, his, hr⟩
    have ho : (t.scan mode value read source).outcome = .ok () := SpellsFrom.outcome_scanFrom his hr
    exact ⟨ho, (SpellsFrom.scanFrom his ho).unique hr⟩

end Template

end Milp
