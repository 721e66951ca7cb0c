import Milp.Proofs.Numeral

/-!
# What a scan covers

The lexemes that a scan finds stand at their columns one behind the other, and all that is not in
one of them is blank. A scan that has covered a text up to some column either is at its end or is
stuck there, at a character that is no blank and at which no lexeme starts. There is only one way to
cover a text so far: `Covers.column_unique`. So a scan fails exactly where the text in front is
covered and it is stuck.
-/

namespace Milp

open Text

variable {mode : Mode} {cs : List Char} {ps qs : List (Nat × Lexeme)} {m n : Nat}

/-! ### Texts that are covered -/

/-- **The lexemes at their columns cover the text up to a column.** Each is the longest lexeme that
starts where it stands, they stand one behind the other, and every character outside of them is
blank. -/
structure Covers (mode : Mode) (cs : List Char) (ps : List (Nat × Lexeme)) (n : Nat) : Prop where
  starts : ∀ p ∈ ps, p.2.Starts mode (cs.drop p.1)
  ordered : ps.Pairwise fun p q => p.1 + p.2.chars.length ≤ q.1
  ends : ∀ p ∈ ps, p.1 + p.2.chars.length ≤ n
  column_le : n ≤ cs.length
  blank : ∀ i c, i < n → cs[i]? = some c →
    (∀ p ∈ ps, ¬ (p.1 ≤ i ∧ i < p.1 + p.2.chars.length)) → isBlank c = true

/-- At the column stands a character that is no blank, and no lexeme starts there. -/
def Stuck (mode : Mode) (cs : List Char) (n : Nat) : Prop :=
  (∃ c, cs[n]? = some c ∧ isBlank c = false) ∧
    ∀ l : Lexeme, l.Valid mode → ¬ l.chars <+: cs.drop n

theorem stuck_iff : Stuck mode cs n ↔
    (∃ c, cs[n]? = some c ∧ isBlank c = false) ∧ Lexeme.read? mode (cs.drop n) = none := by
  refine and_congr_right fun _ => ⟨fun h => ?_, fun h l hl hstands => ?_⟩
  · cases hread : Lexeme.read? mode (cs.drop n) with
    | none => rfl
    | some l =>
      obtain ⟨hl, hstands⟩ := Lexeme.read?_sound hread
      exact absurd hstands (h l hl)
  · obtain ⟨l', hl', -⟩ := Lexeme.read?_complete hl hstands
    rw [h] at hl'
    cases hl'

namespace Covers

theorem nil (mode : Mode) (cs : List Char) : Covers mode cs [] 0 where
  starts _ hp := absurd hp List.not_mem_nil
  ordered := .nil
  ends _ hp := absurd hp List.not_mem_nil
  column_le := Nat.zero_le _
  blank i _ hi := absurd hi (Nat.not_lt_zero i)

/-- A blank is covered without a lexeme. -/
theorem snoc_blank (h : Covers mode cs ps n) {c : Char} (hc : cs[n]? = some c)
    (hblank : isBlank c = true) : Covers mode cs ps (n + 1) where
  starts := h.starts
  ordered := h.ordered
  ends p hp := Nat.le_succ_of_le (h.ends p hp)
  column_le := (List.getElem?_eq_some_iff.1 hc).1
  blank i d hi hd hout := by
    obtain hi | rfl := Nat.lt_succ_iff_lt_or_eq.1 hi
    · exact h.blank i d hi hd hout
    · rw [hc] at hd
      rwa [← Option.some.inj hd]

/-- A lexeme is put behind those that are there. -/
theorem snoc_lexeme (h : Covers mode cs ps n) {l : Lexeme} (hl : l.Starts mode (cs.drop n)) :
    Covers mode cs (ps ++ [(n, l)]) (n + l.chars.length) where
  starts := by
    intro p hp
    rcases List.mem_append.1 hp with hp | hp
    · exact h.starts p hp
    · obtain rfl := List.mem_singleton.1 hp
      exact hl
  ordered := by
    refine List.pairwise_append.2 ⟨h.ordered, List.pairwise_singleton .., fun p hp q hq => ?_⟩
    obtain rfl := List.mem_singleton.1 hq
    exact h.ends p hp
  ends := by
    intro p hp
    rcases List.mem_append.1 hp with hp | hp
    · have := h.ends p hp
      omega
    · obtain rfl := List.mem_singleton.1 hp
      exact Nat.le_refl _
  column_le := by
    have hlen := hl.stands.length_le
    have hle := h.column_le
    rw [List.length_drop] at hlen
    omega
  blank := by
    intro i c hi hc hout
    rcases Nat.lt_or_ge i n with hlt | hge
    · exact h.blank i c hlt hc fun p hp => hout p (List.mem_append_left _ hp)
    · exact absurd ⟨hge, hi⟩ (hout (n, l) (List.mem_append_right _ List.mem_cons_self))

/-- Where a lexeme stands are its characters. -/
theorem getElem?_chars (h : Covers mode cs ps n) {p : Nat × Lexeme} (hp : p ∈ ps) {i : Nat}
    (hle : p.1 ≤ i) (hin : i < p.1 + p.2.chars.length) : cs[i]? = p.2.chars[i - p.1]? := by
  obtain ⟨rest, hrest⟩ := (h.starts p hp).stands
  have hdrop : (cs.drop p.1)[i - p.1]? = cs[i]? := by
    rw [List.getElem?_drop, Nat.add_sub_cancel' hle]
  rw [← hdrop, ← hrest, List.getElem?_append_left (by omega)]

/-- Where a lexeme stands there is a character that is no blank. -/
theorem getElem?_column (h : Covers mode cs ps n) {p : Nat × Lexeme} (hp : p ∈ ps) :
    ∃ c, cs[p.1]? = some c ∧ isBlank c = false := by
  obtain ⟨c, xs, hchars, hblank⟩ := (h.starts p hp).valid.chars_head
  have hget := h.getElem?_chars hp (Nat.le_refl _) (by simp [hchars])
  refine ⟨c, ?_, hblank⟩
  rw [hget, hchars, Nat.sub_self]
  rfl

/-- A character that is no blank is in a lexeme. -/
theorem exists_of_not_blank (h : Covers mode cs ps n) {i : Nat} {c : Char} (hi : i < n)
    (hc : cs[i]? = some c) (hblank : isBlank c = false) :
    ∃ p ∈ ps, p.1 ≤ i ∧ i < p.1 + p.2.chars.length := by
  by_contra hnone
  have hout : ∀ p ∈ ps, ¬ (p.1 ≤ i ∧ i < p.1 + p.2.chars.length) :=
    fun p hp hin => hnone ⟨p, hp, hin⟩
  rw [h.blank i c hi hc hout] at hblank
  cases hblank

/-- At a column starts one lexeme only. -/
theorem eq_of_starts {i : Nat} {l l' : Lexeme} (h : l.Starts mode (cs.drop i))
    (h' : l'.Starts mode (cs.drop i)) : l = l' :=
  Option.some.inj ((Lexeme.read?_eq_some_iff.2 h).symm.trans (Lexeme.read?_eq_some_iff.2 h'))

/-- Lexemes at different columns do not overlap. -/
theorem apart (h : Covers mode cs ps n) {p q : Nat × Lexeme} (hp : p ∈ ps) (hq : q ∈ ps)
    (hlt : p.1 < q.1) : p.1 + p.2.chars.length ≤ q.1 := by
  obtain ⟨i, hi, rfl⟩ := List.mem_iff_getElem.1 hp
  obtain ⟨j, hj, rfl⟩ := List.mem_iff_getElem.1 hq
  have hordered := List.pairwise_iff_getElem.1 h.ordered
  rcases Nat.lt_trichotomy i j with hij | rfl | hji
  · exact hordered i j hi hj hij
  · exact absurd hlt (Nat.lt_irrefl _)
  · have := hordered j i hj hi hji
    omega

/-- **Two covers of one text have the same lexemes** as far as both go. -/
theorem mem_of_mem {q : Nat × Lexeme} (h : Covers mode cs ps n) (h' : Covers mode cs qs m)
    (hq : q ∈ qs) (hlt : q.1 < n) : q ∈ ps := by
  generalize hk : q.1 = k at hlt
  induction k using Nat.strong_induction_on generalizing ps qs m n q with
  | _ k ih =>
    subst hk
    obtain ⟨c, hc, hblank⟩ := h'.getElem?_column hq
    obtain ⟨p, hp, hle, hin⟩ := h.exists_of_not_blank hlt hc hblank
    rcases Nat.lt_or_eq_of_le hle with hbefore | heq
    · -- a lexeme of the one that starts before would be one of the other, and overlap there
      have hm := h'.ends q hq
      have hpq : p ∈ qs := ih p.1 hbefore h' h hp rfl (by omega)
      have := h'.apart hpq hq hbefore
      omega
    · have hstarts := h.starts p hp
      rw [heq] at hstarts
      rwa [← Prod.ext heq (eq_of_starts hstarts (h'.starts q hq))]

/-- **There is one way only to cover a text** up to where it ends or is stuck. -/
theorem column_unique (h : Covers mode cs ps n) (h' : Covers mode cs qs m)
    (hn : n = cs.length ∨ Stuck mode cs n) (hm : m = cs.length ∨ Stuck mode cs m) : n = m := by
  have key : ∀ {ps qs : List (Nat × Lexeme)} {n m : Nat}, Covers mode cs ps n →
      Covers mode cs qs m → (n = cs.length ∨ Stuck mode cs n) → ¬ n < m := by
    intro ps qs n m h h' hn hlt
    rcases hn with rfl | ⟨⟨c, hc, hblank⟩, hnone⟩
    · have := h'.column_le
      omega
    · obtain ⟨q, hq, hle, hin⟩ := h'.exists_of_not_blank hlt hc hblank
      rcases Nat.lt_or_eq_of_le hle with hbefore | heq
      · have := h.ends q (h.mem_of_mem h' hq hbefore)
        omega
      · have hstarts := h'.starts q hq
        rw [heq] at hstarts
        exact hnone _ hstarts.valid hstarts.stands
  have h₁ := key h h' hn
  have h₂ := key h' h hm
  omega

end Covers

/-! ### Code points -/

/-- No lexeme has the mark in it. -/
theorem Lexeme.mark_notMem_chars {l : Lexeme} (h : l.Valid mode) : mark ∉ l.chars := by
  intro hm
  cases h with
  | numeral hn => exact absurd (numeral_of_mem_chars hn hm) (by decide)
  | operator hc =>
    obtain rfl := List.mem_singleton.1 hm
    exact absurd hc (by decide)
  | opening | closing => exact absurd hm (by decide)
  | comparator s _ =>
    rw [chars_comparator] at hm
    cases s <;> exact absurd hm (by decide)

namespace Text

/-- Characters other than the mark are code points by themselves. -/
theorem pointsOf_append {xs : List Char} (h : mark ∉ xs) (cs : List Char) :
    pointsOf (xs ++ cs) = xs.map Char.toNat ++ pointsOf cs := by
  induction xs with
  | nil => rfl
  | cons x xs ih =>
    have hx : x ≠ mark := fun hx => h (hx ▸ List.mem_cons_self)
    have hxs := ih fun hm => h (List.mem_cons_of_mem x hm)
    rw [List.cons_append, List.map_cons, List.cons_append, ← hxs]
    cases hcs : xs ++ cs with
    | nil => rfl
    | cons d ds => rw [pointsOf, if_neg hx]

theorem ofPoints_toNat {c : Char} (h : c ≠ mark) : ofPoints [c.toNat] = String.singleton c := by
  have hpoint : isSurrogate c.toNat = false := by
    have hvalid := c.valid
    rw [UInt32.isValidChar] at hvalid
    simp only [isSurrogate, Bool.and_eq_false_iff, decide_eq_false_iff_not]
    change c.toNat < 0xD800 ∨ 0xDFFF < c.toNat ∧ c.toNat < 0x110000 at hvalid
    omega
  have hmark : c.toNat ≠ mark.toNat := fun hc => h (Char.toNat_inj.1 hc)
  rw [ofPoints, List.flatMap_singleton, charsOf, if_neg (by simp [hpoint]), if_neg hmark,
    Char.ofNat_toNat, String.singleton_eq_ofList]

theorem firstOf_cons (c : Char) (cs : List Char) :
    some (firstOf (c :: cs)) = (pointsOf (c :: cs)).head?.map fun p => ofPoints [p] := by
  cases cs with
  | nil => rfl
  | cons d ds =>
    rw [firstOf, pointsOf]
    split <;> rfl

/-- The code points in front of all marks are characters. -/
theorem singles_eq_append {s : String} (h : mark ∉ s.toList.take n) :
    singles s = (s.toList.take n).map String.singleton ++
      (pointsOf (s.toList.drop n)).map fun p => ofPoints [p] := by
  have hpoints := pointsOf_append h (s.toList.drop n)
  have hsingle : ∀ c ∈ s.toList.take n, ofPoints [c.toNat] = String.singleton c :=
    fun c hc => ofPoints_toNat fun hm => h (hm ▸ hc)
  rw [List.take_append_drop] at hpoints
  rw [singles, points, hpoints, List.map_append, List.map_map]
  exact congrArg (· ++ _) (List.map_congr_left hsingle)

end Text

namespace Covers

/-- Neither a lexeme nor a blank has the mark in it. -/
theorem mark_notMem (h : Covers mode cs ps n) : mark ∉ cs.take n := by
  intro hm
  obtain ⟨i, hi⟩ := List.mem_iff_getElem?.1 hm
  obtain ⟨hlt, hi⟩ : i < n ∧ cs[i]? = some mark := by
    rw [List.getElem?_take] at hi
    split at hi
    · next hlt => exact ⟨hlt, hi⟩
    · cases hi
  obtain ⟨p, hp, hle, hin⟩ := h.exists_of_not_blank hlt hi (by decide)
  rw [h.getElem?_chars hp hle hin] at hi
  exact Lexeme.mark_notMem_chars (h.starts p hp).valid (List.mem_of_getElem? hi)

/-- **The columns are those of code points**: up to where a text is covered its code points are its
characters, and the next one is the one that a scan that is stuck there tells of. -/
theorem singles_getElem? {s : String} (h : Covers mode s.toList ps n) :
    (∀ i < n, (singles s)[i]? = s.toList[i]?.map String.singleton) ∧
      (Stuck mode s.toList n → (singles s)[n]? = some (firstOf (s.toList.drop n))) := by
  have hlen : ((s.toList.take n).map String.singleton).length = n := by
    rw [List.length_map, List.length_take, Nat.min_eq_left h.column_le]
  rw [singles_eq_append h.mark_notMem]
  constructor
  · intro i hi
    rw [List.getElem?_append_left (by omega), List.getElem?_map, List.getElem?_take, if_pos hi]
  · rintro ⟨⟨c, hc, -⟩, -⟩
    have hdrop : s.toList.drop n = c :: s.toList.drop (n + 1) :=
      List.drop_eq_getElem?_toList_append.trans (by rw [hc]; rfl)
    rw [List.getElem?_append_right (by omega), hlen, Nat.sub_self, hdrop, firstOf_cons,
      List.getElem?_map, List.head?_eq_getElem?]

end Covers

/-! ### Tokens of lexemes -/

namespace Lexeme

variable {β : Type} (value : Numeral → β)

/-- The lexeme is a numeral with a sign. -/
def isSigned : Lexeme → Bool
  | numeral n => n.sign.isSome
  | _ => false

/-- What a lexeme is as a token: a numeral is a number, all others are their characters. -/
def symbol (l : Lexeme) : Symbol β :=
  let word : Word β := .text (String.ofList l.chars)
  match l with
  | numeral n => .number (value n)
  | operator _ => .operator word
  | opening => .opening word
  | closing => .closing word
  | comparator _ => .comparator word

/-- **The tokens of lexemes at their columns** in a segment: one for each lexeme, and in front of a
signed numeral that follows a complete operand another one by which it is added. -/
def placedTokens (segment : Nat) : Bool → List (Nat × Lexeme) → List (Token β)
  | _, [] => []
  | complete, (column, l) :: ps =>
    let place : Place := ⟨some segment, some column⟩
    let plus : List (Token β) := [⟨.operator (.text "+"), place⟩]
    (if complete && l.isSigned then plus else []) ++
      ⟨l.symbol value, place⟩ :: placedTokens segment l.completes ps

theorem placedTokens_cons (segment column : Nat) (complete : Bool) (l : Lexeme)
    (ps : List (Nat × Lexeme)) : placedTokens value segment complete ((column, l) :: ps) =
      l.tokens value ⟨some segment, some column⟩ complete ++
        placedTokens value segment l.completes ps := by
  cases l with
  | numeral n =>
    rw [placedTokens, tokens, isSigned]
    split <;> rfl
  | operator c =>
    rw [placedTokens, tokens, String.singleton_eq_ofList]
    simp [isSigned, symbol, chars]
  | opening | closing => simp [placedTokens, tokens, isSigned, symbol, chars]
  | comparator s => simp [placedTokens, tokens, isSigned, symbol, chars]

end Lexeme

open Lexeme

/-! ### Segments -/

section Segment

variable {β : Type} {value : Numeral → β} {segment : Nat} {complete : Bool}

theorem getElem?_of_drop {γ : Type} {x : γ} {xs rest : List γ} (h : xs.drop n = x :: rest) :
    xs[n]? = some x ∧ xs.drop (n + 1) = rest := by
  constructor
  · rw [← Nat.add_zero n, ← List.getElem?_drop, h]
    rfl
  · rw [← List.drop_drop, h]
    rfl

/-- How a scan ends that has covered a text up to a column: at the end of the text, or stuck. -/
def EndsAt (mode : Mode) (cs : List Char) (n : Nat) (o : Except (String × Nat) Bool) : Prop :=
  (n = cs.length ∧ ∃ after, o = .ok after) ∨
    Stuck mode cs n ∧ o = .error (firstOf (cs.drop n), n)

/-- **From a column on, a scan covers more of a text** until it is at the end or stuck. -/
theorem Covers.scanSegment (h : Covers mode cs ps n) : ∃ qs m, Covers mode cs (ps ++ qs) m ∧
    (scanSegment mode value segment 0 complete n (cs.drop n)).items =
      placedTokens value segment complete qs ∧
    EndsAt mode cs m (Milp.scanSegment mode value segment 0 complete n (cs.drop n)).outcome := by
  have hle := h.column_le
  generalize hk : cs.length - n = k
  induction k using Nat.strong_induction_on generalizing ps n complete with
  | _ k ih =>
    cases hdrop : cs.drop n with
    | nil =>
      have hend : n = cs.length := by
        have := List.drop_eq_nil_iff.1 hdrop
        omega
      exact ⟨[], n, by rwa [List.append_nil], rfl, .inl ⟨hend, complete, rfl⟩⟩
    | cons c rest =>
      obtain ⟨hc, hrest⟩ := getElem?_of_drop hdrop
      cases hblank : isBlank c with
      | true =>
        have hnext := h.snoc_blank hc hblank
        obtain ⟨qs, m, hcovers, hitems, hend⟩ :=
          ih (cs.length - (n + 1)) (by have := hnext.column_le; omega) hnext hnext.column_le rfl
        rw [scanSegment_blank hblank, ← hrest]
        exact ⟨qs, m, hcovers, hitems, hend⟩
      | false =>
        cases hread : read? mode (c :: rest) with
        | none =>
          have hstuck : Stuck mode cs n := stuck_iff.2 ⟨⟨c, hc, hblank⟩, hdrop ▸ hread⟩
          rw [Milp.scanSegment, if_neg (by simp [hblank]), hread, ← hdrop]
          exact ⟨[], n, by rwa [List.append_nil], rfl, .inr ⟨hstuck, rfl⟩⟩
        | some l =>
          have hl : l.Starts mode (cs.drop n) := hdrop ▸ read?_eq_some_iff.1 hread
          obtain ⟨after, hafter⟩ := hl.stands
          have hnext := h.snoc_lexeme hl
          have hdrop' : cs.drop (n + l.chars.length) = after := by
            rw [← List.drop_drop, ← hafter, List.drop_left]
          have hlen := hl.valid.length_pos
          obtain ⟨qs, m, hcovers, hitems, hend⟩ := ih (cs.length - (n + l.chars.length))
            (by have := hnext.column_le; omega) hnext hnext.column_le rfl
          rw [← hdrop, ← hafter]
          rw [← hafter] at hl
          rw [scanSegment_lexeme hl, ← hdrop', Feed.followedBy, Feed.items_andThen,
            Feed.outcome_andThen, Feed.outcome_ofList, Feed.items_ofList]
          refine ⟨(n, l) :: qs, m, ?_, ?_, hend⟩
          · rwa [List.append_cons]
          · rw [placedTokens_cons, ← hitems]

theorem not_stuck_length : ¬ Stuck mode cs cs.length := by
  rintro ⟨⟨c, hc, -⟩, -⟩
  rw [List.getElem?_eq_none (Nat.le_refl _)] at hc
  cases hc

/-- **What is scanned of a segment** are the tokens of lexemes that cover it up to where it ends or
is stuck. -/
theorem exists_covers (value : Numeral → β) (segment : Nat) (complete : Bool) (mode : Mode)
    (cs : List Char) : ∃ ps n, Covers mode cs ps n ∧
    (scanSegment mode value segment 0 complete 0 cs).items =
      placedTokens value segment complete ps ∧
    EndsAt mode cs n (scanSegment mode value segment 0 complete 0 cs).outcome :=
  (Covers.nil mode cs).scanSegment

theorem EndsAt.column {o : Except (String × Nat) Bool} (h : EndsAt mode cs n o) :
    n = cs.length ∨ Stuck mode cs n :=
  h.imp And.left And.left

/-- A segment that can be covered is scanned to its end. -/
theorem Covers.outcome_of_all (value : Numeral → β) (segment : Nat) (complete : Bool)
    (h : Covers mode cs ps cs.length) :
    ∃ after, (Milp.scanSegment mode value segment 0 complete 0 cs).outcome = .ok after := by
  obtain ⟨qs, m, hcovers, -, hend⟩ := exists_covers value segment complete mode cs
  obtain rfl : m = cs.length := hcovers.column_unique h hend.column (.inl rfl)
  rcases hend with ⟨-, hok⟩ | ⟨hstuck, -⟩
  · exact hok
  · exact absurd hstuck not_stuck_length

/-- A segment is stuck where the text in front is covered. -/
theorem Covers.outcome_of_stuck (value : Numeral → β) (segment : Nat) (complete : Bool)
    (h : Covers mode cs ps n) (hstuck : Stuck mode cs n) :
    (Milp.scanSegment mode value segment 0 complete 0 cs).outcome =
      .error (firstOf (cs.drop n), n) := by
  obtain ⟨qs, m, hcovers, -, hend⟩ := exists_covers value segment complete mode cs
  obtain rfl : m = n := hcovers.column_unique h hend.column (.inr hstuck)
  rcases hend with ⟨rfl, -⟩ | ⟨-, herror⟩
  · exact absurd hstuck not_stuck_length
  · exact herror

end Segment

/-! ### Templates -/

/-- **What the tokens of a template are and how they end.** The tokens of a segment are those of the
lexemes that cover it; between two segments comes one token for the operand there. They end with the
last segment, where a segment is stuck, or at an operand that cannot be read. -/
inductive Accounts {ω β κ : Type} (mode : Mode) (value : Numeral → β)
    (read : ω → Except κ (Symbol β)) (source : Except κ String) : Nat → Bool → String →
      List (ω × String) → List (Token β) → Except (ScanError κ) Unit → Prop
  | last {index complete segment} {ps : List (Nat × Lexeme)} :
      Covers mode segment.toList ps segment.toList.length →
      Accounts mode value read source index complete segment []
        (placedTokens value index complete ps) (.ok ())
  | stuck {index complete segment rest} {ps : List (Nat × Lexeme)} {n : Nat} :
      Covers mode segment.toList ps n → Stuck mode segment.toList n →
      Accounts mode value read source index complete segment rest
        (placedTokens value index complete ps)
        (.error (.ofChar source segment (firstOf (segment.toList.drop n), n)))
  | refused {index complete segment o next rest e} {ps : List (Nat × Lexeme)} :
      Covers mode segment.toList ps segment.toList.length → read o = .error e →
      Accounts mode value read source index complete segment ((o, next) :: rest)
        (placedTokens value index complete ps) (.error (.operand e))
  | operand {index complete segment o next rest s ts out} {ps : List (Nat × Lexeme)} :
      Covers mode segment.toList ps segment.toList.length → read o = .ok s →
      Accounts mode value read source (index + 1) true next rest ts out →
      Accounts mode value read source index complete segment ((o, next) :: rest)
        (placedTokens value index complete ps ++ ⟨s, some index, none⟩ :: ts) out

section Template

variable {ω β κ : Type} {value : Numeral → β} {read : ω → Except κ (Symbol β)}
  {source : Except κ String} {index : Nat} {complete : Bool} {segment : String}
  {rest : List (ω × String)}

theorem accounts_scanFrom : Accounts mode value read source index complete segment rest
    (scanFrom mode value read source index complete segment rest).items
    (scanFrom mode value read source index complete segment rest).outcome := by
  induction rest generalizing index complete segment with
  | nil =>
    obtain ⟨ps, n, hcovers, hitems, ⟨rfl, after, hok⟩ | ⟨hstuck, herror⟩⟩ :=
      exists_covers value index complete mode segment.toList
    · rw [scanFrom, Feed.items_andThen, Feed.outcome_andThen, Feed.outcome_mapError,
        Feed.items_mapError, hitems, hok]
      simpa [Feed.items, Feed.outcome, Except.bind] using .last hcovers
    · rw [scanFrom, Feed.items_andThen, Feed.outcome_andThen, Feed.outcome_mapError,
        Feed.items_mapError, hitems, herror]
      simpa using .stuck hcovers hstuck
  | cons p rest ih =>
    obtain ⟨o, next⟩ := p
    obtain ⟨ps, n, hcovers, hitems, ⟨rfl, after, hok⟩ | ⟨hstuck, herror⟩⟩ :=
      exists_covers value index complete mode segment.toList
    · rw [scanFrom, Feed.items_andThen, Feed.outcome_andThen, Feed.outcome_mapError,
        Feed.items_mapError, hitems, hok]
      cases ho : read o with
      | error e => simpa [Feed.items, Feed.outcome, Except.bind] using .refused hcovers ho
      | ok s => exact .operand hcovers ho ih
    · rw [scanFrom, Feed.items_andThen, Feed.outcome_andThen, Feed.outcome_mapError,
        Feed.items_mapError, hitems, herror]
      simpa using .stuck hcovers hstuck

namespace Template

/-- **The segments in front of one are covered**, and the operands between can be read. -/
def Reaches (mode : Mode) (read : ω → Except κ (Symbol β)) (t : Template ω) (i : Nat) : Prop :=
  ∀ j < i, (∃ s ps, t.segments[j]? = some s ∧ Covers mode s.toList ps s.toList.length) ∧
    ∃ o x, t.operands[j]? = some o ∧ read o = .ok x

theorem reaches_zero (t : Template ω) : t.Reaches mode read 0 :=
  fun j hj => absurd hj (Nat.not_lt_zero j)

theorem reaches_succ_iff {o : ω} {next : String} {i : Nat} :
    (⟨segment, (o, next) :: rest⟩ : Template ω).Reaches mode read (i + 1) ↔
      (∃ ps, Covers mode segment.toList ps segment.toList.length) ∧ (∃ x, read o = .ok x) ∧
        (⟨next, rest⟩ : Template ω).Reaches mode read i := by
  constructor
  · intro h
    obtain ⟨⟨s, ps, hs, hcovers⟩, o', x, ho, hx⟩ := h 0 (Nat.succ_pos i)
    obtain rfl := Option.some.inj hs
    obtain rfl := Option.some.inj ho
    exact ⟨⟨ps, hcovers⟩, ⟨x, hx⟩, fun j hj => h (j + 1) (Nat.succ_lt_succ hj)⟩
  · rintro ⟨⟨ps, hcovers⟩, ⟨x, hx⟩, h⟩ j hj
    cases j with
    | zero => exact ⟨⟨segment, ps, rfl, hcovers⟩, o, x, rfl, hx⟩
    | succ j => exact h j (Nat.lt_of_succ_lt_succ hj)

end Template

/-- A character that starts no lexeme is an error of its own if the source can be written. -/
theorem ScanError.ofChar_eq_lexical_iff {c : String × Nat} {e : LexicalError} :
    ScanError.ofChar source segment c = .lexical e ↔
      ∃ text, source = .ok text ∧ e = ⟨c.1, c.2, segment, text⟩ := by
  cases source with
  | error k =>
    constructor
    · intro h
      cases h
    · rintro ⟨text, h, -⟩
      cases h
  | ok text =>
    constructor
    · intro h
      exact ⟨text, rfl, (ScanError.lexical.inj h).symm⟩
    · rintro ⟨text', h, rfl⟩
      obtain rfl := Except.ok.inj h
      rfl

theorem Accounts.exists_stuck {ts : List (Token β)} {out : Except (ScanError κ) Unit}
    (h : Accounts mode value read source index complete segment rest ts out) {e : LexicalError}
    (hout : out = .error (.lexical e)) :
    ∃ i s ps n text, (⟨segment, rest⟩ : Template ω).segments[i]? = some s ∧
      (⟨segment, rest⟩ : Template ω).Reaches mode read i ∧ Covers mode s.toList ps n ∧
      Stuck mode s.toList n ∧ source = .ok text ∧
      e = ⟨firstOf (s.toList.drop n), n, s, text⟩ := by
  induction h with
  | last => cases hout
  | @stuck index complete segment rest ps n hcovers hstuck =>
    obtain ⟨text, htext, he⟩ := ScanError.ofChar_eq_lexical_iff.1 (Except.error.inj hout)
    exact ⟨0, segment, ps, n, text, rfl, Template.reaches_zero _, hcovers, hstuck, htext, he⟩
  | refused => cases hout
  | operand hcovers ho _ ih =>
    obtain ⟨i, s, ps, n, text, hs, hreaches, hrest⟩ := ih hout
    exact ⟨i + 1, s, ps, n, text, hs, Template.reaches_succ_iff.2 ⟨⟨_, hcovers⟩, ⟨_, ho⟩, hreaches⟩,
      hrest⟩

theorem outcome_scanFrom_of_stuck {s : String} {i : Nat}
    (hs : (⟨segment, rest⟩ : Template ω).segments[i]? = some s)
    (hreaches : (⟨segment, rest⟩ : Template ω).Reaches mode read i)
    (hcovers : Covers mode s.toList ps n) (hstuck : Stuck mode s.toList n) :
    (scanFrom mode value read source index complete segment rest).outcome =
      .error (.ofChar source s (firstOf (s.toList.drop n), n)) := by
  induction i generalizing index complete segment rest with
  | zero =>
    obtain rfl : segment = s := Option.some.inj hs
    have herror := hcovers.outcome_of_stuck value index complete hstuck
    cases rest with
    | nil =>
      rw [scanFrom, Feed.outcome_andThen, Feed.outcome_mapError, herror]
      rfl
    | cons p rest =>
      rw [scanFrom, Feed.outcome_andThen, Feed.outcome_mapError, herror]
      rfl
  | succ i ih =>
    cases rest with
    | nil => cases hs
    | cons p rest =>
      obtain ⟨o, next⟩ := p
      obtain ⟨⟨qs, hall⟩, ⟨x, hx⟩, hreaches⟩ := Template.reaches_succ_iff.1 hreaches
      obtain ⟨after, hok⟩ := hall.outcome_of_all value index complete
      rw [scanFrom, Feed.outcome_andThen, Feed.outcome_mapError, hok, hx]
      exact ih hs hreaches

/-- **Where there is a lexical error**: a segment that is reached is stuck, and the source can be
written. -/
theorem outcome_scanFrom_eq_lexical_iff {e : LexicalError} :
    (scanFrom mode value read source index complete segment rest).outcome = .error (.lexical e) ↔
      ∃ i s ps n text, (⟨segment, rest⟩ : Template ω).segments[i]? = some s ∧
        (⟨segment, rest⟩ : Template ω).Reaches mode read i ∧ Covers mode s.toList ps n ∧
        Stuck mode s.toList n ∧ source = .ok text ∧
        e = ⟨firstOf (s.toList.drop n), n, s, text⟩ := by
  constructor
  · exact accounts_scanFrom.exists_stuck
  · rintro ⟨i, s, ps, n, text, hs, hreaches, hcovers, hstuck, htext, rfl⟩
    rw [outcome_scanFrom_of_stuck hs hreaches hcovers hstuck,
      ScanError.ofChar_eq_lexical_iff.2 ⟨text, htext, rfl⟩]

end Template

namespace Template

variable {ν α : Type} [Name ν] [Scalar α]

/-- **The tokens of a template cover it.** They are those of the lexemes that cover its segments,
with one for each operand between. They end with a lexical error exactly if a segment that is reached
is stuck behind a part of it that is covered, and the template can be written; the error tells where
this is. Columns count code points, and the value of a numeral is the double in its text. -/
theorem tokens_cover (name : Var → ν) (mode : Mode) (t : Template (Operand ν α)) :
    Accounts mode (fun n => .number n.value) (Operand.symbol name)
      ((t.substituted (Operand.inSource name)).mapError .name) 0 false t.first t.rest
      (t.tokens name mode).items (t.tokens name mode).outcome ∧
    (∀ e, (t.tokens name mode).outcome = .error (.lexical e) ↔
      ∃ i ps, t.segments[i]? = some e.segment ∧ t.Reaches mode (Operand.symbol name) i ∧
        Covers mode e.segment.toList ps e.index ∧ Stuck mode e.segment.toList e.index ∧
        (singles e.segment)[e.index]? = some e.char ∧
        t.substituted (Operand.inSource name) = .ok e.source) ∧
    (∀ (s : String) ps n, Covers mode s.toList ps n →
      ∀ i < n, (singles s)[i]? = s.toList[i]?.map String.singleton) ∧
    ∀ n : Numeral, n.Valid → ∃ x, Double.ofText? (String.ofList n.chars) = some x ∧
      (n.value : Number) = .double x := by
  refine ⟨accounts_scanFrom, fun e => ?_, fun s ps n h => h.singles_getElem?.1,
    fun n => Double.ofText?_chars⟩
  rw [tokens, scan, outcome_scanFrom_eq_lexical_iff]
  constructor
  · rintro ⟨i, s, ps, n, text, hs, hreaches, hcovers, hstuck, htext, rfl⟩
    exact ⟨i, ps, hs, hreaches, hcovers, hstuck, hcovers.singles_getElem?.2 hstuck,
      Except.mapError_eq_ok_iff.1 htext⟩
  · rintro ⟨i, ps, hs, hreaches, hcovers, hstuck, hchar, htext⟩
    obtain ⟨char, index, segment, source⟩ := e
    obtain rfl : firstOf (segment.toList.drop index) = char :=
      Option.some.inj ((hcovers.singles_getElem?.2 hstuck).symm.trans hchar)
    exact ⟨i, segment, ps, index, source, hs, hreaches, hcovers, hstuck,
      Except.mapError_eq_ok_iff.2 htext, rfl⟩

/-- `2$`. -/
def twoAndStray : Template (Operand String Rat) := ⟨"2$", []⟩

/-- The numeral is covered and is two; the character behind it starts no lexeme. -/
theorem tokens_twoAndStray :
    (∃ ps, Covers .expression "2$".toList ps 1 ∧ (singles "2$")[0]? = some "2") ∧
    Stuck .expression "2$".toList 1 ∧
    ∃ x, Double.ofText? "2" = some x ∧ (Numeral.value ⟨none, ['2'], []⟩ : Number) = .double x := by
  obtain ⟨-, hlexical, hcolumns, hvalue⟩ := tokens_cover (fun _ => "x") .expression twoAndStray
  obtain ⟨i, ps, -, -, hcovers, hstuck, -⟩ := (hlexical ⟨"$", 1, "2$", "2$"⟩).1 (by decide +kernel)
  refine ⟨⟨ps, hcovers, hcolumns _ _ _ hcovers 0 (by decide)⟩, hstuck, ?_⟩
  have htwo : Numeral.read? ['2'] = some ⟨none, ['2'], []⟩ := by decide
  obtain ⟨x, hx, hx'⟩ := hvalue ⟨none, ['2'], []⟩ (Numeral.read?_sound htwo).1
  rw [(by decide : String.ofList (Numeral.chars ⟨none, ['2'], []⟩) = "2")] at hx
  exact ⟨x, hx, hx'⟩

/-- `${}`, with an integer at the placeholder that has too many digits to be written. -/
def strayBesideGiant : Template (Operand String Number) :=
  ⟨"$", [(.number (.whole (10 ^ 4300)), "")]⟩

/-- Where the source cannot be written there is no lexical error, although no lexeme starts at its
first character. -/
theorem tokens_strayBesideGiant :
    strayBesideGiant.segments[0]? = some "$" ∧
    strayBesideGiant.Reaches .expression (Operand.symbol fun _ => "x") 0 ∧
    Covers .expression "$".toList [] 0 ∧ Stuck .expression "$".toList 0 ∧
    ∀ e, (strayBesideGiant.tokens (fun _ => "x") .expression).outcome ≠ .error (.lexical e) := by
  have hstuck : Stuck .expression "$".toList 0 :=
    stuck_iff.2 ⟨⟨'$', by decide, by decide⟩, by decide⟩
  refine ⟨rfl, reaches_zero _, Covers.nil _ _, hstuck, fun e he => ?_⟩
  have hgiant : (strayBesideGiant.substituted (Operand.inSource fun _ => "x")).toOption.isSome =
      false := by decide +kernel
  obtain ⟨i, s, ps, n, text, -, -, -, -, htext, -⟩ := outcome_scanFrom_eq_lexical_iff.1 he
  have htext := Except.isSome_toOption_iff.2 ⟨text, Except.mapError_eq_ok_iff.1 htext⟩
  simp [hgiant] at htext

end Template

end Milp
