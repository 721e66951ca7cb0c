import Milp.Lexeme

/-!
# The longest lexeme

Which lexemes there are is said by `Lexeme.Valid`, without the way in which they are read. Reading
finds the longest valid lexeme at the start of a text, and each valid lexeme is read back from its
own characters.
-/

namespace Milp

open Text

/-- The characters are digits, with a point in front of the last ones if there are two rows. -/
structure Numeral.Valid (n : Numeral) : Prop where
  sign : ∀ c ∈ n.sign, Numeral.isSign c
  whole_ne : n.whole ≠ []
  whole : ∀ c ∈ n.whole, isDigit c
  fraction : ∀ c ∈ n.fraction, isDigit c

/-- The lexemes that there are in a mode. -/
inductive Lexeme.Valid (mode : Mode) : Lexeme → Prop
  | numeral {n} : n.Valid → Valid mode (.numeral n)
  | operator {c} : c ∈ ['+', '-', '*', '/'] → Valid mode (.operator c)
  | opening : Valid mode .opening
  | closing : Valid mode .closing
  | comparator (s) : mode = .constraint → Valid mode (.comparator s)

/-- The lexeme stands at the start of the text, and no longer one does. -/
structure Lexeme.Starts (mode : Mode) (l : Lexeme) (cs : List Char) : Prop where
  valid : l.Valid mode
  stands : l.chars <+: cs
  longest : ∀ l' : Lexeme, l'.Valid mode → l'.chars <+: cs → l'.chars.length ≤ l.chars.length

/-! ### Rows of digits -/

theorem isDigit_point : isDigit '.' = false := by decide

theorem isDigit_of_isSign {c : Char} (h : Numeral.isSign c) : isDigit c = false := by
  simp only [Numeral.isSign, Bool.or_eq_true, decide_eq_true_eq] at h
  rcases h with rfl | rfl <;> decide

/-- Digits do not separate lexemes: the rows of digits and the ranges of blanks are disjoint. -/
theorem isBlank_of_isDigit {c : Char} (h : isDigit c) : isBlank c = false := by
  have apart : ∀ z ∈ digitZeros, ∀ r ∈ blankRanges, r.2 < z ∨ z + 10 ≤ r.1 := by decide
  obtain ⟨n, hn⟩ := Option.isSome_iff_exists.1 h
  obtain ⟨z, hz, -⟩ := Option.map_eq_some_iff.1 hn
  have hrow := List.find?_some hz
  simp only [Bool.and_eq_true, decide_eq_true_eq] at hrow
  simp only [isBlank, List.any_eq_false, Bool.and_eq_true, decide_eq_true_eq]
  intro r hr
  have := apart z (List.mem_of_find?_eq_some hz) r hr
  omega

/-- A row of digits in front of something else is all that is taken. -/
theorem takeWhile_isDigit_append {ds cs : List Char} (hd : ∀ c ∈ ds, isDigit c)
    (hc : ∀ c ∈ cs.head?, isDigit c = false) : (ds ++ cs).takeWhile isDigit = ds := by
  rw [List.takeWhile_append_of_pos hd]
  cases cs with
  | nil => simp
  | cons c cs => simp [hc c rfl]

theorem dropWhile_isDigit_append {ds cs : List Char} (hd : ∀ c ∈ ds, isDigit c)
    (hc : ∀ c ∈ cs.head?, isDigit c = false) : (ds ++ cs).dropWhile isDigit = cs := by
  rw [List.dropWhile_append_of_pos hd]
  cases cs with
  | nil => rfl
  | cons c cs => simp [hc c rfl]

/-- Digits at the start of a text belong to the row that is taken. -/
theorem length_le_takeWhile_isDigit {ds cs : List Char} (hd : ∀ c ∈ ds, isDigit c)
    (h : ds <+: cs) : ds.length ≤ (cs.takeWhile isDigit).length := by
  obtain ⟨rest, rfl⟩ := h
  rw [List.takeWhile_append_of_pos hd, List.length_append]
  omega

/-! ### Numerals -/

namespace Numeral

/-- The point and the digits after it, if there are any. -/
def fractionChars (ds : List Char) : List Char := if ds.isEmpty then [] else '.' :: ds

/-- The characters of a numeral without its sign. -/
def body (n : Numeral) : List Char := n.whole ++ fractionChars n.fraction

theorem chars_eq (n : Numeral) : n.chars = n.sign.toList ++ n.body := List.append_assoc ..

theorem head?_fractionChars (ds : List Char) :
    ∀ c ∈ (fractionChars ds).head?, isDigit c = false := by
  intro c hc
  cases ds with
  | nil => simp [fractionChars] at hc
  | cons d ds =>
    obtain rfl : '.' = c := by simpa [fractionChars] using hc
    exact isDigit_point

theorem fractionChars_readFraction (cs : List Char) : fractionChars (readFraction cs) <+: cs := by
  unfold readFraction
  split
  · next cs =>
    unfold fractionChars
    split
    · exact List.nil_prefix
    · exact List.cons_prefix_cons.2 ⟨rfl, List.takeWhile_prefix _⟩
  · exact List.nil_prefix

theorem body_readDigits (sign : Option Char) (cs : List Char) :
    (readDigits sign cs).body <+: cs := by
  have h := List.prefix_append_right_inj (cs.takeWhile isDigit) |>.2
    (fractionChars_readFraction (cs.dropWhile isDigit))
  rwa [List.takeWhile_append_dropWhile] at h

/-- A fraction in front of something that is no digit is read back. -/
theorem readFraction_fractionChars {ds : List Char} (hd : ∀ c ∈ ds, isDigit c) :
    readFraction (fractionChars ds) = ds := by
  unfold fractionChars
  split
  · next h => rw [List.isEmpty_iff.1 h]; rfl
  · have h := takeWhile_isDigit_append hd (by simp : ∀ c ∈ [].head?, isDigit c = false)
    rwa [List.append_nil] at h

theorem readDigits_body {n : Numeral} (h : n.Valid) : readDigits n.sign n.body = n := by
  have hf := head?_fractionChars n.fraction
  unfold readDigits body
  rw [takeWhile_isDigit_append h.whole hf, dropWhile_isDigit_append h.whole hf,
    readFraction_fractionChars h.fraction]

theorem length_fractionChars_le {ds es : List Char} (h : ds.length ≤ es.length) :
    (fractionChars ds).length ≤ (fractionChars es).length := by
  cases ds with
  | nil => exact Nat.zero_le _
  | cons d ds =>
    have hpos : 0 < es.length := Nat.lt_of_lt_of_le (Nat.zero_lt_succ _) h
    obtain ⟨e, es, rfl⟩ := List.exists_cons_of_length_pos hpos
    exact Nat.succ_le_succ h

/-- The digits that are read from a text are as many as those of any numeral at its start. -/
theorem length_body_le {n : Numeral} (h : n.Valid) {cs : List Char} (hn : n.body <+: cs)
    (sign : Option Char) : n.body.length ≤ (readDigits sign cs).body.length := by
  obtain ⟨rest, rfl⟩ := hn
  rw [body, List.append_assoc]
  by_cases hf : n.fraction = []
  · have hw := length_le_takeWhile_isDigit h.whole (List.prefix_append n.whole rest)
    simp only [hf, fractionChars, List.isEmpty_nil, if_true, List.nil_append, List.append_nil]
    exact Nat.le_trans hw (by simp [body, readDigits])
  · -- the point ends the first row, so that both rows are read as they are in the numeral
    have hpoint : ∀ c ∈ (fractionChars n.fraction ++ rest).head?, isDigit c = false := by
      simp [fractionChars, hf, isDigit_point]
    have hfrac : readFraction (fractionChars n.fraction ++ rest) =
        (n.fraction ++ rest).takeWhile isDigit := by
      simp [fractionChars, hf, readFraction]
    unfold readDigits body
    rw [takeWhile_isDigit_append h.whole hpoint, dropWhile_isDigit_append h.whole hpoint, hfrac,
      List.length_append, List.length_append]
    have := length_le_takeWhile_isDigit h.fraction (List.prefix_append n.fraction rest)
    exact Nat.add_le_add_left (length_fractionChars_le this) _

theorem valid_readDigits {sign : Option Char} {cs : List Char} (hs : ∀ c ∈ sign, isSign c)
    (hc : cs.head?.any isDigit) : (readDigits sign cs).Valid := by
  refine ⟨hs, ?_, fun d hd => ?_, fun d hd => ?_⟩
  · cases cs with
    | nil => simp at hc
    | cons c cs => simp [readDigits, show isDigit c = true by simpa using hc]
  · exact List.all_eq_true.1 List.all_takeWhile d hd
  · unfold readDigits readFraction at hd
    split at hd
    · exact List.all_eq_true.1 List.all_takeWhile d hd
    · simp at hd

/-- A numeral starts with its sign or with a digit. -/
theorem Valid.body_head {n : Numeral} (h : n.Valid) : ∃ c cs, n.body = c :: cs ∧ isDigit c := by
  obtain ⟨c, cs, hc⟩ := List.exists_cons_of_ne_nil h.whole_ne
  exact ⟨c, cs ++ fractionChars n.fraction, by simp [body, hc], h.whole c (by simp [hc])⟩

/-- A numeral that is read is valid and stands at the start. -/
theorem read?_sound {cs : List Char} {n : Numeral} (h : read? cs = some n) :
    n.Valid ∧ n.chars <+: cs := by
  unfold read? at h
  split at h
  · simp at h
  · next c cs =>
    split at h
    · next hc =>
      obtain rfl := Option.some.inj h
      exact ⟨valid_readDigits (by simp) hc, body_readDigits none (c :: cs)⟩
    · split at h
      · next hc =>
        obtain rfl := Option.some.inj h
        obtain ⟨hs, hd⟩ := Bool.and_eq_true_iff.1 hc
        refine ⟨valid_readDigits (by simpa using hs) hd, ?_⟩
        exact List.cons_prefix_cons.2 ⟨rfl, body_readDigits (some c) cs⟩
      · simp at h

/-- At the start of a text with a numeral, a numeral is read that is no shorter, and of the text of
a numeral just that one. -/
theorem read?_complete {n : Numeral} (h : n.Valid) {cs : List Char} (hn : n.chars <+: cs) :
    ∃ m, read? cs = some m ∧ n.chars.length ≤ m.chars.length ∧ (n.chars = cs → m = n) := by
  obtain ⟨rest, rfl⟩ := hn
  obtain ⟨d, ds, hb, hd⟩ := h.body_head
  have hlen := length_body_le h (List.prefix_append n.body rest) n.sign
  refine ⟨readDigits n.sign (n.body ++ rest), ?_, ?_, fun hrest => ?_⟩
  · cases hsign : n.sign with
    | none => simp [chars_eq, hsign, hb, read?, hd]
    | some c =>
      have hc : isSign c := h.sign c (by simp [hsign])
      simp [chars_eq, hsign, hb, read?, hd, hc, isDigit_of_isSign hc]
  · rw [chars_eq, chars_eq, List.length_append, List.length_append]
    exact Nat.add_le_add_left hlen _
  · obtain rfl : rest = [] := by simpa using hrest
    rw [List.append_nil, readDigits_body h]

end Numeral

/-! ### All lexemes -/

namespace Lexeme

variable {mode : Mode}

/-- A numeral is read only in front of a digit or a sign. -/
theorem read?_of_ne {c : Char} (cs : List Char) (hd : isDigit c = false)
    (hs : Numeral.isSign c = false) : read? mode (c :: cs) = readSign? mode (c :: cs) := by
  simp [read?, Numeral.read?, hd, hs]

theorem forall_operator {c : Char} (p : Char → Bool) (h : ['+', '-', '*', '/'].all p = true)
    (hc : c ∈ ['+', '-', '*', '/']) : p c = true :=
  List.all_eq_true.1 h c hc

/-- The characters of a valid lexeme: there are some, and the first is no blank. -/
theorem Valid.chars_head {l : Lexeme} (h : l.Valid mode) :
    ∃ c cs, l.chars = c :: cs ∧ isBlank c = false := by
  cases h with
  | @numeral n hn =>
    obtain ⟨d, ds, hb, hd⟩ := hn.body_head
    cases hsign : n.sign with
    | none => exact ⟨d, ds, by simp [chars, Numeral.chars_eq, hsign, hb], isBlank_of_isDigit hd⟩
    | some c =>
      refine ⟨c, n.body, by simp [chars, Numeral.chars_eq, hsign], ?_⟩
      have hc := hn.sign c (by simp [hsign])
      simp only [Numeral.isSign, Bool.or_eq_true, decide_eq_true_eq] at hc
      rcases hc with rfl | rfl <;> decide
  | @operator c hc =>
    exact ⟨c, [], rfl, by simpa using forall_operator (fun c => !isBlank c) (by decide) hc⟩
  | opening => exact ⟨'(', [], rfl, by decide⟩
  | closing => exact ⟨')', [], rfl, by decide⟩
  | comparator s => cases s <;> exact ⟨_, _, rfl, by decide⟩

theorem Valid.length_pos {l : Lexeme} (h : l.Valid mode) : 0 < l.chars.length := by
  obtain ⟨c, cs, hc, -⟩ := h.chars_head
  rw [hc]
  exact Nat.succ_pos _

theorem chars_comparator (s : Sense) : (comparator s).chars =
    match s with
    | .le => ['<', '=']
    | .eq => ['=', '=']
    | .ge => ['>', '='] := by
  cases s <;> decide

theorem readSign?_sound {cs : List Char} {l : Lexeme} (h : readSign? mode cs = some l) :
    l.Valid mode ∧ l.chars <+: cs := by
  unfold readSign? at h
  split at h
  · obtain rfl := Option.some.inj h
    exact ⟨.opening, by simp [chars]⟩
  · obtain rfl := Option.some.inj h
    exact ⟨.closing, by simp [chars]⟩
  · obtain ⟨hm, hl⟩ := Option.ite_none_right_eq_some.1 h
    obtain rfl := Option.some.inj hl
    exact ⟨.comparator _ hm, by simp [chars_comparator]⟩
  · obtain ⟨hm, hl⟩ := Option.ite_none_right_eq_some.1 h
    obtain rfl := Option.some.inj hl
    exact ⟨.comparator _ hm, by simp [chars_comparator]⟩
  · obtain ⟨hm, hl⟩ := Option.ite_none_right_eq_some.1 h
    obtain rfl := Option.some.inj hl
    exact ⟨.comparator _ hm, by simp [chars_comparator]⟩
  · obtain ⟨ho, hl⟩ := Option.ite_none_right_eq_some.1 h
    obtain rfl := Option.some.inj hl
    refine ⟨.operator ?_, by simp [chars]⟩
    simp only [isOperator, Bool.or_eq_true, decide_eq_true_eq] at ho
    rcases ho with ((rfl | rfl) | rfl) | rfl <;> decide
  · simp at h

/-- A lexeme that is read is valid and stands at the start. -/
theorem read?_sound {cs : List Char} {l : Lexeme} (h : read? mode cs = some l) :
    l.Valid mode ∧ l.chars <+: cs := by
  unfold read? at h
  split at h
  · next n hn =>
    obtain rfl := Option.some.inj h
    obtain ⟨hv, hp⟩ := Numeral.read?_sound hn
    exact ⟨.numeral hv, hp⟩
  · exact readSign?_sound h

theorem readSign?_operator {c : Char} (hc : c ∈ ['+', '-', '*', '/']) (cs : List Char) :
    readSign? mode (c :: cs) = some (operator c) := by
  have : isOperator c = true := forall_operator isOperator (by decide) hc
  unfold readSign?
  split <;> simp_all

/-- At the start of a text with a lexeme, a lexeme is read that is no shorter, and of the text of a
lexeme just that one. -/
theorem read?_complete {l : Lexeme} (h : l.Valid mode) {cs : List Char} (hl : l.chars <+: cs) :
    ∃ m, read? mode cs = some m ∧ l.chars.length ≤ m.chars.length ∧ (l.chars = cs → m = l) := by
  cases h with
  | @numeral n hn =>
    obtain ⟨m, hm, hlen, heq⟩ := Numeral.read?_complete hn hl
    exact ⟨.numeral m, by simp [read?, hm], hlen, fun h => congrArg numeral (heq h)⟩
  | @operator c hc =>
    obtain ⟨rest, rfl⟩ := hl
    cases hn : Numeral.read? (c :: rest) with
    | none =>
      refine ⟨operator c, ?_, Nat.le_refl _, fun _ => rfl⟩
      simpa [read?, chars, hn] using readSign?_operator hc rest
    | some n =>
      -- the sign of a numeral, so that the operator is not all of the text
      refine ⟨numeral n, by simp [read?, chars, hn], ?_, fun h => ?_⟩
      · obtain ⟨d, ds, hd, -⟩ := (Numeral.read?_sound hn).1.body_head
        simp only [chars, Numeral.chars_eq, hd, List.length_append, List.length_cons,
          List.length_nil]
        omega
      · obtain rfl : rest = [] := by simpa [chars] using h
        have hd : isDigit c = false := by
          simpa using forall_operator (fun c => !isDigit c) (by decide) hc
        simp [Numeral.read?, hd] at hn
  | opening =>
    obtain ⟨rest, rfl⟩ := hl
    exact ⟨opening, read?_of_ne rest (by decide) (by decide), Nat.le_refl _, fun _ => rfl⟩
  | closing =>
    obtain ⟨rest, rfl⟩ := hl
    exact ⟨closing, read?_of_ne rest (by decide) (by decide), Nat.le_refl _, fun _ => rfl⟩
  | comparator s hm =>
    obtain ⟨rest, rfl⟩ := hl
    refine ⟨comparator s, ?_, Nat.le_refl _, fun _ => rfl⟩
    rw [chars_comparator]
    cases s <;> exact (read?_of_ne _ (by decide) (by decide)).trans (if_pos hm)

/-- A valid lexeme is read back from its own characters. -/
theorem read?_chars {l : Lexeme} (h : l.Valid mode) : read? mode l.chars = some l := by
  obtain ⟨m, hm, -, heq⟩ := read?_complete h (List.prefix_refl _)
  rw [hm, heq rfl]

/-- **Reading finds the longest lexeme** at the start of a text. -/
theorem read?_eq_some_iff {cs : List Char} {l : Lexeme} :
    read? mode cs = some l ↔ l.Starts mode cs := by
  constructor
  · intro h
    obtain ⟨hv, hp⟩ := read?_sound h
    refine ⟨hv, hp, fun l' hv' hp' => ?_⟩
    obtain ⟨m, hm, hlen, -⟩ := read?_complete hv' hp'
    obtain rfl := Option.some.inj (h.symm.trans hm)
    exact hlen
  · intro h
    obtain ⟨m, hm, hlen, -⟩ := read?_complete h.valid h.stands
    obtain ⟨hv, hp⟩ := read?_sound hm
    -- two prefixes of one length are the same text, and it is read as one lexeme only
    have hlen' : l.chars.length = m.chars.length := Nat.le_antisymm hlen (h.longest m hv hp)
    have hchars : l.chars = m.chars :=
      (List.prefix_of_prefix_length_le h.stands hp hlen).eq_of_length hlen'
    have hsome := (read?_chars h.valid).symm.trans (hchars ▸ read?_chars hv)
    rw [hm, Option.some.inj hsome]

end Lexeme

end Milp
