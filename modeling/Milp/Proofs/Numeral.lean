import Milp.Number
import Milp.Proofs.Splicing
import Mathlib.Data.List.TakeWhile

/-!
# Numerals as doubles

The text of a numeral is also one that a double is read from. Nothing stands around it and nothing
groups its digits, so that what is read is its sign, its digits and the place of its point: the
value that the numeral has as a number.
-/

namespace Milp

open Text

namespace Double

/-! ### Texts without margins and underscores -/

theorem trimmed_of_forall {cs : List Char} (h : ∀ c ∈ cs, isMargin c = false) :
    trimmed cs = cs := by
  have hdrop : ∀ {ds : List Char}, (∀ c ∈ ds, isMargin c = false) → ds.dropWhile isMargin = ds :=
    fun hds => List.dropWhile_eq_self_iff.2 fun hl => by simp [hds _ (List.getElem_mem hl)]
  rw [trimmed, hdrop h, hdrop fun c hc => h c (List.mem_reverse.1 hc), List.reverse_reverse]

theorem groupingOk_of_forall {cs : List Char} (h : ∀ c ∈ cs, c ≠ '_') (afterDigit : Bool) :
    groupingOk afterDigit cs = true := by
  induction cs generalizing afterDigit with
  | nil => simp [groupingOk]
  | cons c cs ih =>
    have hc : c ≠ '_' := h c List.mem_cons_self
    have hcs := ih (fun d hd => h d (List.mem_cons_of_mem c hd)) (isDigit c)
    rw [groupingOk]
    · exact hcs
    · exact fun d ds hd => absurd hd hc
    · exact fun hd => absurd hd hc

theorem ungrouped?_of_forall {cs : List Char} (h : ∀ c ∈ cs, c ≠ '_') :
    ungrouped? cs = some cs := by
  have hkept : cs.filter (· != '_') = cs := List.filter_eq_self.2 fun c hc => by simpa using h c hc
  rw [ungrouped?, if_pos (groupingOk_of_forall h false), hkept]

/-! ### Numerals -/

variable {n : Numeral}

/-- The sign is read off a numeral. -/
theorem readSign_chars (h : n.Valid) : readSign n.chars = (n.sign == some '-', n.body) := by
  rw [Numeral.chars_eq]
  cases hsign : n.sign with
  | none =>
    obtain ⟨d, ds, hbody, hd⟩ := h.body_head
    rw [Option.toList_none, List.nil_append, hbody, readSign]
    · rfl
    · rintro ds' ⟨rfl, -⟩
      exact absurd hd (by decide)
    · rintro ds' ⟨rfl, -⟩
      exact absurd hd (by decide)
  | some c =>
    have hc := h.sign c hsign
    simp only [Numeral.isSign, Bool.or_eq_true, decide_eq_true_eq] at hc
    obtain rfl | rfl := hc <;> rfl

/-- The digits are all that is behind the sign. -/
theorem readDigits?_body (h : n.Valid) (negative : Bool) : readDigits? negative n.body =
    some (ofDecimal negative (digitsValue (n.whole ++ n.fraction)) (-n.fraction.length), []) := by
  have hhead := Numeral.head?_fractionChars n.fraction
  have hne : n.whole.isEmpty = false := by simpa using h.whole_ne
  rw [readDigits?, Numeral.body, takeWhile_isDigit_append h.whole hhead,
    dropWhile_isDigit_append h.whole hhead]
  by_cases hnil : n.fraction = []
  · simp [hnil, hne, Numeral.fractionChars, readExponent, guard]
  · have htake : n.fraction.takeWhile isDigit = n.fraction :=
      List.takeWhile_eq_self_iff.2 h.fraction
    have hdrop : n.fraction.dropWhile isDigit = [] := List.dropWhile_eq_nil_iff.2 h.fraction
    simp [hnil, hne, htake, hdrop, Numeral.fractionChars, readExponent, guard]

/-- **The value of a numeral is the double in its text.** -/
theorem ofText?_chars (h : n.Valid) : ∃ x, ofText? (String.ofList n.chars) = some x ∧
    (n.value : Number) = .double x := by
  have hblank : ∀ c ∈ n.chars, isMargin c = false := by
    intro c hc
    have hc : isBlank c = false := by
      obtain hs | hd | rfl := Lexeme.numeral_of_mem_chars h hc
      · simp only [Numeral.isSign, Bool.or_eq_true, decide_eq_true_eq] at hs
        obtain rfl | rfl := hs <;> decide
      · exact isBlank_of_isDigit hd
      · decide
    simp [isMargin, hc]
  have hgroup : ∀ c ∈ n.chars, c ≠ '_' := by
    rintro c hc rfl
    exact absurd (Lexeme.numeral_of_mem_chars h hc) (by decide)
  refine ⟨_, ?_, rfl⟩
  rw [ofText?, String.toList_ofList, trimmed_of_forall hblank, ungrouped?_of_forall hgroup]
  simp only [readNumber?, readSign_chars h, readDigits?_body h, Option.bind_eq_bind,
    Option.bind_some, Option.orElse_eq_orElse, Option.orElse_some]
  rfl

end Double

end Milp
