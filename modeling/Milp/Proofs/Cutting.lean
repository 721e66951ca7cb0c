import Milp.Proofs.Formula

/-!
# Texts cut in two

Where no lexeme could reach over the seam of two texts, the texts are spelled one after the other:
`Spells.append_iff`. Without that the longest lexeme at the end of the first text may go on in the
second one.
-/

namespace Milp

variable {mode : Mode} {cs ds : List Char}

namespace Lexeme

/-- No lexeme reaches over the seam of the two texts. -/
def Apart (mode : Mode) (cs ds : List Char) : Prop :=
  ∀ l : Lexeme, l.Valid mode → ∀ us vs, us <:+ cs → vs <+: ds → l.chars = us ++ vs →
    us = [] ∨ vs = []

variable {l : Lexeme}

theorem Apart.of_suffix {us : List Char} (h : Apart mode cs ds) (hu : us <:+ cs) :
    Apart mode us ds :=
  fun l hl as bs has => h l hl as bs (has.trans hu)

/-- A lexeme over the seam has the characters on both sides of it. -/
theorem apart_of_ends (h : ∀ l : Lexeme, l.Valid mode → ∀ x ∈ cs.getLast?, ∀ y ∈ ds.head?,
    x ∈ l.chars → y ∈ l.chars → l.chars.length ≤ 1) : Apart mode cs ds := by
  intro l hl us vs hus hvs hchars
  obtain rfl | ⟨us, x, rfl⟩ := List.eq_nil_or_concat us
  · exact .inl rfl
  cases vs with
  | nil => exact .inr rfl
  | cons y vs =>
    rw [List.concat_eq_append] at hus hchars
    have hx : x ∈ cs.getLast? := by
      obtain ⟨as, rfl⟩ := hus
      rw [← List.append_assoc, List.getLast?_concat]
      rfl
    have hy : y ∈ ds.head? := by
      obtain ⟨bs, rfl⟩ := hvs
      rfl
    have hlen := h l hl x hx y hy (by simp [hchars]) (by simp [hchars])
    simp only [hchars, List.length_append, List.length_cons, List.length_nil] at hlen
    omega

/-- The lexeme at the start of a text stays so when a text is put behind that stands apart. -/
theorem Starts.append (h : l.Starts mode cs) (hseam : Apart mode cs ds) :
    l.Starts mode (cs ++ ds) := by
  refine ⟨h.valid, h.stands.trans (List.prefix_append _ _), fun l' hl' hp => ?_⟩
  obtain hle | hlt := Nat.lt_or_ge cs.length l'.chars.length |>.symm
  · exact h.longest l' hl' (List.prefix_of_prefix_length_le hp (List.prefix_append _ _) hle)
  · -- a lexeme that is longer than the first text would reach over the seam
    obtain ⟨vs, hvs⟩ := List.prefix_of_prefix_length_le (List.prefix_append _ _) hp hlt.le
    have hpre : vs <+: ds := by
      rw [← hvs] at hp
      exact (List.prefix_append_right_inj cs).1 hp
    obtain hnil | hnil := hseam l' hl' cs vs List.suffix_rfl hpre hvs.symm
    · obtain ⟨c, xs, hx, -⟩ := h.valid.chars_head
      have hstands := h.stands
      rw [hnil, hx] at hstands
      exact absurd (List.prefix_nil.1 hstands) (List.cons_ne_nil _ _)
    · rw [← hvs, hnil, List.append_nil] at hlt
      exact absurd hlt (Nat.lt_irrefl _)

/-- The lexeme at the start of a text is that of a shorter text that it stands in. -/
theorem Starts.of_append (h : l.Starts mode (cs ++ ds)) (hl : l.chars <+: cs) :
    l.Starts mode cs :=
  ⟨h.valid, hl, fun l' hl' hp => h.longest l' hl' (hp.trans (List.prefix_append _ _))⟩

/-- A lexeme is all that its characters are spelled in. -/
theorem starts_chars (h : l.Valid mode) : l.Starts mode l.chars :=
  read?_eq_some_iff.1 (read?_chars h)

end Lexeme

open Lexeme

/-! ### What they are spelled in -/

namespace Spells

variable {ls ls' : List Lexeme}

theorem append (h : Spells mode cs ls) (h' : Spells mode ds ls') (hseam : Apart mode cs ds) :
    Spells mode (cs ++ ds) (ls ++ ls') := by
  induction h with
  | nil => exact h'
  | blank hblank _ ih => exact .blank hblank (ih (hseam.of_suffix (List.suffix_cons _ _)))
  | @lexeme l cs ls hl _ ih =>
    have hstarts := hl.append hseam
    rw [List.append_assoc] at hstarts ⊢
    exact .lexeme hstarts (ih (hseam.of_suffix (List.suffix_append _ _)))

/-- What two texts are spelled in is cut at their seam. -/
theorem of_append (h : Spells mode (cs ++ ds) ls) (hseam : Apart mode cs ds) :
    ∃ ls₁ ls₂, ls = ls₁ ++ ls₂ ∧ Spells mode cs ls₁ ∧ Spells mode ds ls₂ := by
  generalize htext : cs ++ ds = text at h
  induction h generalizing cs with
  | nil =>
    obtain ⟨rfl, rfl⟩ := List.append_eq_nil_iff.1 htext
    exact ⟨[], [], rfl, .nil, .nil⟩
  | @blank x xs ls hblank h ih =>
    cases cs with
    | nil =>
      obtain rfl : ds = x :: xs := htext
      exact ⟨[], ls, rfl, .nil, .blank hblank h⟩
    | cons y cs =>
      obtain ⟨rfl, hrest⟩ := List.cons.inj htext
      obtain ⟨ls₁, ls₂, rfl, h₁, h₂⟩ := ih (hseam.of_suffix (List.suffix_cons _ _)) hrest
      exact ⟨ls₁, ls₂, rfl, .blank hblank h₁, h₂⟩
  | @lexeme l xs ls hl h ih =>
    obtain ⟨as, hcs, hxs⟩ | ⟨as, hchars, hds⟩ := List.append_eq_append_iff.1 htext.symm
    · -- the lexeme ends before the seam
      obtain rfl := hcs
      obtain ⟨ls₁, ls₂, rfl, h₁, h₂⟩ := ih (hseam.of_suffix (List.suffix_append _ _)) hxs.symm
      rw [hxs, ← List.append_assoc] at hl
      exact ⟨l :: ls₁, ls₂, rfl, .lexeme (hl.of_append (List.prefix_append _ _)) h₁, h₂⟩
    · -- it reaches up to the seam or over it, so it begins or ends there
      obtain rfl | rfl := hseam l hl.valid cs as List.suffix_rfl ⟨xs, hds.symm⟩ hchars
      · obtain rfl : l.chars = as := hchars
        exact ⟨[], l :: ls, rfl, .nil, hds ▸ .lexeme hl h⟩
      · rw [List.append_nil] at hchars
        obtain rfl : ds = xs := hds
        have hstarts : l.Starts mode (l.chars ++ []) := by
          rw [List.append_nil]
          exact starts_chars hl.valid
        refine ⟨[l], ls, rfl, ?_, h⟩
        rw [← hchars, ← List.append_nil l.chars]
        exact .lexeme hstarts .nil

/-- **Texts that stand apart are spelled one after the other.** -/
theorem append_iff (hseam : Apart mode cs ds) : Spells mode (cs ++ ds) ls ↔
    ∃ ls₁ ls₂, ls = ls₁ ++ ls₂ ∧ Spells mode cs ls₁ ∧ Spells mode ds ls₂ := by
  constructor
  · intro h
    exact h.of_append hseam
  · rintro ⟨ls₁, ls₂, rfl, h₁, h₂⟩
    exact h₁.append h₂ hseam

theorem nil_iff : Spells mode [] ls ↔ ls = [] := by
  constructor
  · intro h
    generalize htext : [] = text at h
    cases h with
    | nil => rfl
    | blank => cases htext
    | lexeme hl =>
      obtain ⟨c, cs, hc, -⟩ := hl.valid.chars_head
      rw [hc] at htext
      cases htext
  · rintro rfl
    exact .nil

/-- The characters of a lexeme are spelled in it alone. -/
theorem chars_iff {l : Lexeme} (hl : l.Valid mode) : Spells mode l.chars ls ↔ ls = [l] := by
  constructor
  · intro h
    generalize htext : l.chars = text at h
    obtain ⟨c, cs, hc, hblank⟩ := hl.chars_head
    cases h with
    | nil =>
      rw [hc] at htext
      exact absurd htext (List.cons_ne_nil _ _)
    | blank hx =>
      rw [hc] at htext
      obtain ⟨rfl, -⟩ := List.cons.inj htext
      rw [hblank] at hx
      exact absurd hx Bool.false_ne_true
    | @lexeme l' xs ls' hl' h =>
      -- both are the lexeme that is read from the characters
      have hread := read?_eq_some_iff.2 hl'
      rw [← htext, read?_chars hl] at hread
      obtain rfl := Option.some.inj hread
      obtain rfl : xs = [] := by simpa using htext
      rw [nil_iff.1 h]
  · rintro rfl
    have hstarts : l.Starts mode (l.chars ++ []) := by
      rw [List.append_nil]
      exact starts_chars hl
    rw [← List.append_nil l.chars]
    exact .lexeme hstarts .nil

end Spells

end Milp
