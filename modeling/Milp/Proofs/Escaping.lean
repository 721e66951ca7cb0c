import Milp.Proofs.JsonGrammar
import Mathlib.Data.List.Chain

/-!
# Texts between quotes

A text is written with escapes that stand for its code points, and read back by code points:
`Json.readText_points`. There is one thing that does not come back as it was. The units of a
character beyond the first 65,536 are escaped like two surrogates, so a high surrogate with a low
one behind it is read as that character.
-/

namespace Milp

namespace Text

/-- The first half of a pair. -/
def isHigh (p : Nat) : Bool := 0xD800 ≤ p && p < 0xDC00

/-- The second half of a pair. -/
def isLow (p : Nat) : Bool := 0xDC00 ≤ p && p < 0xE000

/-- The character of which two surrogates are the halves. -/
def join (high low : Nat) : Nat := 0x10000 + (high - 0xD800) * 0x400 + (low - 0xDC00)

/-- The code points, with the character in the place of its halves. -/
def paired : List Nat → List Nat
  | p :: r :: ps =>
    if isHigh p && isLow r then join p r :: paired ps else p :: paired (r :: ps)
  | ps => ps

/-- The text in which the halves of characters are joined. -/
def rejoined (s : String) : String := ofPoints (paired (points s))

theorem paired_eq_self {ps : List Nat}
    (h : ps.IsChain fun p r => (isHigh p && isLow r) = false) : paired ps = ps := by
  induction ps using paired.induct with
  | case1 p r ps hpair =>
    rw [List.isChain_cons_cons] at h
    exact absurd h.1 (by simp [hpair])
  | case2 p r ps hpair ih =>
    rw [List.isChain_cons_cons] at h
    rw [paired, if_neg hpair, ih h.2]
  | case3 ps hps =>
    rw [paired]
    exact hps

/-- A text of code points without halves of one character side by side is left as it is. -/
theorem rejoined_eq_self {s : String} (hs : ofPoints (points s) = s)
    (h : (points s).IsChain fun p r => (isHigh p && isLow r) = false) : rejoined s = s := by
  rw [rejoined, paired_eq_self h, hs]

/-- The code points of a text are below the end of all code points. -/
theorem lt_of_mem_points {s : String} {p : Nat} (h : p ∈ points s) : p < 0x110000 := by
  have hchar : ∀ c : Char, c.toNat < 0x110000 := by
    intro c
    have hvalid := c.valid
    rw [UInt32.isValidChar] at hvalid
    change c.toNat < 0xD800 ∨ 0xDFFF < c.toNat ∧ c.toNat < 0x110000 at hvalid
    omega
  unfold points at h
  generalize s.toList = cs at h
  induction cs using pointsOf.induct with
  | case1 => exact absurd h List.not_mem_nil
  | case2 c =>
    rw [pointsOf, List.mem_singleton] at h
    rw [h]
    exact hchar c
  | case3 d cs ih =>
    rw [pointsOf, if_pos rfl] at h
    obtain rfl | h := List.mem_cons.1 h
    · have := hchar d
      split <;> omega
    · exact ih h
  | case4 c d cs hc ih =>
    rw [pointsOf, if_neg hc] at h
    obtain rfl | h := List.mem_cons.1 h
    · exact hchar c
    · exact ih h

end Text

namespace Json

open Text

/-! ### Units -/

theorem hexDigits_four (u : Nat) : hexDigits u 4 = [Nat.digitChar (u / 4096 % 16),
    Nat.digitChar (u / 256 % 16), Nat.digitChar (u / 16 % 16), Nat.digitChar (u % 16)] := by
  have hplaces : (List.range 4).reverse = [3, 2, 1, 0] := rfl
  rw [hexDigits, hplaces]
  simp only [List.map_cons, List.map_nil, Nat.pow_eq, Nat.reducePow, Nat.div_one]

theorem hexValue?_digitChar : ∀ n < 16, hexValue? (Nat.digitChar n) = some n := by decide

theorem isHexDigit_digitChar : ∀ n < 16, IsHexDigit (Nat.digitChar n) := by
  unfold IsHexDigit
  decide

/-- A unit is read from its four digits, which must not be the end of the text. -/
theorem readUnit?_hexDigits {u : Nat} (hu : u < 0x10000) {tail : List Char} (htail : tail ≠ []) :
    readUnit? (hexDigits u 4 ++ tail) = some (u, tail) := by
  obtain ⟨e, rest, rfl⟩ := List.exists_cons_of_ne_nil htail
  have hvalue : ∀ n, hexValue? (Nat.digitChar (n % 16)) = some (n % 16) := fun n =>
    hexValue?_digitChar _ (Nat.mod_lt _ (by decide))
  rw [hexDigits_four]
  simp only [List.cons_append, List.nil_append, readUnit?, List.mapM_cons, List.mapM_nil, hvalue,
    Option.bind_eq_bind, Option.bind_some, Option.pure_def, List.foldl_cons, List.foldl_nil]
  congr 2
  omega

/-! ### Escapes -/

theorem toNat_ofNat {p : Nat} (h : p.isValidChar) : (Char.ofNat p).toNat = p := by
  rw [Char.ofNat, dif_pos h]
  rfl

/-- **How a code point is escaped**: by a letter, not at all, or by its one unit or its two. -/
theorem escaped_cases {p : Nat} (hp : p < 0x110000) :
    (∃ c d, escaped p = ['\\', c] ∧ c ≠ 'u' ∧ simpleEscape? c = some d ∧ d.toNat = p) ∨
    (∃ c, escaped p = [c] ∧ c.toNat = p ∧ c ≠ doubleMark ∧ c ≠ '\\' ∧ 0x20 ≤ p ∧ p < 0x7F) ∨
    (p < 0x10000 ∧ escaped p = '\\' :: 'u' :: hexDigits p 4) ∨
    (0x10000 ≤ p ∧ escaped p = '\\' :: 'u' :: (hexDigits (0xD800 + (p - 0x10000) / 0x400) 4 ++
      '\\' :: 'u' :: hexDigits (0xDC00 + (p - 0x10000) % 0x400) 4)) := by
  have hnat : ∀ {c : Char}, Char.ofNat p = c → c ≠ Char.ofNat 0 → c.toNat = p := by
    rintro c rfl hc
    by_cases hvalid : p.isValidChar
    · exact toNat_ofNat hvalid
    · rw [Char.ofNat, dif_neg hvalid] at hc
      exact absurd rfl hc
  have hletter : ∀ {c d : Char}, Char.ofNat p = d → d ≠ Char.ofNat 0 → simpleEscape? c = some d →
      c ≠ 'u' → ∃ c' d', ['\\', c] = ['\\', c'] ∧ c' ≠ 'u' ∧ simpleEscape? c' = some d' ∧
        d'.toNat = p :=
    fun hd hne hc hu => ⟨_, _, rfl, hu, hc, hnat hd hne⟩
  unfold escaped
  dsimp only
  split
  next h =>
    refine .inl ?_
    obtain h | h := h
    · rw [h]
      exact hletter h (by decide) rfl (by decide)
    · rw [h]
      exact hletter h (by decide) rfl (by decide)
  next hspecial =>
    split
    next h => exact .inl (hletter h (by decide) rfl (by decide))
    split
    next h => exact .inl (hletter h (by decide) rfl (by decide))
    split
    next h => exact .inl (hletter h (by decide) rfl (by decide))
    split
    next h => exact .inl (hletter h (by decide) rfl (by decide))
    split
    next h => exact .inl (hletter h (by decide) rfl (by decide))
    split
    next hplain =>
      have hvalid : p.isValidChar := .inl (by omega)
      rw [not_or] at hspecial
      exact .inr (.inl ⟨_, rfl, toNat_ofNat hvalid, hspecial.1, hspecial.2, hplain⟩)
    next =>
      refine .inr (.inr ?_)
      unfold units
      split
      next hp => exact .inl ⟨hp, by simp⟩
      next hp => exact .inr ⟨by omega, by simp⟩

/-- The half of a character is escaped as the unit that it is. -/
theorem escaped_half {p : Nat} (h : 0xD800 ≤ p ∧ p < 0xE000) :
    escaped p = '\\' :: 'u' :: hexDigits p 4 := by
  obtain ⟨-, d, -, -, -, hd⟩ | ⟨-, -, -, -, -, hrange⟩ | ⟨-, hp⟩ | ⟨hle, -⟩ :=
    escaped_cases (show p < 0x110000 by omega)
  · have hvalid := d.valid
    rw [UInt32.isValidChar] at hvalid
    change d.toNat < 0xD800 ∨ 0xDFFF < d.toNat ∧ d.toNat < 0x110000 at hvalid
    omega
  · omega
  · exact hp
  · omega

/-- Characters that print are those from the space to the tilde. -/
def IsPlain (c : Char) : Prop := 0x20 ≤ c.toNat ∧ c.toNat < 0x7F

instance (c : Char) : Decidable (IsPlain c) := inferInstanceAs (Decidable (_ ∧ _))

theorem isPlain_hexDigits {u : Nat} : ∀ c ∈ hexDigits u 4, IsPlain c ∧ IsHexDigit c := by
  have hall : ∀ n < 16, IsPlain (Nat.digitChar n) := by
    unfold IsPlain
    decide
  have hmod : ∀ n, n % 16 < 16 := fun n => Nat.mod_lt n (by decide)
  rw [hexDigits_four]
  simp only [List.forall_mem_cons, List.not_mem_nil, false_imp_iff, implies_true, and_true]
  exact ⟨⟨hall _ (hmod _), isHexDigit_digitChar _ (hmod _)⟩,
    ⟨hall _ (hmod _), isHexDigit_digitChar _ (hmod _)⟩,
    ⟨hall _ (hmod _), isHexDigit_digitChar _ (hmod _)⟩,
    hall _ (hmod _), isHexDigit_digitChar _ (hmod _)⟩

theorem length_hexDigits (u : Nat) : (hexDigits u 4).length = 4 := by rw [hexDigits_four]; rfl

theorem length_escaped_pos {p : Nat} (hp : p < 0x110000) : 0 < (escaped p).length := by
  obtain ⟨c, d, h, -⟩ | ⟨c, h, -⟩ | ⟨-, h⟩ | ⟨-, h⟩ := escaped_cases hp <;> rw [h] <;>
    exact Nat.zero_lt_succ _

/-- An escape is one of the grammar, and all its characters print. -/
theorem isBody_escaped {p : Nat} (hp : p < 0x110000) {body : List Char} (hbody : IsBody body) :
    IsBody (escaped p ++ body) ∧ ∀ c ∈ escaped p, IsPlain c := by
  have hunit : ∀ u {cs}, IsBody cs → IsBody ('\\' :: 'u' :: (hexDigits u 4 ++ cs)) := fun u _ h =>
    .unit (length_hexDigits u) (fun d hd => (isPlain_hexDigits d hd).2) h
  have hplain : ∀ u, ∀ c ∈ '\\' :: 'u' :: hexDigits u 4, IsPlain c := fun u =>
    List.forall_mem_cons.2 ⟨by decide, List.forall_mem_cons.2
      ⟨by decide, fun c hc => (isPlain_hexDigits c hc).1⟩⟩
  obtain ⟨c, d, h, hu, hc, -⟩ | ⟨c, h, hcp, hquote, hback, hrange⟩ | ⟨-, h⟩ | ⟨-, h⟩ :=
    escaped_cases hp
  · have hletter : c ∈ [doubleMark, '\\', '/', 'b', 'f', 'n', 'r', 't'] := by
      unfold simpleEscape? at hc
      simp only [List.mem_cons, List.not_mem_nil, or_false]
      split at hc
      next hmarks => tauto
      next =>
        split_ifs at hc <;> simp_all
    have hall : ∀ c ∈ [doubleMark, '\\', '/', 'b', 'f', 'n', 'r', 't'], IsPlain c := by
      simp only [List.forall_mem_cons, List.not_mem_nil, false_implies, implies_true]
      decide
    rw [h]
    exact ⟨.escape hletter hbody, List.forall_mem_cons.2 ⟨by decide, fun d hd =>
      (List.mem_singleton.1 hd) ▸ hall c hletter⟩⟩
  · rw [h]
    refine ⟨.plain (hcp ▸ hrange.1) hquote hback hbody, fun d hd => ?_⟩
    rw [List.mem_singleton.1 hd, IsPlain, hcp]
    exact hrange
  · rw [h]
    exact ⟨hunit p hbody, hplain p⟩
  · rw [h, List.cons_append, List.cons_append, List.append_assoc]
    refine ⟨hunit _ (hunit _ hbody), ?_⟩
    rw [← List.cons_append, ← List.cons_append]
    exact List.forall_mem_append.2 ⟨hplain _, hplain _⟩

theorem isBody_flatMap {ps : List Nat} (hps : ∀ p ∈ ps, p < 0x110000) :
    IsBody (ps.flatMap escaped) ∧ ∀ c ∈ ps.flatMap escaped, IsPlain c := by
  induction ps with
  | nil => exact ⟨.nil, fun c hc => absurd hc List.not_mem_nil⟩
  | cons p ps ih =>
    rw [List.forall_mem_cons] at hps
    obtain ⟨hbody, hplain⟩ := ih hps.2
    obtain ⟨h, hescaped⟩ := isBody_escaped hps.1 hbody
    rw [List.flatMap_cons]
    exact ⟨h, List.forall_mem_append.2 ⟨hescaped, hplain⟩⟩

/-- **A text in quotes is one of the grammar.** -/
theorem isText_textChars (s : String) : IsText (textChars s) ∧ ∀ c ∈ textChars s, IsPlain c := by
  obtain ⟨hbody, hplain⟩ := isBody_flatMap fun p hp => lt_of_mem_points (s := s) hp
  refine ⟨⟨_, hbody, rfl⟩, List.forall_mem_cons.2 ⟨by decide, ?_⟩⟩
  exact List.forall_mem_append.2 ⟨hplain, List.forall_mem_singleton.2 (by decide)⟩

/-! ### Reading -/

/-- A low surrogate in front is noticed. -/
theorem readLow?_unit {u : Nat} (hu : u < 0x10000) {tail : List Char} (htail : tail ≠ []) (i : Nat) :
    readLow? ('\\' :: 'u' :: (hexDigits u 4 ++ tail)) i =
      .ok (if 0xDC00 ≤ u ∧ u < 0xE000 then some (u, tail) else none) := by
  have hlength : ¬ (hexDigits u 4 ++ tail).length < 5 := by
    have := List.length_pos_iff.2 htail
    rw [List.length_append, length_hexDigits]
    omega
  rw [readLow?, if_neg hlength, readUnit?_hexDigits hu htail]

/-- No low surrogate is in front of a text that does not begin with one. -/
theorem readLow?_escaped {p : Nat} (hp : p < 0x110000) (hlow : isLow p = false) {tail : List Char}
    (htail : tail ≠ []) (i : Nat) : readLow? (escaped p ++ tail) i = .ok none := by
  have hnone : ∀ {cs : List Char}, (∀ more, cs ≠ '\\' :: 'u' :: more) → readLow? cs i = .ok none := by
    intro cs hcs
    unfold readLow?
    split
    next more => exact absurd rfl (hcs more)
    next => rfl
  obtain ⟨c, d, h, hu, -⟩ | ⟨c, h, -, -, hback, -⟩ | ⟨hlt, h⟩ | ⟨hle, h⟩ := escaped_cases hp
  · rw [h]
    exact hnone fun more heq => hu (List.cons.inj (List.cons.inj heq).2).1
  · rw [h]
    exact hnone fun more heq => hback (List.cons.inj heq).1
  · rw [h, List.cons_append, List.cons_append, readLow?_unit hlt htail, if_neg]
    simpa [isLow] using hlow
  · rw [h, List.cons_append, List.cons_append, List.append_assoc, readLow?_unit (by omega) (by simp),
      if_neg (by omega)]

theorem readLow?_quote (tail : List Char) (i : Nat) : readLow? (doubleMark :: tail) i = .ok none :=
  rfl

variable (start fuel : Nat) (acc : List Nat) {tail : List Char} (i : Nat)

theorem readText_quote : readText start (fuel + 1) acc (doubleMark :: tail) i =
    .ok (ofPoints acc.reverse, tail, i + 1) := by
  unfold readText
  rw [if_pos rfl]

theorem readText_plain {c : Char} (hquote : c ≠ doubleMark) (hescape : c ≠ '\\')
    (hc : 0x20 ≤ c.toNat) : readText start (fuel + 1) acc (c :: tail) i =
      readText start fuel (c.toNat :: acc) tail (i + 1) := by
  conv_lhs => unfold readText
  rw [if_neg hquote, if_neg hescape, if_neg (by omega)]

/-- A unit is read as the code point that it is, unless it is the first half of a pair. -/
theorem readText_unit {u : Nat} (hu : u < 0x10000) (htail : tail ≠ [])
    (hpair : isHigh u = true → readLow? tail (i + 6) = .ok none) :
    readText start (fuel + 1) acc ('\\' :: 'u' :: (hexDigits u 4 ++ tail)) i =
      readText start fuel (u :: acc) tail (i + 6) := by
  rw [readText, if_neg (by decide), if_pos rfl]
  dsimp only
  rw [readUnit?_hexDigits hu htail]
  dsimp only
  by_cases hhigh : 0xD800 ≤ u ∧ u < 0xDC00
  · rw [if_pos hhigh, hpair (by simpa [isHigh] using hhigh)]
  · rw [if_neg hhigh]

/-- Two units are read as the code point of which they are the halves. -/
theorem readText_pair {high low : Nat} (hhigh : isHigh high) (hlow : isLow low)
    (htail : tail ≠ []) : readText start (fuel + 1) acc
      ('\\' :: 'u' :: (hexDigits high 4 ++ '\\' :: 'u' :: (hexDigits low 4 ++ tail))) i =
        readText start fuel (join high low :: acc) tail (i + 12) := by
  have hhigh : 0xD800 ≤ high ∧ high < 0xDC00 := by simpa [isHigh] using hhigh
  have hlow : 0xDC00 ≤ low ∧ low < 0xE000 := by simpa [isLow] using hlow
  rw [readText, if_neg (by decide), if_pos rfl]
  dsimp only
  rw [readUnit?_hexDigits (by omega) (List.cons_ne_nil _ _)]
  dsimp only
  rw [if_pos hhigh, readLow?_unit (by omega) htail, if_pos hlow]
  rfl

/-- **An escape is read as the code point**, unless that is half of a character whose other half
follows. -/
theorem readText_escaped {p : Nat} (hp : p < 0x110000) (htail : tail ≠ [])
    (hpair : isHigh p = true → readLow? tail (i + 6) = .ok none) :
    readText start (fuel + 1) acc (escaped p ++ tail) i =
      readText start fuel (p :: acc) tail (i + (escaped p).length) := by
  obtain ⟨c, d, h, hu, hc, hd⟩ | ⟨c, h, hcp, hquote, hback, hrange⟩ | ⟨hlt, h⟩ | ⟨hle, h⟩ :=
    escaped_cases hp
  · rw [h, List.cons_append, List.cons_append, List.nil_append, readText, if_neg (by decide),
      if_pos rfl, hc, ← hd]
    · rfl
    · exact fun hcu => hu hcu
  · rw [h, List.singleton_append, readText_plain start fuel acc i hquote hback (by omega), hcp]
    rfl
  · rw [h, List.cons_append, List.cons_append, readText_unit start fuel acc i hlt htail hpair,
      List.length_cons, List.length_cons, length_hexDigits]
  · have hhigh : isHigh (0xD800 + (p - 0x10000) / 0x400) = true := by
      simp only [isHigh, Bool.and_eq_true, decide_eq_true_eq]
      omega
    have hlow : isLow (0xDC00 + (p - 0x10000) % 0x400) = true := by
      simp only [isLow, Bool.and_eq_true, decide_eq_true_eq]
      omega
    have hjoin : join (0xD800 + (p - 0x10000) / 0x400) (0xDC00 + (p - 0x10000) % 0x400) = p := by
      unfold join
      omega
    rw [h, List.cons_append, List.cons_append, List.append_assoc, List.cons_append,
      List.cons_append, readText_pair start fuel acc i hhigh hlow htail, hjoin]
    simp only [List.length_cons, List.length_append, length_hexDigits]

/-- **What is written between quotes is read as the text** in which halves are joined. -/
theorem readText_points {ps : List Nat} (hps : ∀ p ∈ ps, p < 0x110000) (hfuel : ps.length < fuel)
    (rest : List Char) : readText start fuel acc (ps.flatMap escaped ++ doubleMark :: rest) i =
      .ok (ofPoints (acc.reverse ++ paired ps), rest, i + (ps.flatMap escaped).length + 1) := by
  induction ps using paired.induct generalizing fuel acc i with
  | case1 p r ps hpair ih =>
    rw [List.forall_mem_cons, List.forall_mem_cons] at hps
    obtain ⟨fuel, rfl⟩ := Nat.exists_eq_succ_of_ne_zero (Nat.ne_zero_of_lt hfuel)
    have hhalves := Bool.and_eq_true_iff.1 hpair
    have hhigh : 0xD800 ≤ p ∧ p < 0xDC00 := by simpa [isHigh] using hhalves.1
    have hlow : 0xDC00 ≤ r ∧ r < 0xE000 := by simpa [isLow] using hhalves.2
    rw [List.flatMap_cons, List.flatMap_cons, escaped_half (by omega), escaped_half (by omega)]
    simp only [List.cons_append, List.append_assoc]
    rw [readText_pair start fuel acc i hhalves.1 hhalves.2 (by simp), ih _ _ _ hps.2.2 (by
      simp only [List.length_cons] at hfuel
      omega), paired, if_pos hpair, List.reverse_cons, List.append_assoc, List.singleton_append]
    simp only [List.length_cons, List.length_append, length_hexDigits]
    congr 3
    omega
  | case2 p r ps hpair ih =>
    rw [List.forall_mem_cons] at hps
    obtain ⟨fuel, rfl⟩ := Nat.exists_eq_succ_of_ne_zero (Nat.ne_zero_of_lt hfuel)
    -- no low surrogate follows a high one
    have hnext : isHigh p = true →
        readLow? ((r :: ps).flatMap escaped ++ doubleMark :: rest) (i + 6) = .ok none := by
      intro hhigh
      have hlow : isLow r = false := by simpa [hhigh] using hpair
      rw [List.flatMap_cons, List.append_assoc]
      exact readLow?_escaped (hps.2 r List.mem_cons_self) hlow (by simp) _
    rw [List.flatMap_cons, List.append_assoc, readText_escaped start fuel acc i hps.1 (by simp) hnext,
      ih _ _ _ hps.2 (Nat.lt_of_succ_lt_succ hfuel), paired, if_neg hpair, List.reverse_cons,
      List.append_assoc, List.singleton_append, List.length_append, Nat.add_assoc i]
  | case3 ps hne =>
    obtain ⟨fuel, rfl⟩ := Nat.exists_eq_succ_of_ne_zero (Nat.ne_zero_of_lt hfuel)
    rw [paired]
    · match ps, hne with
      | [], _ =>
        rw [List.flatMap_nil, List.nil_append, readText_quote, List.append_nil]
        rfl
      | [p], _ =>
        obtain ⟨fuel, rfl⟩ :=
          Nat.exists_eq_succ_of_ne_zero (Nat.ne_zero_of_lt (Nat.lt_of_succ_lt_succ hfuel))
        rw [List.flatMap_singleton, readText_escaped start _ acc i (hps p List.mem_cons_self)
          (List.cons_ne_nil _ _) fun _ => readLow?_quote rest _, readText_quote, List.reverse_cons]
      | p :: r :: ps, hne => exact absurd rfl (hne p r ps)
    · exact hne

end Json

end Milp
