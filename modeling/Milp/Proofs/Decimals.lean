import Milp.Proofs.JsonGrammar
import Milp.Proofs.Shortest

/-!
# Doubles in JSON

A finite double is written as a number of the grammar, `Json.doubleChars_eq`, and what a number with
a point or an exponent is read as depends on the grammar alone: `Json.Numeral.readNumber_chars`. So
the double that is read is the one that was written.
-/

namespace Milp.Json

open Text

theorem takeWhile_append_of_head? {p : Char → Bool} {ds cs : List Char} (hd : ∀ c ∈ ds, p c)
    (hc : ∀ c ∈ cs.head?, p c = false) :
    (ds ++ cs).takeWhile p = ds ∧ (ds ++ cs).dropWhile p = cs := by
  rw [List.takeWhile_append_of_pos hd, List.dropWhile_append_of_pos hd]
  cases cs with
  | nil => exact ⟨List.append_nil ds, rfl⟩
  | cons c cs => simp [hc c rfl]

namespace Numeral

/-- The power of ten that the exponent stands for. -/
def power (n : Numeral) : Int :=
  match n.exponent with
  | none => 0
  | some (_, sign, digits) =>
    if sign = some '-' then -(digitsValue digits : Int) else digitsValue digits

/-- The double that a number with a point or an exponent is read as. -/
def double (n : Numeral) : Float :=
  Double.ofDecimal n.negative (digitsValue (n.whole ++ n.fraction)) (n.power - n.fraction.length)

/-- The number does not go on in the text. -/
def Ends (rest : List Char) : Prop :=
  ∀ c ∈ rest.head?, c.isDigit = false ∧ c ≠ '.' ∧ c ≠ 'e' ∧ c ≠ 'E'

variable {n : Numeral} {rest : List Char}

/-! ### Reading the parts -/

theorem head?_exponentChars (h : n.Valid) (hr : Ends rest) :
    ∀ c ∈ (n.exponentChars ++ rest).head?, c.isDigit = false ∧ c ≠ '.' := by
  unfold exponentChars
  split
  next => exact fun c hc => ⟨(hr c hc).1, (hr c hc).2.1⟩
  next letter sign digits he =>
    intro c hc
    obtain rfl : letter = c := Option.some.inj hc
    obtain ⟨hletter, -⟩ := h.exponent _ he
    obtain rfl | rfl := hletter <;> decide

theorem head?_fractionChars (h : n.Valid) (hr : Ends rest) :
    ∀ c ∈ (n.fractionChars ++ (n.exponentChars ++ rest)).head?, c.isDigit = false := by
  unfold fractionChars
  split
  · exact fun c hc => (head?_exponentChars h hr c hc).1
  · intro c hc
    obtain rfl : '.' = c := Option.some.inj hc
    decide

/-- The digits behind the point are read off, if there are any. -/
theorem readFraction?_chars (h : n.Valid) (hr : Ends rest) :
    (readFraction? (n.fractionChars ++ (n.exponentChars ++ rest))).getD
      ([], n.fractionChars ++ (n.exponentChars ++ rest)) =
        (n.fraction, n.exponentChars ++ rest) := by
  have hhead := head?_exponentChars h hr
  generalize n.exponentChars ++ rest = tail at hhead
  unfold fractionChars
  split
  next hnil =>
    have hnone : readFraction? tail = none := by
      cases tail with
      | nil => rfl
      | cons c tail =>
        unfold readFraction?
        split
        next hc => exact absurd (List.cons.inj hc).1 (hhead c rfl).2
        next => rfl
    rw [List.nil_append, hnone, hnil]
    rfl
  next hne =>
    obtain ⟨htake, hdrop⟩ := takeWhile_append_of_head? h.fraction fun c hc => (hhead c hc).1
    have hdigit : (n.fraction ++ tail).head?.any Char.isDigit = true := by
      obtain ⟨c, cs, hcs⟩ := List.exists_cons_of_ne_nil hne
      rw [hcs]
      exact h.fraction c (hcs ▸ List.mem_cons_self)
    rw [List.cons_append, readFraction?, if_pos hdigit, htake, hdrop]
    rfl

/-- The exponent is read off, if there is one. -/
theorem readExponent?_chars (h : n.Valid) (hr : Ends rest) :
    readExponent? (n.exponentChars ++ rest) =
      n.exponent.map fun _ => (n.exponentChars, n.power, rest) := by
  unfold exponentChars power
  split
  next he =>
    rw [he, List.nil_append]
    cases rest with
    | nil => rfl
    | cons c rest =>
      have hc := (hr c rfl).2.2
      unfold readExponent?
      exact if_neg (not_or.2 hc)
  next letter sign digits he =>
    obtain ⟨hletter, hsign, hne, hdigits⟩ := h.exponent _ he
    obtain ⟨htake, hdrop⟩ := takeWhile_append_of_head? hdigits fun c hc => (hr c hc).1
    have hempty : digits.isEmpty = false := by simpa using hne
    have hread : exponentSign (sign.toList ++ digits ++ rest) = (sign.toList, digits ++ rest) := by
      cases sign with
      | some c => obtain rfl | rfl := hsign c rfl <;> rfl
      | none =>
        -- the first digit is no sign
        obtain ⟨d, ds, rfl⟩ := List.exists_cons_of_ne_nil hne
        have hd := hdigits d List.mem_cons_self
        rw [Option.toList_none, List.nil_append, List.cons_append, exponentSign]
        · exact fun cs heq => absurd ((List.cons.inj heq).1 ▸ hd) (by decide)
        · exact fun cs heq => absurd ((List.cons.inj heq).1 ▸ hd) (by decide)
    rw [he, List.cons_append]
    unfold readExponent?
    dsimp only
    rw [if_pos hletter, hread]
    dsimp only at htake hdrop ⊢
    rw [htake, hdrop, hempty]
    cases sign with
    | none => rfl
    | some c => obtain rfl | rfl := hsign c rfl <;> rfl

/-- The first digit is no sign. -/
theorem whole_head (h : n.Valid) : ∃ c cs, n.whole = c :: cs ∧ c.isDigit ∧ c ≠ '-' := by
  obtain ⟨c, cs, hcs⟩ := List.exists_cons_of_ne_nil h.whole_ne
  have hc := h.whole c (hcs ▸ List.mem_cons_self)
  refine ⟨c, cs, hcs, hc, ?_⟩
  rintro rfl
  exact absurd hc (by decide)

theorem minusSign_chars (h : n.Valid) (tail : List Char) :
    minusSign (n.signChars ++ (n.whole ++ tail)) = (n.negative, n.whole ++ tail) := by
  obtain ⟨c, cs, hcs, -, hc⟩ := whole_head h
  unfold signChars
  cases n.negative with
  | true => rfl
  | false =>
    rw [hcs, if_neg Bool.false_ne_true, List.nil_append, List.cons_append, minusSign]
    exact fun _ heq => hc (List.cons.inj heq).1

theorem wholeDigits_chars (h : n.Valid) {tail : List Char}
    (htail : ∀ c ∈ tail.head?, c.isDigit = false) : wholeDigits (n.whole ++ tail) = n.whole := by
  obtain ⟨c, cs, hcs, -, -⟩ := whole_head h
  by_cases hzero : c = '0'
  · have hwhole : n.whole = ['0'] := h.zero (by rw [hcs, hzero]; rfl)
    rw [hwhole]
    rfl
  · have htake := (takeWhile_append_of_head? h.whole htail).1
    rw [hcs, List.cons_append] at htake ⊢
    rw [wholeDigits]
    · exact htake
    · exact fun _ heq => hzero (List.cons.inj heq).1

/-- **A number with a point or an exponent is read as a double.** -/
theorem readNumber_chars (h : n.Valid) (hn : n.fraction ≠ [] ∨ n.exponent ≠ none)
    (hr : Ends rest) (i : Nat) :
    readNumber (n.chars ++ rest) i = .ok (.double n.double, rest, i + n.chars.length) := by
  have hwhole : n.whole.isEmpty = false := by simpa using h.whole_ne
  have hdouble : (n.fraction.isEmpty && (n.exponent.map fun _ => (n.exponentChars, n.power,
      rest)).isNone) = false := by
    rw [Option.isNone_map, Bool.and_eq_false_iff]
    exact hn.imp (by simp) (by simp [Option.isNone_eq_false_iff, Option.isSome_iff_ne_none])
  have hrest : ((n.exponent.map fun _ => (n.exponentChars, n.power, rest)).map (·.2.2)).getD
      (n.exponentChars ++ rest) = rest := by
    unfold exponentChars
    cases n.exponent <;> rfl
  have hpower : ((n.exponent.map fun _ => (n.exponentChars, n.power, rest)).map (·.2.1)).getD 0 =
      n.power := by
    unfold power
    cases n.exponent <;> rfl
  unfold readNumber chars
  simp only [List.append_assoc]
  rw [minusSign_chars h]
  dsimp only
  rw [wholeDigits_chars h (head?_fractionChars h hr), hwhole, List.drop_left,
    readFraction?_chars h hr]
  dsimp only
  rw [readExponent?_chars h hr, hrest, hpower, hdouble, Bool.false_and,
    if_neg Bool.false_ne_true, if_neg Bool.false_ne_true, if_neg Bool.false_ne_true]
  have hlength : (n.signChars ++ (n.whole ++ (n.fractionChars ++ (n.exponentChars ++ rest)))).length -
      rest.length = (n.signChars ++ (n.whole ++ (n.fractionChars ++ n.exponentChars))).length := by
    simp only [List.length_append]
    omega
  rw [hlength, double]

end Numeral

/-! ### Digits -/

theorem digitValue?_of_isDigit {c : Char} (h : c.isDigit) : digitValue? c = some (c.toNat - 48) := by
  have hrange : 48 ≤ c.toNat ∧ c.toNat ≤ 57 := Char.isDigit_iff_toNat.1 h
  unfold digitValue? digitZeros
  rw [List.find?_cons_of_pos]
  · rfl
  · simp only [Bool.and_eq_true, decide_eq_true_eq]
    omega

/-- The value of a row of digits is the number that they write. -/
theorem digitsValue_eq {ds : List Char} (h : ∀ c ∈ ds, c.isDigit) :
    digitsValue ds = Nat.ofDigitChars 10 ds 0 := by
  have hfold : ∀ start, ds.foldl (fun n c => 10 * n + (digitValue? c).getD 0) start =
      ds.foldl (fun n c => 10 * n + (c.toNat - '0'.toNat)) start := by
    induction ds with
    | nil => exact fun _ => rfl
    | cons c cs ih =>
      rw [List.forall_mem_cons] at h
      intro start
      rw [List.foldl_cons, List.foldl_cons, digitValue?_of_isDigit h.1]
      exact ih h.2 _
  exact hfold 0

/-- Zeros behind a row of digits count as powers of ten. -/
theorem digitsValue_append_zeros {ds : List Char} (h : ∀ c ∈ ds, c.isDigit) (k : Nat) :
    digitsValue (ds ++ List.replicate k '0') = digitsValue ds * 10 ^ k := by
  rw [digitsValue_eq h, digitsValue_eq, Nat.ofDigitChars_append, Nat.ofDigitChars_replicate_zero,
    Nat.mul_comm]
  intro c hc
  obtain hc | hc := List.mem_append.1 hc
  · exact h c hc
  · rw [List.eq_of_mem_replicate hc]
    rfl

/-- Zeros in front of a row of digits count nothing. -/
theorem digitsValue_zeros_append {ds : List Char} (h : ∀ c ∈ ds, c.isDigit) (k : Nat) :
    digitsValue (List.replicate k '0' ++ ds) = digitsValue ds := by
  rw [digitsValue_eq h, digitsValue_eq, Nat.ofDigitChars_append, Nat.ofDigitChars_replicate_zero,
    Nat.mul_zero]
  intro c hc
  obtain hc | hc := List.mem_append.1 hc
  · rw [List.eq_of_mem_replicate hc]
    rfl
  · exact h c hc

/-- The first digit of a positive number is not a zero. -/
theorem head?_toDigits {d : Nat} (hd : 0 < d) : (Nat.toDigits 10 d).head? ≠ some '0' := by
  induction d using Nat.base_induction 10 (by decide) with
  | single m hm =>
    rw [Nat.toDigits_of_lt_base hm]
    have hall : ∀ m < 10, 0 < m → [Nat.digitChar m].head? ≠ some '0' := by decide
    exact hall m hm hd
  | digit m k hk hm ih =>
    rw [← Nat.toDigits_append_toDigits (by decide) hm hk,
      List.head?_append_of_ne_nil _ Nat.toDigits_ne_nil]
    exact ih hm

/-- **The digits that are written**: a row of digits that starts with none that counts nothing. -/
structure Row (ds : List Char) (d : Nat) : Prop where
  ne : ds ≠ []
  digits : ∀ c ∈ ds, c.isDigit
  head : ds.head? ≠ some '0'
  value : digitsValue ds = d

theorem row_digitsOf {d : Nat} (hd : 0 < d) : Row (Double.digitsOf d) d := by
  have hdigits : ∀ c ∈ Nat.toDigits 10 d, c.isDigit := fun c hc =>
    Nat.isDigit_of_mem_toDigits (by decide) (by decide) hc
  exact ⟨Nat.toDigits_ne_nil, hdigits, head?_toDigits hd,
    (digitsValue_eq hdigits).trans Nat.ofDigitChars_ten_toDigits⟩

/-- What is dropped is zeros at the end. -/
theorem stripZeros_append (ds : List Char) :
    (Double.stripZeros ds).1 ++ List.replicate (Double.stripZeros ds).2 '0' = ds := by
  have hzeros : ds.reverse.takeWhile (· == '0') =
      List.replicate (ds.reverse.takeWhile (· == '0')).length '0' :=
    List.eq_replicate_of_mem fun c hc => by simpa using List.mem_takeWhile_imp hc
  have hparts := @List.takeWhile_append_dropWhile _ (· == '0') ds.reverse
  have hlength : ds.length - (ds.reverse.dropWhile (· == '0')).length =
      (ds.reverse.takeWhile (· == '0')).length := by
    have := congrArg List.length hparts
    rw [List.length_append, List.length_reverse] at this
    omega
  unfold Double.stripZeros
  dsimp only
  rw [hlength, ← List.reverse_inj, List.reverse_append, List.reverse_reverse,
    List.reverse_replicate, ← hzeros, hparts]

/-- Zeros at the end of a row are dropped, and counted. -/
theorem Row.stripZeros {ds : List Char} {d : Nat} (h : Row ds d) :
    ∃ r, Row (Double.stripZeros ds).1 r ∧ d = r * 10 ^ (Double.stripZeros ds).2 := by
  have hsplit := stripZeros_append ds
  generalize Double.stripZeros ds = r at hsplit
  have hdigits : ∀ c ∈ r.1, c.isDigit := fun c hc =>
    h.digits c (hsplit ▸ List.mem_append_left _ hc)
  have hne : r.1 ≠ [] := by
    intro hnil
    rw [hnil, List.nil_append] at hsplit
    obtain ⟨c, cs, rfl⟩ := List.exists_cons_of_ne_nil h.ne
    have hc : c ∈ List.replicate r.2 '0' := hsplit ▸ List.mem_cons_self
    exact h.head (congrArg some (List.eq_of_mem_replicate hc))
  refine ⟨_, ⟨hne, hdigits, ?_, rfl⟩, ?_⟩
  · rw [← List.head?_append_of_ne_nil _ hne, hsplit]
    exact h.head
  · rw [← digitsValue_append_zeros hdigits, hsplit, h.value]

/-! ### Decimals in writing -/

/-- The number writes the decimal `d · 10 ^ k`, as a double of moderate length. -/
structure Writes (n : Numeral) (d : Nat) (k : Int) : Prop where
  valid : n.Valid
  double : n.fraction ≠ [] ∨ n.exponent ≠ none
  value : (digitsValue (n.whole ++ n.fraction) : Rat) * 10 ^ (n.power - n.fraction.length) =
    d * 10 ^ k
  size : digitsValue (n.whole ++ n.fraction) < 2 ^ 201

section Forms

variable {ds : List Char} {r : Nat}

/-- An integer has zeros up to the point, and one behind it. -/
theorem writes_integer (h : Row ds r) (negative : Bool) {k : Nat} (hr : r ≤ 10 ^ 17)
    (hk : k ≤ 16) : Writes ⟨negative, ds ++ List.replicate k '0', ['0'], none⟩ r k := by
  have hzero : ∀ {j : Nat}, ∀ c ∈ List.replicate j '0', c.isDigit := fun c hc => by
    rw [List.eq_of_mem_replicate hc]
    rfl
  have hvalue : digitsValue (ds ++ List.replicate k '0' ++ ['0']) = r * 10 ^ (k + 1) := by
    rw [List.append_assoc, ← List.replicate_succ', digitsValue_append_zeros h.digits, h.value]
  refine ⟨⟨by simp [h.ne], ?_, fun hhead => ?_, hzero (j := 1), fun e he => nomatch he⟩,
    .inl (List.cons_ne_nil _ _), ?_, ?_⟩
  · exact fun c hc => (List.mem_append.1 hc).elim (h.digits c) (hzero c)
  · rw [List.head?_append_of_ne_nil _ h.ne] at hhead
    exact absurd hhead h.head
  · dsimp only [Numeral.power, List.length_singleton]
    rw [hvalue]
    push_cast
    rw [zpow_neg, zpow_one, zpow_natCast, pow_succ]
    field_simp
  · dsimp only
    rw [hvalue]
    calc r * 10 ^ (k + 1) ≤ 10 ^ 17 * 10 ^ (16 + 1) :=
          Nat.mul_le_mul hr (Nat.pow_le_pow_right (by decide) (by omega))
      _ < 2 ^ 201 := by norm_num

/-- A number with a fraction has the point between two of its digits. -/
theorem writes_split (h : Row ds r) (negative : Bool) {j : Nat} (hr : r ≤ 10 ^ 17) (hpos : 0 < j)
    (hj : j < ds.length) :
    Writes ⟨negative, ds.take j, ds.drop j, none⟩ r ((j : Int) - ds.length) := by
  have htake : ds.take j ≠ [] := by
    rw [Ne, List.take_eq_nil_iff, not_or]
    exact ⟨hpos.ne', h.ne⟩
  have hvalue : digitsValue (ds.take j ++ ds.drop j) = r := by rw [List.take_append_drop, h.value]
  refine ⟨⟨htake, fun c hc => h.digits c (List.mem_of_mem_take hc), fun hhead => ?_,
    fun c hc => h.digits c (List.mem_of_mem_drop hc), fun e he => nomatch he⟩,
    .inl (List.drop_eq_nil_iff.not.2 (by omega)), ?_, ?_⟩
  · rw [List.head?_take, if_neg hpos.ne'] at hhead
    exact absurd hhead h.head
  · dsimp only [Numeral.power]
    rw [hvalue, List.length_drop]
    congr 2
    omega
  · dsimp only
    rw [hvalue]
    exact hr.trans_lt (by norm_num)

/-- A number below one has zeros behind the point. -/
theorem writes_small (h : Row ds r) (negative : Bool) (j : Nat) (hr : r ≤ 10 ^ 17) :
    Writes ⟨negative, ['0'], List.replicate j '0' ++ ds, none⟩ r (-((j : Int) + ds.length)) := by
  have hvalue : digitsValue (['0'] ++ (List.replicate j '0' ++ ds)) = r := by
    rw [← List.append_assoc, List.singleton_append, ← List.replicate_succ,
      digitsValue_zeros_append h.digits, h.value]
  refine ⟨⟨List.cons_ne_nil _ _, by simp, fun _ => rfl, fun c hc => ?_, fun e he => nomatch he⟩,
    .inl (by simp [h.ne]), ?_, ?_⟩
  · obtain hc | hc := List.mem_append.1 hc
    · rw [List.eq_of_mem_replicate hc]
      rfl
    · exact h.digits c hc
  · dsimp only [Numeral.power]
    rw [hvalue, List.length_append, List.length_replicate]
    congr 2
    push_cast
    ring
  · dsimp only
    rw [hvalue]
    exact hr.trans_lt (by norm_num)

/-- The digits of an exponent, of which there are at least two. -/
theorem exponent_digits (e : Nat) :
    let ds := if (Double.digitsOf e).length < 2 then '0' :: Double.digitsOf e else Double.digitsOf e
    ds ≠ [] ∧ (∀ c ∈ ds, c.isDigit) ∧ digitsValue ds = e := by
  have hdigits : ∀ c ∈ Double.digitsOf e, c.isDigit := fun c hc =>
    Nat.isDigit_of_mem_toDigits (by decide) (by decide) hc
  have hvalue : digitsValue (Double.digitsOf e) = e :=
    (digitsValue_eq hdigits).trans Nat.ofDigitChars_ten_toDigits
  dsimp only
  split
  · refine ⟨List.cons_ne_nil _ _, List.forall_mem_cons.2 ⟨rfl, hdigits⟩, ?_⟩
    exact (digitsValue_zeros_append hdigits 1).trans hvalue
  · exact ⟨Nat.toDigits_ne_nil, hdigits, hvalue⟩

/-- A number in scientific writing has one digit in front of the point. -/
theorem writes_scientific (h : Row ds r) (negative : Bool) (e : Int) (hr : r ≤ 10 ^ 17) :
    Writes ⟨negative, ds.take 1, ds.drop 1, some ('e', some (if e < 0 then '-' else '+'),
      if (Double.digitsOf e.natAbs).length < 2 then '0' :: Double.digitsOf e.natAbs
        else Double.digitsOf e.natAbs)⟩ r (e - ((ds.length : Int) - 1)) := by
  obtain ⟨hne, hdigits, hexponent⟩ := exponent_digits e.natAbs
  have hlength := List.length_pos_iff.2 h.ne
  have hvalue : digitsValue (ds.take 1 ++ ds.drop 1) = r := by rw [List.take_append_drop, h.value]
  refine ⟨⟨by simp [h.ne], fun c hc => h.digits c (List.mem_of_mem_take hc), fun hhead => ?_,
    fun c hc => h.digits c (List.mem_of_mem_drop hc), ?_⟩, .inr (Option.some_ne_none _), ?_, ?_⟩
  · rw [List.head?_take, if_neg one_ne_zero] at hhead
    exact absurd hhead h.head
  · intro x hx
    obtain rfl := Option.some.inj hx
    refine ⟨.inl rfl, fun c hc => ?_, hne, hdigits⟩
    obtain rfl := Option.some.inj hc
    split
    · exact .inr rfl
    · exact .inl rfl
  · dsimp only [Numeral.power]
    rw [hvalue, hexponent, List.length_drop]
    have hpower : (if (some (if e < 0 then '-' else '+') : Option Char) = some '-' then
        -(e.natAbs : Int) else e.natAbs) = e := by
      by_cases he : e < 0
      · rw [if_pos he, if_pos rfl]
        omega
      · rw [if_neg he, if_neg (by decide)]
        omega
    rw [hpower]
    congr 2
    omega
  · dsimp only
    rw [hvalue]
    exact hr.trans_lt (by norm_num)

/-- A row of digits with a point somewhere. -/
theorem writes_positional (h : Row ds r) (negative : Bool) {k e : Int} (hr : r ≤ 10 ^ 17)
    (hlast : k + ds.length - 1 = e) (he : e < 16) :
    ∃ n, n.negative = negative ∧ Writes n r k ∧ n.chars = n.signChars ++
      if 0 ≤ k then ds ++ List.replicate k.toNat '0' ++ ['.', '0']
      else if 0 ≤ e then ds.take (e + 1).toNat ++ '.' :: ds.drop (e + 1).toNat
      else ['0', '.'] ++ List.replicate (-e - 1).toNat '0' ++ ds := by
  have hlength := List.length_pos_iff.2 h.ne
  split
  next hk =>
    have hcast : ((k.toNat : Nat) : Int) = k := Int.toNat_of_nonneg hk
    refine ⟨_, rfl, hcast ▸ writes_integer h negative hr (by omega), ?_⟩
    simp [Numeral.chars, Numeral.fractionChars, Numeral.exponentChars]
  next hk =>
    split
    next hpos =>
      have hj : (((e + 1).toNat : Nat) : Int) - ds.length = k := by omega
      have hdrop : ds.drop (e + 1).toNat ≠ [] := List.drop_eq_nil_iff.not.2 (by omega)
      refine ⟨_, rfl, hj ▸ writes_split h negative hr (by omega) (by omega), ?_⟩
      simp only [Numeral.chars, Numeral.fractionChars, Numeral.exponentChars, if_neg hdrop,
        List.append_nil]
    next hneg =>
      have hj : -((((-e - 1).toNat : Nat) : Int) + ds.length) = k := by omega
      refine ⟨_, rfl, hj ▸ writes_small h negative _ hr, ?_⟩
      simp [Numeral.chars, Numeral.fractionChars, Numeral.exponentChars, h.ne]

end Forms

/-- The digits of a mantissa, of which only a single one has no point. -/
theorem mantissa_eq {ds : List Char} (h : ds ≠ []) :
    (if ds.length = 1 then ds else ds.take 1 ++ '.' :: ds.drop 1) =
      ds.take 1 ++ if ds.drop 1 = [] then [] else '.' :: ds.drop 1 := by
  match ds, h with
  | [c], _ => rfl
  | c :: c' :: ds, _ => rfl

/-- Dropping zeros does not change the decimal. -/
theorem Writes.unstripped {n : Numeral} {d r j : Nat} {k : Int} (h : Writes n r (k + j))
    (hr : d = r * 10 ^ j) : Writes n d k := by
  refine ⟨h.valid, h.double, h.value.trans ?_, h.size⟩
  rw [hr, zpow_add₀ (by norm_num), zpow_natCast]
  push_cast
  ring

/-- **A decimal in writing is a number of the grammar.** -/
theorem writeDecimal_eq {d : Nat} (hd : 0 < d) (hle : d ≤ 10 ^ 17) (k : Int) (negative : Bool) :
    ∃ n, n.negative = negative ∧ Writes n d k ∧
      n.chars = n.signChars ++ Double.writeDecimal d k := by
  obtain ⟨r, hrow, hr⟩ := (row_digitsOf hd).stripZeros
  unfold Double.writeDecimal
  generalize Double.stripZeros (Double.digitsOf d) = s at hrow hr
  obtain ⟨ds, dropped⟩ := s
  dsimp only at hrow hr ⊢
  have hrle : r ≤ 10 ^ 17 := by
    refine le_trans ?_ hle
    rw [hr]
    exact Nat.le_mul_of_pos_right r (Nat.pos_of_ne_zero (by positivity))
  have hwrites : ∀ {n : Numeral}, Writes n r (k + dropped) → Writes n d k :=
    fun hn => hn.unstripped hr
  generalize k + (dropped : Int) = k' at hwrites
  generalize he : k' + (ds.length : Int) - 1 = e
  split
  next hpositional =>
    obtain ⟨n, hn, hwrite, hchars⟩ := writes_positional hrow negative hrle he hpositional.2
    exact ⟨n, hn, hwrites hwrite, hchars⟩
  next hscientific =>
    have hj : e - ((ds.length : Int) - 1) = k' := by omega
    refine ⟨_, rfl, hwrites (hj ▸ writes_scientific hrow negative e hrle), ?_⟩
    rw [mantissa_eq hrow.ne]
    simp [Numeral.chars, Numeral.fractionChars, Numeral.exponentChars]

/-! ### Doubles in writing -/

/-- A number that writes a decimal in the interval of a double is read as the double. -/
theorem Writes.double_eq {n : Numeral} {d : Nat} {k : Int} {x : Float} {m : Nat} {q : Int}
    (h : Writes n d k) (hx : Double.parts x = .finite n.negative m q) (hm : m ≠ 0)
    (hrounds : Double.Rounds m q (d * 10 ^ k)) : n.double = x := by
  refine Double.ofDecimal_eq hx hm ?_ (by rwa [h.value])
  by_cases hzero : digitsValue (n.whole ++ n.fraction) = 0
  · rw [hzero]
    decide
  · exact Nat.lt_succ_iff.1 ((Nat.log2_lt hzero).2 h.size)

/-- **A finite double is written as a number of the grammar**, which is read as the double. -/
theorem doubleChars_eq {x : Float} {negative : Bool} {m : Nat} {q : Int}
    (hx : Double.parts x = .finite negative m q) : ∃ n : Numeral, n.Valid ∧
      (n.fraction ≠ [] ∨ n.exponent ≠ none) ∧ doubleChars x = n.chars ∧ n.double = x := by
  obtain ⟨hm, hbits⟩ := Double.toBits_of_finite hx
  have hchars : doubleChars x = (if negative then ['-'] else []) ++ (if m = 0 then ['0', '.', '0']
      else Double.writeDecimal (Double.shortest m q).1 (Double.shortest m q).2) := by
    unfold doubleChars Double.text
    rw [hx]
    dsimp only
    rw [String.toList_ofList]
    cases negative <;> rfl
  rw [hchars]
  obtain hzero | hs := hm
  · -- zero is written without a search
    refine ⟨⟨negative, ['0'], ['0'], none⟩, ⟨List.cons_ne_nil _ _, by simp, fun _ => rfl,
      by simp, fun e he => nomatch he⟩, .inl (List.cons_ne_nil _ _), by rw [if_pos hzero]; rfl, ?_⟩
    rw [hzero, Double.packBits_zero] at hbits
    have hratio : Double.ratioBits 0 1 = 0 := rfl
    have hvalue : digitsValue (['0'] ++ ['0']) = 0 := by decide
    unfold Numeral.double
    dsimp only
    rw [hvalue]
    unfold Double.ofDecimal
    rw [if_pos (.inl rfl), Double.ofRatio, hratio, ← hbits, Double.ofBits_toNat]
  · obtain ⟨hrounds, hle⟩ := Double.shortest_rounds hs
    have hd : 0 < (Double.shortest m q).1 := by
      refine Nat.pos_of_ne_zero fun hzero => (hs.pos_of_rounds hrounds).ne' ?_
      rw [hzero, Nat.cast_zero, zero_mul]
    obtain ⟨n, rfl, hwrites, hn⟩ := writeDecimal_eq hd hle (Double.shortest m q).2 negative
    refine ⟨n, hwrites.valid, hwrites.double, ?_, hwrites.double_eq hx hs.pos.ne' hrounds⟩
    rw [if_neg hs.pos.ne', hn, Numeral.signChars]

end Milp.Json
