import Milp.Proofs.Decimals
import Milp.Proofs.Escaping
import Milp.Proofs.Rendering

/-!
# Texts and numbers as JSON

What is known of the text that a datum is written as: `Json.Written` says how the text is read, and
that it is JSON by the standard exactly if all the doubles are finite. Here it is said of the data
that have no parts. A text comes back but for the halves of characters side by side, which are
joined, and every double comes back: `Json.written_text`, `Json.written_double`.
-/

namespace Milp

/-! ### Parts of data -/

namespace Datum

variable {α : Type}

mutual

/-- What a datum has that has no parts. -/
def leaves : Datum α → List (Datum α)
  | list items => leavesOfItems items
  | record fields => leavesOfFields fields
  | d => [d]

def leavesOfItems : List (Datum α) → List (Datum α)
  | [] => []
  | d :: ds => d.leaves ++ leavesOfItems ds

def leavesOfFields : List (String × Datum α) → List (Datum α)
  | [] => []
  | (_, d) :: fields => d.leaves ++ leavesOfFields fields

end

mutual

/-- The datum with all its texts rejoined; names of fields are left as they are. -/
def rejoined : Datum α → Datum α
  | text s => text (Text.rejoined s)
  | list items => list (rejoinedItems items)
  | record fields => record (rejoinedFields fields)
  | d => d

def rejoinedItems : List (Datum α) → List (Datum α)
  | [] => []
  | d :: ds => d.rejoined :: rejoinedItems ds

def rejoinedFields : List (String × Datum α) → List (String × Datum α)
  | [] => []
  | (key, d) :: fields => (key, d.rejoined) :: rejoinedFields fields

end

theorem leaves_list (ds : List (Datum α)) : (list ds).leaves = ds.flatMap leaves := by
  rw [leaves]
  induction ds with
  | nil => rfl
  | cons d ds ih => rw [leavesOfItems, ih, List.flatMap_cons]

theorem leaves_record (fields : List (String × Datum α)) :
    (record fields).leaves = fields.flatMap fun f => f.2.leaves := by
  rw [leaves]
  induction fields with
  | nil => rfl
  | cons f fields ih => rw [leavesOfFields, ih, List.flatMap_cons]

theorem rejoined_list (ds : List (Datum α)) : (list ds).rejoined = list (ds.map rejoined) := by
  rw [rejoined]
  congr 1
  induction ds with
  | nil => rfl
  | cons d ds ih => rw [rejoinedItems, ih, List.map_cons]

theorem rejoined_record (fields : List (String × Datum α)) :
    (record fields).rejoined = record (fields.map fun f => (f.1, f.2.rejoined)) := by
  rw [rejoined]
  congr 1
  induction fields with
  | nil => rfl
  | cons f fields ih => rw [rejoinedFields, ih, List.map_cons]

end Datum

namespace Json

open Text

/-- **What can be sent**: data with doubles and truth values as their only numbers, and with names
of fields that are different and come back as they are. -/
inductive Sendable : Datum Number → Prop
  | null : Sendable .null
  | truth (b : Bool) : Sendable (.number (.truth b))
  | double (x : Float) : Sendable (.number (.double x))
  | text (s : String) : Sendable (.text s)
  | list {ds : List (Datum Number)} : (∀ d ∈ ds, Sendable d) → Sendable (.list ds)
  | record {fields : List (String × Datum Number)} : (fields.map Prod.fst).Nodup →
      (∀ f ∈ fields, Text.rejoined f.1 = f.1) → (∀ f ∈ fields, Sendable f.2) →
      Sendable (.record fields)

theorem map_eq_self_iff {β : Type} {f : β → β} {xs : List β} : xs.map f = xs ↔ ∀ x ∈ xs, f x = x := by
  have h := @List.map_inj_left _ _ xs f id
  rwa [List.map_id] at h

/-- A datum comes back as it was if all its texts do. -/
theorem Sendable.rejoined_eq_iff {d : Datum Number} (h : Sendable d) :
    d.rejoined = d ↔ ∀ s, .text s ∈ d.leaves → Text.rejoined s = s := by
  induction h with
  | null => simp [Datum.rejoined, Datum.leaves]
  | truth b => simp [Datum.rejoined, Datum.leaves]
  | double x => simp [Datum.rejoined, Datum.leaves]
  | text s => simp [Datum.rejoined, Datum.leaves]
  | @list ds _ ih =>
    rw [Datum.rejoined_list, Datum.leaves_list, Datum.list.injEq, map_eq_self_iff]
    constructor
    · intro h s hs
      obtain ⟨d, hd, hs⟩ := List.mem_flatMap.1 hs
      exact (ih d hd).1 (h d hd) s hs
    · exact fun h d hd => (ih d hd).2 fun s hs => h s (List.mem_flatMap.2 ⟨d, hd, hs⟩)
  | @record fields _ _ _ ih =>
    rw [Datum.rejoined_record, Datum.leaves_record, Datum.record.injEq, map_eq_self_iff]
    constructor
    · intro h s hs
      obtain ⟨f, hf, hs⟩ := List.mem_flatMap.1 hs
      exact (ih f hf).1 (Prod.ext_iff.1 (h f hf)).2 s hs
    · exact fun h f hf => Prod.ext rfl ((ih f hf).2 fun s hs => h s (List.mem_flatMap.2 ⟨f, hf, hs⟩))

/-! ### The text of a datum -/

/-- A value ends where the text ends, or a comma or a bracket follows. -/
def Follows (rest : List Char) : Prop := ∀ c ∈ rest.head?, c = ',' ∨ c = ']' ∨ c = '\x7d'

/-- The double has digits. -/
def IsFinite (x : Float) : Prop := ∃ negative m q, Double.parts x = .finite negative m q

/-- All doubles in the datum have digits. -/
def AllFinite (d : Datum Number) : Prop := ∀ x, .number (.double x) ∈ d.leaves → IsFinite x

/-- One of the words shows if there is a reason for it. -/
def Reveals (reason : Prop) (cs : List Char) : Prop :=
  ∃ shown, Shows cs shown ∧ (reason → HasWord shown)

namespace Reveals

variable {p q : Prop} {cs ds shown : List Char}

theorem of_not (hp : ¬ p) (h : Shows cs shown) : Reveals p cs := ⟨_, h, fun h => absurd h hp⟩

theorem mono (h : Reveals p cs) (hqp : q → p) : Reveals q cs := by
  obtain ⟨shown, hshown, hword⟩ := h
  exact ⟨shown, hshown, hword ∘ hqp⟩

theorem append (h : Reveals p cs) (h' : Reveals q ds) : Reveals (p ∨ q) (cs ++ ds) := by
  obtain ⟨shown, hshown, hword⟩ := h
  obtain ⟨shown', hshown', hword'⟩ := h'
  exact ⟨_, hshown.append hshown', fun h => hasWord_append.2 (h.imp hword hword')⟩

theorem behind (h : Reveals p ds) (hcs : Shows cs shown) : Reveals p (cs ++ ds) :=
  ((of_not not_false hcs).append h).mono .inr

end Reveals

/-- **What is known of the text of a datum**: how it is read, and that it is JSON by the standard
exactly if all doubles have digits. -/
structure Written (d : Datum Number) (cs : List Char) : Prop where
  chars : chars d = .ok cs
  plain : ∀ c ∈ cs, IsPlain c
  head : ∃ c rest, cs = c :: rest ∧ isSpace c = false ∧ c ≠ ']'
  reads : ∀ {fuel i : Nat} {rest : List Char}, cs.length ≤ fuel → Follows rest →
    readValue fuel (cs ++ rest) i = .ok (d.rejoined, rest, i + cs.length)
  derives : AllFinite d → Derives .value cs
  reveals : Reveals (¬ AllFinite d) cs

/-! ### Data without parts -/

theorem isFinite_or (x : Float) :
    IsFinite x ∨ Double.parts x = .nan ∨ ∃ negative, Double.parts x = .infinite negative := by
  unfold IsFinite
  cases Double.parts x with
  | nan => exact .inr (.inl rfl)
  | infinite negative => exact .inr (.inr ⟨negative, rfl⟩)
  | finite negative m q => exact .inl ⟨negative, m, q, rfl⟩

theorem allFinite_of_leaf {d : Datum Number} (hd : d.leaves = [d])
    (h : ∀ x, d ≠ .number (.double x)) : AllFinite d := by
  intro x hx
  rw [hd, List.mem_singleton] at hx
  exact absurd hx.symm (h x)

theorem follows_ends {rest : List Char} (h : Follows rest) : Numeral.Ends rest := by
  intro c hc
  obtain rfl | rfl | rfl := h c hc <;> decide

/-- A word is read as what it stands for. -/
theorem readValue_word {w : List Char} {d : Datum Number} (hw : (w, d) ∈ words) {fuel : Nat}
    (hfuel : 0 < fuel) (rest : List Char) (i : Nat) :
    readValue fuel (w ++ rest) i = .ok (d, rest, i + w.length) := by
  obtain ⟨fuel, rfl⟩ := Nat.exists_eq_succ_of_ne_zero hfuel.ne'
  simp only [words, List.mem_cons, List.not_mem_nil, or_false, Prod.mk.injEq] at hw
  obtain ⟨rfl, rfl⟩ | ⟨rfl, rfl⟩ | ⟨rfl, rfl⟩ | ⟨rfl, rfl⟩ | ⟨rfl, rfl⟩ | ⟨rfl, rfl⟩ := hw <;> rfl

/-- The first character of a number, and the second one behind a sign, are digits. -/
theorem Numeral.chars_head {n : Numeral} (h : n.Valid) :
    ∃ c cs, c.isDigit ∧ (n.chars = c :: cs ∨ n.chars = '-' :: c :: cs) := by
  obtain ⟨c, cs, hcs, hc, -⟩ := whole_head h
  unfold chars signChars
  rw [hcs]
  cases n.negative with
  | true => exact ⟨c, _, hc, .inr rfl⟩
  | false => exact ⟨c, _, hc, .inl rfl⟩

theorem Numeral.isPlain_chars {n : Numeral} (h : n.Valid) : ∀ c ∈ n.chars, IsPlain c := by
  have hdigit : ∀ c : Char, c.isDigit → IsPlain c := by
    intro c hc
    have hrange : 48 ≤ c.toNat ∧ c.toNat ≤ 57 := Char.isDigit_iff_toNat.1 hc
    exact ⟨by omega, by omega⟩
  unfold chars signChars fractionChars exponentChars
  simp only [List.forall_mem_append]
  refine ⟨?_, fun c hc => hdigit c (h.whole c hc), ?_, ?_⟩
  · split
    · exact List.forall_mem_singleton.2 (by decide)
    · exact fun c hc => absurd hc List.not_mem_nil
  · split
    · exact fun c hc => absurd hc List.not_mem_nil
    · exact List.forall_mem_cons.2 ⟨by decide, fun c hc => hdigit c (h.fraction c hc)⟩
  · split
    next => exact fun c hc => absurd hc List.not_mem_nil
    next letter sign digits he =>
      obtain ⟨hletter, hsign, -, hdigits⟩ := h.exponent _ he
      rw [List.forall_mem_cons, List.forall_mem_append]
      refine ⟨?_, fun c hc => ?_, fun c hc => hdigit c (hdigits c hc)⟩
      · obtain rfl | rfl := hletter <;> decide
      · obtain rfl | rfl := hsign c (Option.mem_toList.1 hc) <;> decide

/-- A number does not begin like a word. -/
theorem Numeral.find?_words {n : Numeral} (h : n.Valid) (rest : List Char) :
    words.find? (fun w => w.1.isPrefixOf (n.chars ++ rest)) = none := by
  obtain ⟨c, cs, hc, hcs⟩ := chars_head h
  have hne : ∀ d : Char, d.isDigit = false → d ≠ c := by
    rintro d hd rfl
    rw [hd] at hc
    exact nomatch hc
  rw [List.find?_eq_none]
  intro w hw
  rw [List.isPrefixOf_iff_prefix]
  rintro ⟨tail, htail⟩
  simp only [words, List.mem_cons, List.not_mem_nil, or_false] at hw
  obtain hcs | hcs := hcs <;> rw [hcs] at htail
  · obtain rfl | rfl | rfl | rfl | rfl | rfl := hw
    · exact hne 'n' rfl (List.cons.inj htail).1
    · exact hne 't' rfl (List.cons.inj htail).1
    · exact hne 'f' rfl (List.cons.inj htail).1
    · exact hne 'N' rfl (List.cons.inj htail).1
    · exact hne 'I' rfl (List.cons.inj htail).1
    · exact hne '-' rfl (List.cons.inj htail).1
  · obtain rfl | rfl | rfl | rfl | rfl | rfl := hw
    · exact absurd (List.cons.inj htail).1 (by decide)
    · exact absurd (List.cons.inj htail).1 (by decide)
    · exact absurd (List.cons.inj htail).1 (by decide)
    · exact absurd (List.cons.inj htail).1 (by decide)
    · exact absurd (List.cons.inj htail).1 (by decide)
    · exact hne 'I' rfl (List.cons.inj (List.cons.inj htail).2).1

/-- **A number is read as a number.** -/
theorem Numeral.readValue_chars {n : Numeral} (h : n.Valid)
    (hn : n.fraction ≠ [] ∨ n.exponent ≠ none) {fuel : Nat} (hfuel : 0 < fuel) {rest : List Char}
    (hr : Ends rest) (i : Nat) : readValue fuel (n.chars ++ rest) i =
      .ok (.number (.double n.double), rest, i + n.chars.length) := by
  obtain ⟨fuel, rfl⟩ := Nat.exists_eq_succ_of_ne_zero hfuel.ne'
  have hatom : readAtom (n.chars ++ rest) i =
      .ok (.number (.double n.double), rest, i + n.chars.length) := by
    unfold readAtom
    rw [find?_words h, readNumber_chars h hn hr i]
    rfl
  obtain ⟨c, cs, hc, hcs⟩ := chars_head h
  have hne : ∀ d : Char, d.isDigit = false → c ≠ d := by
    rintro d hd rfl
    rw [hd] at hc
    exact nomatch hc
  obtain ⟨d, ds, hd, hquote, hbrace, hbracket⟩ : ∃ d ds, n.chars ++ rest = d :: ds ∧
      d ≠ doubleMark ∧ d ≠ '\x7b' ∧ d ≠ '[' := by
    obtain hcs | hcs := hcs <;> rw [hcs]
    · exact ⟨c, _, rfl, hne _ rfl, hne _ rfl, hne _ rfl⟩
    · exact ⟨'-', _, rfl, by decide, by decide, by decide⟩
  rw [hd] at hatom ⊢
  rw [readValue, if_neg hquote, if_neg hbrace, if_neg hbracket, hatom]

theorem length_le_flatMap_escaped {ps : List Nat} (h : ∀ p ∈ ps, p < 0x110000) :
    ps.length ≤ (ps.flatMap escaped).length := by
  induction ps with
  | nil => exact Nat.zero_le _
  | cons p ps ih =>
    rw [List.forall_mem_cons] at h
    have hpos := length_escaped_pos h.1
    have hle := ih h.2
    rw [List.flatMap_cons, List.length_append, List.length_cons]
    omega

/-- A text in quotes is read behind its first quote. -/
theorem readText_textChars (s : String) (rest : List Char) (i : Nat) :
    ∃ body, textChars s ++ rest = doubleMark :: body ∧
      readText i (body.length + 1) [] body (i + 1) =
        .ok (Text.rejoined s, rest, i + (textChars s).length) := by
  have hps : ∀ p ∈ points s, p < 0x110000 := fun p hp => lt_of_mem_points hp
  have hle := length_le_flatMap_escaped hps
  have hsize : i + 1 + ((points s).flatMap escaped).length + 1 = i + (textChars s).length := by
    rw [textChars, List.length_append, List.length_cons, List.length_singleton]
    omega
  refine ⟨(points s).flatMap escaped ++ doubleMark :: rest, ?_, ?_⟩
  · rw [textChars, List.cons_append, List.cons_append, List.append_assoc, List.singleton_append]
  · have hfuel : (points s).length < ((points s).flatMap escaped ++ doubleMark :: rest).length + 1 := by
      rw [List.length_append]
      omega
    rw [readText_points _ _ _ _ hps hfuel, hsize]
    rfl

theorem written_text (s : String) : Written (.text s) (textChars s) where
  chars := rfl
  plain := (isText_textChars s).2
  head := ⟨doubleMark, _, rfl, by decide, by decide⟩
  reads := by
    intro fuel i rest hfuel _
    obtain ⟨fuel, rfl⟩ := Nat.exists_eq_succ_of_ne_zero (Nat.ne_zero_of_lt hfuel)
    obtain ⟨body, hbody, hread⟩ := readText_textChars s rest i
    rw [hbody, readValue, if_pos rfl, hread]
    rfl
  derives _ := .text (isText_textChars s).1
  reveals := .of_not (not_not.2 (allFinite_of_leaf rfl (by simp))) (isText_textChars s).1.shows

/-- A word that stands for no double is one of the standard. -/
theorem written_word {w : List Char} {d : Datum Number} (hw : (w, d) ∈ words)
    (hchars : chars d = .ok w) (hplain : ∀ c ∈ w, IsPlain c)
    (hhead : ∃ c rest, w = c :: rest ∧ isSpace c = false ∧ c ≠ ']') (hd : d.rejoined = d)
    (hderives : AllFinite d → Derives .value w) (hquote : doubleMark ∉ w)
    (hshows : ¬ AllFinite d → HasWord w) : Written d w where
  chars := hchars
  plain := hplain
  head := hhead
  reads := by
    intro fuel i rest hfuel _
    obtain ⟨c, cs, rfl, -⟩ := hhead
    rw [hd, readValue_word hw (Nat.lt_of_lt_of_le (Nat.zero_lt_succ _) hfuel)]
  derives := hderives
  reveals := ⟨w, shows_self hquote, hshows⟩

theorem written_null : Written .null "null".toList :=
  written_word (by simp [words]) rfl (by simp [IsPlain]) ⟨'n', _, rfl, by decide, by decide⟩ rfl
    (fun _ => .null) (by decide)
    fun h => absurd (allFinite_of_leaf (d := .null) rfl (by simp)) h

theorem written_truth (b : Bool) :
    Written (.number (.truth b)) (if b then "true" else "false").toList := by
  cases b with
  | true =>
    exact written_word (by simp [words]) rfl (by simp [IsPlain])
      ⟨'t', _, rfl, by decide, by decide⟩ rfl (fun _ => .truth true) (by decide)
      fun h => absurd (allFinite_of_leaf (d := .number (.truth true)) rfl (by simp)) h
  | false =>
    exact written_word (by simp [words]) rfl (by simp [IsPlain])
      ⟨'f', _, rfl, by decide, by decide⟩ rfl (fun _ => .truth false) (by decide)
      fun h => absurd (allFinite_of_leaf (d := .number (.truth false)) rfl (by simp)) h

theorem allFinite_double {x : Float} : AllFinite (.number (.double x)) ↔ IsFinite x := by
  simp [AllFinite, Datum.leaves]

theorem not_allFinite_double {x : Float} (hx : ∀ negative m q, Double.parts x ≠ .finite negative m q) :
    ¬ AllFinite (.number (.double x)) := by
  rw [allFinite_double]
  rintro ⟨negative, m, q, h⟩
  exact hx negative m q h

/-- A number starts with neither a blank nor a bracket. -/
theorem Numeral.startsPlain_chars {n : Numeral} (h : n.Valid) :
    ∃ c rest, n.chars = c :: rest ∧ isSpace c = false ∧ c ≠ ']' := by
  obtain ⟨c, cs, hc, hcs | hcs⟩ := chars_head h
  · have hrange : 48 ≤ c.toNat ∧ c.toNat ≤ 57 := Char.isDigit_iff_toNat.1 hc
    refine ⟨c, _, hcs, ?_, ?_⟩
    · by_contra hspace
      simp only [isSpace, Bool.not_eq_false, Bool.or_eq_true, decide_eq_true_eq] at hspace
      obtain ((rfl | rfl) | rfl) | rfl := hspace <;> exact absurd hrange (by decide)
    · rintro rfl
      exact absurd hrange (by decide)
  · exact ⟨'-', _, hcs, by decide, by decide⟩

/-- A finite double is written as a number of the grammar. -/
theorem written_finite {x : Float} (hx : IsFinite x) :
    Written (.number (.double x)) (doubleChars x) := by
  have hfinite := allFinite_double.2 hx
  obtain ⟨negative, m, q, hparts⟩ := hx
  obtain ⟨n, hvalid, hn, hchars, rfl⟩ := doubleChars_eq hparts
  obtain ⟨shown, hshown, -⟩ := Wordless.number hvalid
  rw [hchars]
  refine ⟨congrArg Except.ok hchars, Numeral.isPlain_chars hvalid,
    Numeral.startsPlain_chars hvalid, ?_, fun _ => .number hvalid, shown, hshown,
    fun h => absurd hfinite h⟩
  intro fuel i rest hfuel hrest
  have hpos : 0 < n.chars.length := by
    obtain ⟨c, cs, hcs, -⟩ := Numeral.startsPlain_chars hvalid
    rw [hcs]
    exact Nat.zero_lt_succ _
  exact Numeral.readValue_chars hvalid hn (Nat.lt_of_lt_of_le hpos hfuel) (follows_ends hrest) i

/-- What is no number is written as a word that the grammar does not have. -/
theorem written_nan {x : Float} (hx : Double.parts x = .nan) :
    Written (.number (.double x)) (doubleChars x) := by
  have hnot : ¬ AllFinite (.number (.double x)) :=
    not_allFinite_double fun _ _ _ h => nomatch hx.symm.trans h
  have hchars : doubleChars x = "NaN".toList := by rw [doubleChars, hx]
  rw [hchars]
  refine written_word ?_ (congrArg Except.ok hchars) (by simp [IsPlain])
    ⟨'N', _, rfl, by decide, by decide⟩ rfl (fun h => absurd h hnot) (by decide)
    fun _ => .inl (by decide)
  rw [Double.eq_of_nan hx]
  simp [words]

/-- So is an infinite double, with its sign. -/
theorem written_infinite {x : Float} {negative : Bool} (hx : Double.parts x = .infinite negative) :
    Written (.number (.double x)) (doubleChars x) := by
  have hnot : ¬ AllFinite (.number (.double x)) :=
    not_allFinite_double fun _ _ _ h => nomatch hx.symm.trans h
  have hvalue := Double.eq_of_infinite hx
  cases negative with
  | true =>
    have hchars : doubleChars x = "-Infinity".toList := by rw [doubleChars, hx]; rfl
    have hword : UInt64.ofNat (Double.signBit true + Double.infinityBits) = 0xFFF0000000000000 := rfl
    rw [hchars]
    refine written_word ?_ (congrArg Except.ok hchars) (by simp [IsPlain])
      ⟨'-', _, rfl, by decide, by decide⟩ rfl (fun h => absurd h hnot) (by decide)
      fun _ => .inr (by decide)
    rw [hvalue, hword]
    simp [words]
  | false =>
    have hchars : doubleChars x = "Infinity".toList := by rw [doubleChars, hx]; rfl
    have hword : UInt64.ofNat (Double.signBit false + Double.infinityBits) = 0x7FF0000000000000 := rfl
    rw [hchars]
    refine written_word ?_ (congrArg Except.ok hchars) (by simp [IsPlain])
      ⟨'I', _, rfl, by decide, by decide⟩ rfl (fun h => absurd h hnot) (by decide)
      fun _ => .inr (by decide)
    rw [hvalue, hword]
    simp [words]

/-- **A double is written**: by a number of the grammar if it is finite, by a word that the grammar
does not have otherwise. -/
theorem written_double (x : Float) : Written (.number (.double x)) (doubleChars x) := by
  obtain hx | hx | ⟨negative, hx⟩ := isFinite_or x
  · exact written_finite hx
  · exact written_nan hx
  · exact written_infinite hx

end Json

end Milp
