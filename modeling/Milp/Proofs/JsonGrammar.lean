import Milp.Json.Printer
import Milp.Json.Reader
import Mathlib.Tactic.Tauto

/-!
# The grammar of JSON

Which texts are JSON by the standard: `Json.IsJson`. These are fewer than those that are read, as
the standard has no words for doubles without digits. What a text of the grammar has outside of its
quotes shows that: `Json.Derives.wordless`.
-/

namespace Milp.Json

open Text

/-! ### Numbers -/

/-- A number in writing: a sign, the digits in front of the point and behind it, and an exponent
with its letter, its sign and its digits. There is no point if no digits are behind it. -/
structure Numeral where
  negative : Bool
  whole : List Char
  fraction : List Char
  exponent : Option (Char × Option Char × List Char)

namespace Numeral

variable (n : Numeral)

def signChars : List Char := if n.negative then ['-'] else []

def fractionChars : List Char := if n.fraction = [] then [] else '.' :: n.fraction

def exponentChars : List Char :=
  match n.exponent with
  | none => []
  | some (letter, sign, digits) => letter :: (sign.toList ++ digits)

def chars : List Char := n.signChars ++ (n.whole ++ (n.fractionChars ++ n.exponentChars))

/-- A zero at the start stands alone, and there are digits everywhere. -/
structure Valid : Prop where
  whole_ne : n.whole ≠ []
  whole : ∀ c ∈ n.whole, c.isDigit
  zero : n.whole.head? = some '0' → n.whole = ['0']
  fraction : ∀ c ∈ n.fraction, c.isDigit
  exponent : ∀ e ∈ n.exponent, (e.1 = 'e' ∨ e.1 = 'E') ∧ (∀ c ∈ e.2.1, c = '+' ∨ c = '-') ∧
    e.2.2 ≠ [] ∧ ∀ c ∈ e.2.2, c.isDigit

end Numeral

/-! ### Texts -/

def IsHexDigit (c : Char) : Prop := c.isDigit ∨ 'a' ≤ c ∧ c ≤ 'f' ∨ 'A' ≤ c ∧ c ≤ 'F'

/-- What stands between the quotes of a text. -/
inductive IsBody : List Char → Prop
  | nil : IsBody []
  | plain {c : Char} {cs : List Char} (control : 0x20 ≤ c.toNat) (quote : c ≠ doubleMark)
      (escape : c ≠ '\\') (rest : IsBody cs) : IsBody (c :: cs)
  | escape {c : Char} {cs : List Char}
      (letter : c ∈ [doubleMark, '\\', '/', 'b', 'f', 'n', 'r', 't']) (rest : IsBody cs) :
      IsBody ('\\' :: c :: cs)
  | unit {ds cs : List Char} (length : ds.length = 4) (digits : ∀ d ∈ ds, IsHexDigit d)
      (rest : IsBody cs) : IsBody ('\\' :: 'u' :: (ds ++ cs))

def IsText (cs : List Char) : Prop := ∃ body, IsBody body ∧ cs = doubleMark :: (body ++ [doubleMark])

/-! ### Values -/

/-- The characters are spaces of the grammar. -/
def Spaces (cs : List Char) : Prop := ∀ c ∈ cs, isSpace c

/-- What the rules of the grammar are about: a value, the items between the brackets of a list, and
the fields between the braces of a record. -/
inductive Part where
  | value
  | items
  | fields

/-- **The grammar**: the texts that are derived for each of its parts. -/
inductive Derives : Part → List Char → Prop
  | null : Derives .value "null".toList
  | truth (b : Bool) : Derives .value (if b then "true" else "false").toList
  | number {n : Numeral} : n.Valid → Derives .value n.chars
  | text {cs : List Char} : IsText cs → Derives .value cs
  | noItems {s : List Char} : Spaces s → Derives .value ('[' :: (s ++ [']']))
  | list {cs : List Char} : Derives .items cs → Derives .value ('[' :: (cs ++ [']']))
  | noFields {s : List Char} : Spaces s → Derives .value ('\x7b' :: (s ++ ['\x7d']))
  | record {cs : List Char} : Derives .fields cs → Derives .value ('\x7b' :: (cs ++ ['\x7d']))
  | lastItem {s v t : List Char} : Spaces s → Derives .value v → Spaces t →
      Derives .items (s ++ (v ++ t))
  | item {s v t cs : List Char} : Spaces s → Derives .value v → Spaces t → Derives .items cs →
      Derives .items (s ++ (v ++ (t ++ ',' :: cs)))
  | lastField {s k t u v w : List Char} : Spaces s → IsText k → Spaces t → Spaces u →
      Derives .value v → Spaces w → Derives .fields (s ++ (k ++ (t ++ ':' :: (u ++ (v ++ w)))))
  | field {s k t u v w cs : List Char} : Spaces s → IsText k → Spaces t → Spaces u →
      Derives .value v → Spaces w → Derives .fields cs →
      Derives .fields (s ++ (k ++ (t ++ ':' :: (u ++ (v ++ (w ++ ',' :: cs))))))

theorem Spaces.append {cs ds : List Char} (h : Spaces cs) (h' : Spaces ds) : Spaces (cs ++ ds) :=
  fun c hc => (List.mem_append.1 hc).elim (h c) (h' c)

/-- Items and fields may have spaces in front. -/
theorem Derives.space {p : Part} {s cs : List Char} (h : Derives p cs) (hp : p ≠ .value)
    (hs : Spaces s) : Derives p (s ++ cs) := by
  cases h with
  | lastItem h hv ht =>
    rw [← List.append_assoc]
    exact .lastItem (hs.append h) hv ht
  | item h hv ht hcs =>
    rw [← List.append_assoc]
    exact .item (hs.append h) hv ht hcs
  | lastField h hk ht hu hv hw =>
    rw [← List.append_assoc]
    exact .lastField (hs.append h) hk ht hu hv hw
  | field h hk ht hu hv hw hcs =>
    rw [← List.append_assoc]
    exact .field (hs.append h) hk ht hu hv hw hcs
  | _ => exact absurd rfl hp

/-- **A text that is JSON**: a value with nothing but spaces around it. -/
def IsJson (cs : List Char) : Prop :=
  ∃ s v t, Spaces s ∧ Derives .value v ∧ Spaces t ∧ cs = s ++ (v ++ t)

/-! ### What is outside of quotes -/

/-- The characters outside of quotes, and the quotes at the start of texts. A backslash between
quotes keeps the character after it from ending the text. -/
def bare : (inside : Bool) → List Char → List Char
  | _, [] => []
  | false, c :: cs => c :: bare (c == doubleMark) cs
  | true, ['\\'] => []
  | true, '\\' :: _ :: cs => bare true cs
  | true, c :: cs => bare (c != doubleMark) cs

/-- Outside of quotes the text has the characters, and no quote is open at its end. -/
def Shows (cs shown : List Char) : Prop :=
  ∀ rest, bare false (cs ++ rest) = shown ++ bare false rest

theorem Shows.append {cs ds shown shown' : List Char} (h : Shows cs shown) (h' : Shows ds shown') :
    Shows (cs ++ ds) (shown ++ shown') := by
  intro rest
  rw [List.append_assoc, h, h', List.append_assoc]

/-- A text without quotes is outside of quotes. -/
theorem shows_self {cs : List Char} (h : doubleMark ∉ cs) : Shows cs cs := by
  intro rest
  induction cs with
  | nil => rfl
  | cons c cs ih =>
    rw [List.mem_cons, not_or] at h
    have hc : (c == doubleMark) = false := by simpa using Ne.symm h.1
    rw [List.cons_append, bare, hc, ih h.2, List.cons_append]

theorem bare_plain {c : Char} (h : c ≠ '\\') (cs : List Char) :
    bare true (c :: cs) = bare (c != doubleMark) cs := by
  rw [bare]
  · exact fun hc _ => h hc
  · exact fun _ _ hc _ => h hc

theorem IsBody.bare_append {body : List Char} (h : IsBody body) (rest : List Char) :
    bare true (body ++ doubleMark :: rest) = bare false rest := by
  induction h with
  | nil => exact bare_plain (by decide) rest
  | @plain c cs _ hquote hescape _ ih =>
    have hc : (c != doubleMark) = true := by simpa using hquote
    rw [List.cons_append, bare_plain hescape, hc, ih]
  | escape _ _ ih => exact ih
  | @unit ds cs hlength hdigits _ ih =>
    have hdigit : ∀ d ∈ ds, d ≠ '\\' ∧ d ≠ doubleMark := by
      intro d hd
      constructor <;> rintro rfl <;> exact absurd (hdigits _ hd) (by unfold IsHexDigit; decide)
    have hskip : ∀ {es : List Char}, (∀ d ∈ es, d ≠ '\\' ∧ d ≠ doubleMark) →
        bare true (es ++ (cs ++ doubleMark :: rest)) = bare true (cs ++ doubleMark :: rest) := by
      intro es hes
      induction es with
      | nil => rfl
      | cons d es ihes =>
        rw [List.forall_mem_cons] at hes
        have hd : (d != doubleMark) = true := by simpa using hes.1.2
        rw [List.cons_append, bare_plain hes.1.1, hd, ihes hes.2]
    rw [List.cons_append, List.cons_append, List.append_assoc]
    exact (hskip hdigit).trans ih

/-- Of a text only the quote at its start shows. -/
theorem IsText.shows {cs : List Char} (h : IsText cs) : Shows cs [doubleMark] := by
  obtain ⟨body, hbody, rfl⟩ := h
  intro rest
  rw [List.cons_append, List.append_assoc, bare]
  exact congrArg (List.cons doubleMark) (hbody.bare_append rest)

/-- There is one of the two letters with which the words begin that stand for doubles without
digits, and no other word. -/
def HasWord (shown : List Char) : Prop := 'N' ∈ shown ∨ 'I' ∈ shown

theorem hasWord_append {shown shown' : List Char} :
    HasWord (shown ++ shown') ↔ HasWord shown ∨ HasWord shown' := by
  unfold HasWord
  rw [List.mem_append, List.mem_append]
  tauto

/-- Outside of quotes the text has neither of these words. -/
def Wordless (cs : List Char) : Prop := ∃ shown, Shows cs shown ∧ ¬ HasWord shown

namespace Wordless

theorem append {cs ds : List Char} (h : Wordless cs) (h' : Wordless ds) : Wordless (cs ++ ds) := by
  obtain ⟨shown, hshows, hword⟩ := h
  obtain ⟨shown', hshows', hword'⟩ := h'
  exact ⟨_, hshows.append hshows', fun hmem => (hasWord_append.1 hmem).elim hword hword'⟩

theorem of_forall {cs : List Char} (h : ∀ c ∈ cs, c ≠ doubleMark ∧ c ≠ 'N' ∧ c ≠ 'I') :
    Wordless cs := by
  refine ⟨cs, shows_self fun hmem => (h _ hmem).1 rfl, ?_⟩
  rintro (hmem | hmem)
  · exact (h _ hmem).2.1 rfl
  · exact (h _ hmem).2.2 rfl

theorem singleton {c : Char} (hc : c ≠ doubleMark ∧ c ≠ 'N' ∧ c ≠ 'I') : Wordless [c] :=
  of_forall (List.forall_mem_singleton.2 hc)

theorem cons {c : Char} {cs : List Char} (hc : c ≠ doubleMark ∧ c ≠ 'N' ∧ c ≠ 'I')
    (h : Wordless cs) : Wordless (c :: cs) :=
  append (singleton hc) h

theorem spaces {cs : List Char} (h : Spaces cs) : Wordless cs := by
  refine of_forall fun c hc => ?_
  have hspace := h c hc
  refine ⟨?_, ?_, ?_⟩ <;> rintro rfl <;> exact absurd hspace (by decide)

theorem text {cs : List Char} (h : IsText cs) : Wordless cs :=
  ⟨_, h.shows, by unfold HasWord; decide⟩

/-- A number has digits, signs, a point and a letter that is none of the two. -/
theorem number {n : Numeral} (h : n.Valid) : Wordless n.chars := by
  have hdigit : ∀ c : Char, c.isDigit → c ≠ doubleMark ∧ c ≠ 'N' ∧ c ≠ 'I' := by
    intro c hc
    refine ⟨?_, ?_, ?_⟩ <;> rintro rfl <;> exact absurd hc (by decide)
  refine append ?_ (append ?_ (append ?_ ?_))
  · unfold Numeral.signChars
    split <;> exact of_forall (by simp [doubleMark])
  · exact of_forall fun c hc => hdigit c (h.whole c hc)
  · unfold Numeral.fractionChars
    split
    · exact of_forall (by simp [doubleMark])
    · exact cons (by decide) (of_forall fun c hc => hdigit c (h.fraction c hc))
  · unfold Numeral.exponentChars
    split
    next => exact of_forall (by simp [doubleMark])
    next letter sign digits he =>
      obtain ⟨hletter, hsign, -, hdigits⟩ := h.exponent _ he
      refine cons ?_ (append ?_ (of_forall fun c hc => hdigit c (hdigits c hc)))
      · obtain rfl | rfl := hletter <;> decide
      · refine of_forall fun c hc => ?_
        obtain rfl | rfl := hsign c (Option.mem_toList.1 hc) <;> decide

end Wordless

/-- **What is derived has no words but those of the standard.** -/
theorem Derives.wordless {p : Part} {cs : List Char} (h : Derives p cs) : Wordless cs := by
  induction h with
  | null => exact .of_forall (by simp [doubleMark])
  | truth b => cases b <;> exact .of_forall (by simp [doubleMark])
  | number h => exact .number h
  | text h => exact .text h
  | noItems hs => exact .cons (by decide) (.append (.spaces hs) (.singleton (by decide)))
  | list _ ih => exact .cons (by decide) (.append ih (.singleton (by decide)))
  | noFields hs => exact .cons (by decide) (.append (.spaces hs) (.singleton (by decide)))
  | record _ ih => exact .cons (by decide) (.append ih (.singleton (by decide)))
  | lastItem hs _ ht ihv => exact .append (.spaces hs) (.append ihv (.spaces ht))
  | item hs _ ht _ ihv ihcs =>
    exact .append (.spaces hs) (.append ihv (.append (.spaces ht) (.cons (by decide) ihcs)))
  | lastField hs hk ht hu _ hw ihv =>
    exact .append (.spaces hs) (.append (.text hk) (.append (.spaces ht)
      (.cons (by decide) (.append (.spaces hu) (.append ihv (.spaces hw))))))
  | field hs hk ht hu _ hw _ ihv ihcs =>
    exact .append (.spaces hs) (.append (.text hk) (.append (.spaces ht)
      (.cons (by decide) (.append (.spaces hu) (.append ihv (.append (.spaces hw)
        (.cons (by decide) ihcs)))))))

theorem IsJson.wordless {cs : List Char} (h : IsJson cs) : Wordless cs := by
  obtain ⟨s, v, t, hs, hv, ht, rfl⟩ := h
  exact .append (.spaces hs) (.append hv.wordless (.spaces ht))

/-- What shows outside of quotes is one row of characters. -/
theorem Shows.unique {cs shown shown' : List Char} (h : Shows cs shown) (h' : Shows cs shown') :
    shown = shown' := by
  have heq := (h []).symm.trans (h' [])
  rwa [bare, List.append_nil, List.append_nil] at heq

end Milp.Json
