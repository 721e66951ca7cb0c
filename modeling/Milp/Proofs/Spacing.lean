import Milp.Proofs.Opposites

/-!
# Blanks behind a sign

A sign in front of a digit belongs to the numeral, and a numeral with a sign is added to the operand
that it follows. With blanks behind the sign there is an operator and a numeral without a sign. Both
come to the same, since to subtract is to add the opposite: `Template.evaluate_spaced`. Where no
operand stands complete in front of it, a numeral with a sign is a single token.
-/

namespace Milp

open Text
open Feed (Along Ended)

variable {mode : Mode}

/-! ### Numerals and their signs -/

namespace Numeral

variable {n : Numeral} {c : Char} {cs : List Char}

def unsigned (n : Numeral) : Numeral := { n with sign := none }

theorem chars_unsigned (n : Numeral) : n.unsigned.chars = n.body := chars_eq n.unsigned

theorem chars_of_sign (h : n.sign = some c) : n.chars = c :: n.body := by
  rw [chars_eq, h]
  rfl

/-- Behind the sign of a numeral the numeral without it is read. -/
theorem read?_unsigned (hsign : n.sign = some c) (h : read? (n.chars ++ cs) = some n) :
    read? (n.body ++ cs) = some n.unsigned := by
  have hvalid := (read?_sound h).1
  obtain ⟨d, ds, hbody, hd⟩ := hvalid.body_head
  have hc : isSign c := hvalid.sign c hsign
  rw [chars_of_sign hsign, hbody, List.cons_append, List.cons_append] at h
  rw [hbody, List.cons_append]
  have hdigits : readDigits (some c) (d :: (ds ++ cs)) = n := by
    simpa [read?, isDigit_of_isSign hc, hc, hd] using h
  rw [read?, if_pos hd, ← hdigits]
  rfl

theorem value_of_plus (h : n.sign = some '+') : (n.value : Rat) = n.unsigned.value := by
  rw [value, value, h]
  rfl

theorem value_of_minus (h : n.sign = some '-') : (n.value : Rat) = -n.unsigned.value := by
  rw [value, value, h]
  rfl

end Numeral

namespace Lexeme

variable {n : Numeral} {c : Char} {cs ds : List Char}

theorem read?_of_numeral (h : Numeral.read? cs = some n) : read? mode cs = some (.numeral n) := by
  rw [read?, h]

/-- In front of a blank a sign is an operator. -/
theorem read?_sign {w : Char} (hc : Numeral.isSign c) (hw : isBlank w) :
    read? mode (c :: w :: cs) = some (.operator c) := by
  have hd : isDigit w = false := by
    cases hd : isDigit w with
    | false => rfl
    | true =>
      rw [isBlank_of_isDigit hd] at hw
      cases hw
  have hnone : Numeral.read? (c :: w :: cs) = none := by
    simp [Numeral.read?, isDigit_of_isSign hc, hd]
  rw [read?, hnone]
  refine readSign?_operator ?_ _
  simp only [Numeral.isSign, Bool.or_eq_true, decide_eq_true_eq] at hc
  obtain rfl | rfl := hc <;> simp

/-- No lexeme has a sign in it but at its start. -/
theorem not_isSign_of_mem_tail {l : Lexeme} (hl : l.Valid mode) (hc : c ∈ l.chars.tail) :
    Numeral.isSign c = false := by
  cases hl with
  | @numeral n hn =>
    have hbody : c ∈ n.body := by
      rw [chars, Numeral.chars_eq] at hc
      cases hsign : n.sign with
      | none =>
        rw [hsign] at hc
        exact List.mem_of_mem_tail hc
      | some d => rwa [hsign] at hc
    obtain hd | rfl := numeral_of_mem_body hn hbody
    · cases hs : Numeral.isSign c with
      | false => rfl
      | true =>
        rw [isDigit_of_isSign hs] at hd
        exact hd.symm
    · decide
  | operator _ | opening | closing => exact absurd hc List.not_mem_nil
  | comparator s _ =>
    rw [chars_comparator] at hc
    cases s <;>
    · obtain rfl := List.mem_singleton.1 hc
      decide

/-- A text that starts with a sign stands apart from what is before it. -/
theorem apart_sign (hc : Numeral.isSign c) : Apart mode cs (c :: ds) := by
  intro l hl us vs _ hvs hchars
  cases us with
  | nil => exact .inl rfl
  | cons x us =>
    cases vs with
    | nil => exact .inr rfl
    | cons y vs =>
      obtain ⟨rfl, -⟩ := List.cons_prefix_cons.1 hvs
      have htail : y ∈ l.chars.tail := by simp [hchars]
      rw [not_isSign_of_mem_tail hl htail] at hc
      cases hc

end Lexeme

/-! ### Templates around a numeral -/

theorem completeAfter_eq {ω : Type} (complete : Bool) (is : List (SourceItem ω)) :
    completeAfter complete is = (is.getLast?.map SourceItem.completes).getD complete := by
  obtain rfl | ⟨is, i, rfl⟩ := List.eq_nil_or_concat is
  · rfl
  · simp [completeAfter]

namespace Template

variable {ω : Type}

theorem extend_append (segment : String) (t u : Template ω) (rest : List (ω × String)) :
    extend segment t rest ++ u = extend segment (t ++ u) rest := by
  induction rest generalizing segment with
  | nil =>
    obtain ⟨first, rest⟩ := t
    cases rest with
    | nil =>
      show Template.mk (segment ++ first ++ u.first) u.rest =
        ⟨segment ++ (first ++ u.first), u.rest⟩
      rw [String.append_assoc]
    | cons p rest => rfl
  | cons p rest ih =>
    have h := ih p.2
    show Template.mk segment ((p.1, (extend p.2 t rest ++ u).first) ::
      (extend p.2 t rest ++ u).rest) = _
    rw [h]
    rfl

theorem append_assoc (s t u : Template ω) : s ++ t ++ u = s ++ (t ++ u) := extend_append ..

theorem append_empty (s : Template ω) : s ++ ofText "" = s := by
  obtain ⟨segment, rest⟩ := s
  show extend segment (ofText "") rest = _
  induction rest generalizing segment with
  | nil =>
    show Template.mk (segment ++ "") [] = _
    rw [String.append_empty]
  | cons p rest ih => rw [extend, ih]

/-- What ends the template completes an operand, if it can be read at all. -/
def EndsComplete (mode : Mode) (s : Template ω) : Prop :=
  ∀ is, s.Spells mode is → ∃ i ∈ is.getLast?, i.completes = true

/-- The template is at its start or ends where an operand is due. -/
def EndsOpen (mode : Mode) (s : Template ω) : Prop :=
  ∀ is, s.Spells mode is → ∀ i ∈ is.getLast?, i.completes = false

theorem EndsComplete.completeAfter_eq {s : Template ω} (h : s.EndsComplete mode)
    {is : List (SourceItem ω)} (his : s.Spells mode is) : completeAfter false is = true := by
  obtain ⟨i, hi, hcompletes⟩ := h is his
  rw [Milp.completeAfter_eq, Option.mem_def.1 hi]
  exact hcompletes

theorem EndsOpen.completeAfter_eq {s : Template ω} (h : s.EndsOpen mode)
    {is : List (SourceItem ω)} (his : s.Spells mode is) : completeAfter false is = false := by
  rw [Milp.completeAfter_eq]
  cases hi : is.getLast? with
  | none => rfl
  | some i => exact h is his i hi

end Template

/-! ### Tokens around a numeral -/

section Scan

variable {β ω κ : Type} {value : Numeral → β} {read : ω → Except κ (Symbol β)}
  {source : Except κ String} {index column : Nat} {complete : Bool} {segment : String}
  {n : Numeral} {sign : Char} {cs : List Char} {rest : List (ω × String)}

theorem scanAt_numeral (h : Numeral.read? (n.chars ++ cs) = some n) :
    scanAt mode value read source index complete column segment (n.chars ++ cs) rest =
      (Feed.ofList ((Lexeme.numeral n).tokens value ⟨some index, some column⟩ complete)).followedBy
        (scanAt mode value read source index true (column + n.chars.length) segment cs rest) :=
  scanAt_lexeme (l := .numeral n) (Lexeme.read?_eq_some_iff.1 (Lexeme.read?_of_numeral h))

/-- A sign, blanks and digits are an operator and a numeral without a sign. -/
theorem exists_scanAt_spaced {w : Char} {ws : List Char} (hws : ∀ c ∈ w :: ws, isBlank c)
    (hsign : n.sign = some sign) (h : Numeral.read? (n.chars ++ cs) = some n) :
    ∃ column' : Nat, scanAt mode value read source index complete column segment
        (sign :: (w :: ws ++ n.body) ++ cs) rest =
      .next ⟨.operator (.text (String.singleton sign)), ⟨some index, some column⟩⟩
        (.next ⟨.number (value n.unsigned), ⟨some index, some column'⟩⟩
          (scanAt mode value read source index true (column' + n.unsigned.chars.length) segment cs
            rest)) := by
  have hc : Numeral.isSign sign := (Numeral.read?_sound h).1.sign sign hsign
  have hunsigned : Numeral.read? (n.unsigned.chars ++ cs) = some n.unsigned := by
    rw [Numeral.chars_unsigned]
    exact Numeral.read?_unsigned hsign h
  have hoperator : Lexeme.Starts mode (.operator sign)
      ([sign] ++ (w :: ws ++ (n.unsigned.chars ++ cs))) :=
    Lexeme.read?_eq_some_iff.1 (Lexeme.read?_sign hc (hws w List.mem_cons_self))
  obtain ⟨column', hblanks⟩ : ∃ column', scanAt mode value read source index false (column + 1)
        segment (w :: ws ++ (n.unsigned.chars ++ cs)) rest =
      scanAt mode value read source index false column' segment (n.unsigned.chars ++ cs) rest :=
    scanAt_blanks hws
  have htext : sign :: (w :: ws ++ n.body) ++ cs =
      [sign] ++ (w :: ws ++ (n.unsigned.chars ++ cs)) := by
    simp [Numeral.chars_unsigned]
  refine ⟨column', ?_⟩
  rw [htext]
  refine (scanAt_lexeme hoperator).trans (congrArg (Feed.next _) ?_)
  exact hblanks.trans (scanAt_numeral hunsigned)

end Scan

/-- The errors fall into one class. -/
def ScanError.SameClass (e e' : ScanError AlgebraError) : Prop :=
  (SourceError.ofRead (.feed e) : SourceError String Rat).errorClass =
    (SourceError.ofRead (.feed e') : SourceError String Rat).errorClass

theorem ScanError.sameClass_ofChar {source source' segment segment' : String}
    {e e' : String × Nat} :
    SameClass (.ofChar (.ok source) segment e) (.ofChar (.ok source') segment' e') := rfl

theorem ScanError.sameClass_operand (e : AlgebraError) : SameClass (.operand e) (.operand e) := rfl

namespace Template

variable {name : Var → String} {s u : Template (Operand String Rat)} {n : Numeral} {sign : Char}
  {ws : List Char}

/-- Every template with texts as names can be written. -/
theorem exists_substituted (t : Template (Operand String Rat)) (name : Var → String) :
    ∃ w, t.substituted (Operand.inSource name) = .ok w := by
  refine substituted_isOk_iff.2 fun o _ => ?_
  cases o <;> exact ⟨_, rfl⟩

/-- What is scanned of templates that begin alike, wherever they part. -/
theorem along_tokens {B : Feed (Token (Operand String Rat)) (ScanError AlgebraError) Unit →
      Feed (Token (Operand String Rat)) (ScanError AlgebraError) Unit → Prop}
    {s v v' : Template (Operand String Rat)}
    (hseam : Lexeme.Apart mode s.last.toList v.first.toList)
    (hseam' : Lexeme.Apart mode s.last.toList v'.first.toList)
    (hB : ∀ is, s.Spells mode is → ∀ source source' index column column' segment segment',
      Along ScanError.SameClass B
        (scanAt mode (fun n => .number n.value) (Operand.symbol name) (.ok source) index
          (completeAfter false is) column segment v.first.toList v.rest)
        (scanAt mode (fun n => .number n.value) (Operand.symbol name) (.ok source') index
          (completeAfter false is) column' segment' v'.first.toList v'.rest)) :
    Along ScanError.SameClass B ((s ++ v).tokens name mode) ((s ++ v').tokens name mode) := by
  obtain ⟨w, hw⟩ := (s ++ v).exists_substituted name
  obtain ⟨w', hw'⟩ := (s ++ v').exists_substituted name
  rw [tokens, tokens, hw, hw']
  exact along_scan (fun _ _ _ _ => ScanError.sameClass_ofChar) ScanError.sameClass_operand hseam
    hseam' fun is his => hB is his w w'

theorem toList_first_ofText (cs : List Char) (u : Template (Operand String Rat)) :
    (ofText (String.ofList cs) ++ u).first.toList = cs ++ u.first.toList := by
  show (String.ofList cs ++ u.first).toList = _
  rw [String.toList_append, String.toList_ofList]

section Signed

variable (hread : Numeral.read? (n.chars ++ u.first.toList) = some n) (hsign : n.sign = some sign)

include hread hsign

/-- **A signed numeral with and without blanks** behind its sign, after a complete operand: it is
added, or its number without the sign is added or subtracted, whichever the sign says. -/
theorem along_spaced (hws : ∀ c ∈ ws, isBlank c) (hne : ws ≠ []) (hs : s.EndsComplete mode) :
    Along ScanError.SameClass
      (Feed.Exchanged ScanError.SameClass (.text "+") (.text (String.singleton sign))
        (.number n.value) (.number n.unsigned.value))
      ((s ++ (ofText (String.ofList n.chars) ++ u)).tokens name mode)
      ((s ++ (ofText (String.ofList (sign :: (ws ++ n.body))) ++ u)).tokens name mode) := by
  have hc : Numeral.isSign sign := (Numeral.read?_sound hread).1.sign sign hsign
  refine along_tokens ?_ ?_ fun is his source source' index column column' segment segment' => ?_
  · rw [toList_first_ofText, Numeral.chars_of_sign hsign]
    exact Lexeme.apart_sign hc
  · rw [toList_first_ofText]
    exact Lexeme.apart_sign hc
  · rw [hs.completeAfter_eq his, toList_first_ofText, toList_first_ofText]
    obtain ⟨w, ws, rfl⟩ := List.exists_cons_of_ne_nil hne
    obtain ⟨column₂, hspaced⟩ := exists_scanAt_spaced hws hsign hread
    have htokens : ∀ value place, (Lexeme.numeral n).tokens value place true =
        [⟨.operator (.text "+"), place⟩, ⟨.number (value n : Operand String Rat), place⟩] := by
      intro value place
      simp [Lexeme.tokens, hsign]
    rw [scanAt_numeral hread, hspaced, htokens]
    exact .here (.mk rfl rfl rfl rfl (along_scanAt_ended
      (fun _ _ _ _ => ScanError.sameClass_ofChar) ScanError.sameClass_operand ..))

/-- **A signed numeral brings the operator that adds it** if an operand stands complete before it,
and else it is a single token. -/
theorem symbols_signed {complete : Bool}
    (hs : ∀ is, s.Spells mode is → completeAfter false is = complete)
    (ho : (s.tokens name mode).outcome = .ok ()) :
    (s.tokens name mode).items.map Token.symbol ++
        ((if complete then [.operator (.text "+")] else []) ++ [.number (.number n.value)]) <+:
      ((s ++ (ofText (String.ofList n.chars) ++ u)).tokens name mode).items.map Token.symbol := by
  let Tokens := Feed (Token (Operand String Rat)) (ScanError AlgebraError) Unit
  let Goes (f f' : Tokens) : Prop := f'.items = [] ∧
    (if complete then [.operator (.text "+")] else []) ++ [.number (.number n.value)] <+:
      f.items.map Token.symbol
  have hc : Numeral.isSign sign := (Numeral.read?_sound hread).1.sign sign hsign
  have halong : Along ScanError.SameClass Goes
      ((s ++ (ofText (String.ofList n.chars) ++ u)).tokens name mode)
      ((s ++ ofText "").tokens name mode) := by
    refine along_tokens ?_ (Lexeme.apart_nil _) fun is his source source' index column column'
      segment segment' => ?_
    · rw [toList_first_ofText, Numeral.chars_of_sign hsign]
      exact Lexeme.apart_sign hc
    · rw [hs is his, toList_first_ofText, scanAt_numeral hread, Lexeme.tokens, hsign]
      refine .here ⟨rfl, ?_⟩
      cases complete <;> exact List.prefix_append _ _
  rw [append_empty] at halong
  exact halong.items_append ho fun f f' h => h

end Signed

end Template

/-! ### Evaluation -/

namespace SourceError

/-- The errors fall into one class. -/
def SameClass (e e' : SourceError String Rat) : Prop := e.errorClass = e'.errorClass

theorem sameClass_ofRead {e e' : ReadError (ScanError AlgebraError) (Operand String Rat)}
    (h : ReadError.Alike ScanError.SameClass e e') : SameClass (ofRead e) (ofRead e') := by
  cases h with
  | feed h => exact h
  | grammar h => exact h.1

/-- The same result, or errors of one class. -/
theorem mapError_eq {α : Type} {x x' : Except (SourceError String Rat) α}
    (h : Except.Alike SameClass Eq x x') : x.mapError errorClass = x'.mapError errorClass := by
  cases h with
  | ok h => rw [h]
  | error h => exact congrArg Except.error h

end SourceError

theorem Tree.Agrees.toAffine_eq {name : Var → String} {t t' : Tree (Operand String Rat)}
    (h : t.Agrees name t') : t.toAffine name = t'.toAffine name := by
  have h : t.evaluate name = t'.evaluate name := h
  rw [toAffine, h, toAffine]

namespace Template

variable {name : Var → String} {s t t' u : Template (Operand String Rat)} {n : Numeral}
  {sign : Char} {ws : List Char}

/-- Whether the log line can be written depends on the expression alone. -/
theorem logLine_alike (name : Var → String) (t t' : Template (Operand String Rat))
    (e : Affine String Rat) : Except.Alike SourceError.SameClass Eq
      (discard ((t.logLine name e).mapError SourceError.ofName))
      (discard ((t'.logLine name e).mapError SourceError.ofName)) := by
  obtain ⟨w, hw⟩ := t.exists_substituted name
  obtain ⟨w', hw'⟩ := t'.exists_substituted name
  rw [logLine, logLine, display, display, hw, hw']
  cases e.display name with
  | error d => exact .error rfl
  | ok d => exact .ok rfl

/-- Templates are evaluated alike if they are parsed to trees with the same values. -/
theorem evaluate_alike (h : Except.Alike (ReadError.Alike ScanError.SameClass) (Tree.Agrees name)
      (Tree.ofFeed (t.tokens name .expression)) (Tree.ofFeed (t'.tokens name .expression))) :
    Except.Alike SourceError.SameClass Eq (t.evaluate name) (t'.evaluate name) := by
  refine (h.mapError fun _ _ => SourceError.sameClass_ofRead).bind fun tree tree' htree => ?_
  rw [htree.toAffine_eq]
  cases tree'.toAffine name with
  | error e => exact .error rfl
  | ok e => exact (logLine_alike name t t' e).bind fun _ _ _ => .ok rfl

theorem evaluateConstraint_alike
    (h : Except.Alike (ReadError.Alike ScanError.SameClass)
      (Mode.constraint.Mirrors (Tree.Agrees name))
      (Comparison.ofFeed (t.tokens name .constraint))
      (Comparison.ofFeed (t'.tokens name .constraint))) :
    Except.Alike SourceError.SameClass Eq (t.evaluateConstraint name)
      (t'.evaluateConstraint name) := by
  refine (h.mapError fun _ _ => SourceError.sameClass_ofRead).bind fun c c' hc => ?_
  obtain ⟨hleft, hcomparator, hright⟩ := hc
  have hleft : c.left.Agrees name c'.left := hleft
  have hright : c.right.Agrees name c'.right := hright
  rw [hleft.toAffine_eq, hcomparator, hright.toAffine_eq]
  cases c'.left.toAffine name with
  | error e => exact .error rfl
  | ok l =>
    cases c'.right.toAffine name with
    | error e => exact .error rfl
    | ok r => exact .ok rfl

theorem parse_spaced (hread : Numeral.read? (n.chars ++ u.first.toList) = some n)
    (hsign : n.sign = some sign) (hws : ∀ c ∈ ws, isBlank c) (hne : ws ≠ [])
    (hs : s.EndsComplete mode) :
    Except.Alike (ReadError.Alike ScanError.SameClass) (mode.Mirrors (Tree.Agrees name))
      (mode.parse ((s ++ (ofText (String.ofList n.chars) ++ u)).tokens name mode))
      (mode.parse
        ((s ++ (ofText (String.ofList (sign :: (ws ++ n.body))) ++ u)).tokens name mode)) := by
  have hR : Tree.Congruent (Tree.Agrees name : Tree (Operand String Rat) → _ → _) :=
    Tree.congruent_agrees name
  have hplus : Grammar.JoinsSummands (.text "+" : Word (Operand String Rat)) := .inl rfl
  have hminus : Grammar.JoinsSummands (.text "-" : Word (Operand String Rat)) := .inr rfl
  have hc : Numeral.isSign sign := (Numeral.read?_sound hread).1.sign sign hsign
  simp only [Numeral.isSign, Bool.or_eq_true, decide_eq_true_eq] at hc
  -- Behind a plus the two numbers are the same, behind a minus they are opposite.
  obtain rfl | rfl := hc
  · have hx : Tree.Agrees name (.literal (.number (n.value : Rat)))
        (.literal (.number n.unsigned.value)) := by
      rw [Numeral.value_of_plus hsign]
      rfl
    exact Mode.parse_exchanged hR hR.multiplies hplus hplus hR.binary hx
      (along_spaced hread hsign hws hne hs)
  · have hx : Tree.Opposite name (.literal (.number n.value))
        (.literal (.number n.unsigned.value)) := by
      rw [Numeral.value_of_minus hsign]
      exact .ok (.number _)
    exact Mode.parse_exchanged hR (Tree.multiplies_opposite name) hplus hminus
      (Tree.exchanges_opposite name) hx (along_spaced hread hsign hws hne hs)

/-- **Blanks behind the sign of a numeral make no difference** after a complete operand. Let a
numeral with a sign be read between the templates `s` and `u`. If `s` ends with a complete operand,
then with blanks behind the sign the outcome of both evaluations is the same, be it a result or an
error of some class. In that case the numeral brings the operator that adds it; if `s` ends where an
operand is due, it brings none. -/
theorem evaluate_spaced (hread : Numeral.read? (n.chars ++ u.first.toList) = some n)
    (hsign : n.sign = some sign) (hws : ∀ c ∈ ws, isBlank c) :
    let joined := s ++ ofText (String.ofList n.chars) ++ u
    let spaced := s ++ ofText (String.ofList (sign :: (ws ++ n.body))) ++ u
    (s.EndsComplete .expression → (joined.evaluate name).mapError SourceError.errorClass =
      (spaced.evaluate name).mapError SourceError.errorClass) ∧
    (s.EndsComplete .constraint → (joined.evaluateConstraint name).mapError SourceError.errorClass =
      (spaced.evaluateConstraint name).mapError SourceError.errorClass) ∧
    ∀ mode, (s.tokens name mode).outcome = .ok () →
      (s.EndsComplete mode → (s.tokens name mode).items.map Token.symbol ++
        [.operator (.text "+"), .number (.number n.value)] <+:
          (joined.tokens name mode).items.map Token.symbol) ∧
      (s.EndsOpen mode → (s.tokens name mode).items.map Token.symbol ++
        [.number (.number n.value)] <+: (joined.tokens name mode).items.map Token.symbol) := by
  intro joined spaced
  have hjoined : joined = s ++ (ofText (String.ofList n.chars) ++ u) := append_assoc ..
  have hspaced : spaced = s ++ (ofText (String.ofList (sign :: (ws ++ n.body))) ++ u) :=
    append_assoc ..
  have hsame : ws = [] → joined = spaced := by
    intro hws
    rw [hjoined, hspaced, hws, Numeral.chars_of_sign hsign, List.nil_append]
  refine ⟨fun hs => ?_, fun hs => ?_, fun mode ho => ⟨fun hs => ?_, fun hs => ?_⟩⟩
  · by_cases hne : ws = []
    · rw [hsame hne]
    · rw [hjoined, hspaced]
      exact SourceError.mapError_eq (evaluate_alike (parse_spaced hread hsign hws hne hs))
  · by_cases hne : ws = []
    · rw [hsame hne]
    · rw [hjoined, hspaced]
      exact SourceError.mapError_eq (evaluateConstraint_alike (parse_spaced hread hsign hws hne hs))
  · rw [hjoined]
    exact symbols_signed hread hsign (fun _ => hs.completeAfter_eq) ho
  · rw [hjoined]
    exact symbols_signed hread hsign (fun _ => hs.completeAfter_eq) ho

/-- `2*{}`, with a variable at the placeholder. -/
def twice : Template (Operand String Rat) := ⟨"2*", [(.var ⟨0⟩, "")]⟩

/-- `-3` -/
def minusThree : Numeral := ⟨some '-', ['3'], []⟩

/-- `/4` -/
def quartered : Template (Operand String Rat) := ofText "/4"

/-- `2*{}-3/4` and `2*{}- 3/4` have the same value; `-3` alone is a single number. -/
theorem evaluate_twiceMinusThree :
    ((twice ++ ofText (String.ofList minusThree.chars) ++ quartered).evaluate
        fun _ => "x").mapError SourceError.errorClass =
      ((twice ++ ofText (String.ofList ('-' :: ([' '] ++ minusThree.body))) ++ quartered).evaluate
        fun _ => "x").mapError SourceError.errorClass ∧
    [.number (.number minusThree.value)] <+:
      ((ofText "" ++ ofText (String.ofList minusThree.chars) ++ quartered).tokens
        (fun _ => "x") .expression).items.map Token.symbol := by
  have hread : Numeral.read? (minusThree.chars ++ quartered.first.toList) = some minusThree := by
    decide +kernel
  have hcomplete : twice.EndsComplete .expression := by
    intro is his
    cases his with
    | more hls h =>
      cases h with
      | last hls' =>
        obtain rfl := Spells.nil_iff.1 hls'
        exact ⟨.operand (.var ⟨0⟩), by simp, rfl⟩
  have hopen : (ofText "" : Template (Operand String Rat)).EndsOpen .expression := by
    intro is his
    cases his with
    | last hls =>
      obtain rfl := Spells.nil_iff.1 hls
      simp
  have hblank : ∀ c ∈ [' '], isBlank c := List.forall_mem_singleton.2 rfl
  have hstart : ((ofText "" : Template (Operand String Rat)).tokens (fun _ => "x")
      .expression).outcome = .ok () := rfl
  exact ⟨(evaluate_spaced hread rfl hblank).1 hcomplete,
    ((evaluate_spaced hread rfl hblank).2.2 .expression hstart).2 hopen⟩

end Template

end Milp
