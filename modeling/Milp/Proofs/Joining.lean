import Milp.Proofs.Scanning
import Milp.Proofs.Splicing

/-!
# Templates that begin alike

Over a seam that no lexeme reaches over, a scan goes on as it does at the end of a text. So two
templates that begin alike are scanned as the same symbols up to where they part:
`Template.along_scan`. If the scan fails before that, it fails in both of them.
-/

namespace Milp

variable {β ε ε' ρ ρ' σ σ' ω κ : Type} {mode : Mode}

/-! ### Feeds that go along with each other -/

namespace Feed

/-- **The feeds go along with each other**: they hand out the same symbols until `B` holds of what
is left of them, or until both fail, with errors that `E` relates. -/
inductive Along (E : ε → ε' → Prop) (B : Feed (Token β) ε ρ → Feed (Token β) ε' ρ' → Prop) :
    Feed (Token β) ε ρ → Feed (Token β) ε' ρ' → Prop
  | here {f f'} : B f f' → Along E B f f'
  | fail {e e'} : E e e' → Along E B (.fail e) (.fail e')
  | next {k k' f f'} : k.symbol = k'.symbol → Along E B f f' →
      Along E B (.next k f) (.next k' f')

/-- Both feeds are at their ends. -/
def Ended (f : Feed (Token β) ε Unit) (f' : Feed (Token β) ε' Unit) : Prop :=
  f = .done () ∧ f' = .done ()

namespace Along

variable {E : ε → ε' → Prop} {B : Feed (Token β) ε ρ → Feed (Token β) ε' ρ' → Prop}
  {f : Feed (Token β) ε ρ} {f' : Feed (Token β) ε' ρ'}

theorem followedBy {ts ts' : List (Token β)} (hts : ts.map Token.symbol = ts'.map Token.symbol)
    (h : Along E B f f') : Along E B ((ofList ts).followedBy f) ((ofList ts').followedBy f') := by
  induction ts generalizing ts' with
  | nil =>
    obtain rfl := List.map_eq_nil_iff.1 hts.symm
    exact h
  | cons t ts ih =>
    obtain ⟨t', ts', rfl, ht, hts'⟩ := List.map_eq_cons_iff.1 hts.symm
    exact .next ht.symm (ih hts'.symm)

/-- Where the second feed ends the first one goes on. -/
theorem items_append {w : List (Symbol β)} (h : Along E B f f') {r : ρ'}
    (ho : f'.outcome = .ok r)
    (hB : ∀ f f', B f f' → f'.items = [] ∧ w <+: f.items.map Token.symbol) :
    f'.items.map Token.symbol ++ w <+: f.items.map Token.symbol := by
  induction h with
  | here h =>
    obtain ⟨hnil, hw⟩ := hB _ _ h
    rw [hnil]
    exact hw
  | fail _ => cases ho
  | next hk _ ih =>
    rw [items, items, List.map_cons, List.map_cons, List.cons_append, hk]
    exact List.prefix_cons_inj _ |>.2 (ih ho)

end Along

end Feed

open Feed (Along Ended)

/-! ### Segments -/

namespace Lexeme

theorem apart_nil (cs : List Char) : Apart mode cs [] :=
  fun _ _ _ _ _ hvs _ => .inr (List.prefix_nil.1 hvs)

/-- What stands apart from the end of a text does not change what the text starts with. -/
theorem read?_append {c : Char} {cs ds : List Char} (hseam : Apart mode (c :: cs) ds) :
    read? mode (c :: cs ++ ds) = read? mode (c :: cs) := by
  cases h : read? mode (c :: cs) with
  | some l => exact read?_eq_some_iff.2 ((read?_eq_some_iff.1 h).append hseam)
  | none =>
    cases h' : read? mode (c :: cs ++ ds) with
    | none => rfl
    | some l =>
      have hl := read?_eq_some_iff.1 h'
      have hpre : l.chars <+: c :: cs := by
        obtain hle | ⟨vs, hvs⟩ :=
          List.prefix_or_prefix_of_prefix hl.stands (List.prefix_append _ ds)
        · exact hle
        · -- A lexeme that reaches the seam ends there.
          have hstands := hl.stands
          rw [← hvs, List.prefix_append_right_inj] at hstands
          obtain hnil | rfl := hseam l hl.valid _ vs List.suffix_rfl hstands hvs.symm
          · exact absurd hnil (List.cons_ne_nil _ _)
          · have hchars : l.chars = c :: cs := hvs.symm.trans (List.append_nil _)
            exact hchars ▸ List.prefix_rfl
      rw [read?_eq_some_iff.2 (hl.of_append hpre)] at h
      cases h

/-- The symbols of a lexeme do not depend on its place. -/
theorem map_symbol_tokens (l : Lexeme) (value : Numeral → β) (place place' : Place)
    (complete : Bool) : (l.tokens value place complete).map Token.symbol =
      (l.tokens value place' complete).map Token.symbol := by
  cases l with
  | numeral n =>
    simp only [tokens]
    split <;> rfl
  | _ => rfl

end Lexeme

open Lexeme

/-! ### Templates -/

section Template

variable (mode) (value : Numeral → β) (read : ω → Except κ (Symbol β)) (source : Except κ String)

/-- The tokens of the operands and segments after a segment. -/
def scanRest (index : Nat) : List (ω × String) → Feed (Token β) (ScanError κ) Unit
  | [] => .done ()
  | (o, next) :: rest =>
    match read o with
    | .error e => .fail (.operand e)
    | .ok symbol =>
      .next ⟨symbol, ⟨some index, none⟩⟩
        (scanFrom mode value read source (index + 1) true next rest)

/-- The tokens of what is left of a segment from a column on, and of what comes after it. -/
def scanAt (index : Nat) (complete : Bool) (column : Nat) (segment : String) (cs : List Char)
    (rest : List (ω × String)) : Feed (Token β) (ScanError κ) Unit :=
  ((scanSegment mode value index 0 complete column cs).mapError (.ofChar source segment)).andThen
    fun _ => scanRest mode value read source index rest

variable {mode value read source}

theorem scanFrom_eq (index : Nat) (complete : Bool) (segment : String)
    (rest : List (ω × String)) : scanFrom mode value read source index complete segment rest =
      scanAt mode value read source index complete 0 segment segment.toList rest := by
  cases rest <;> rfl

section At

variable {index column : Nat} {complete : Bool} {segment : String} {cs : List Char}
  {rest : List (ω × String)}

theorem scanAt_blank {c : Char} (h : Text.isBlank c) :
    scanAt mode value read source index complete column segment (c :: cs) rest =
      scanAt mode value read source index complete (column + 1) segment cs rest := by
  rw [scanAt, scanSegment_blank h]
  rfl

theorem scanAt_blanks {ws : List Char} (hws : ∀ c ∈ ws, Text.isBlank c) :
    ∃ column', scanAt mode value read source index complete column segment (ws ++ cs) rest =
      scanAt mode value read source index complete column' segment cs rest := by
  induction ws generalizing column with
  | nil => exact ⟨column, rfl⟩
  | cons w ws ih =>
    rw [List.forall_mem_cons] at hws
    rw [List.cons_append, scanAt_blank hws.1]
    exact ih hws.2

theorem scanAt_lexeme {l : Lexeme} (h : l.Starts mode (l.chars ++ cs)) :
    scanAt mode value read source index complete column segment (l.chars ++ cs) rest =
      (Feed.ofList (l.tokens value ⟨some index, some column⟩ complete)).followedBy
        (scanAt mode value read source index l.completes (column + l.chars.length) segment cs
          rest) := by
  rw [scanAt, scanSegment_lexeme h]
  generalize l.tokens value ⟨some index, some column⟩ complete = ts
  induction ts with
  | nil => rfl
  | cons t ts ih => exact congrArg (Feed.next t) ih

/-- Where no lexeme starts the scan fails. -/
theorem scanAt_stuck {c : Char} (hc : ¬ Text.isBlank c) (h : read? mode (c :: cs) = none) :
    scanAt mode value read source index complete column segment (c :: cs) rest =
      .fail (.ofChar source segment (Text.firstOf (c :: cs), column)) := by
  rw [scanAt, scanSegment, if_neg hc, h]
  rfl

end At

variable {source' : Except κ String} {E : ScanError κ → ScanError κ → Prop}
  {B : Feed (Token β) (ScanError κ) Unit → Feed (Token β) (ScanError κ) Unit → Prop}

section Along

variable (hchar : ∀ segment segment' e e',
    E (.ofChar source segment e) (.ofChar source' segment' e'))

include hchar

/-- **Segments that begin alike** are scanned alike up to where they part. -/
theorem along_scanAt_append {cs ds ds' : List Char} (hseam : Apart mode cs ds)
    (hseam' : Apart mode cs ds') {rest rest' : List (ω × String)} {index : Nat}
    {segment segment' : String} {complete : Bool}
    (hB : ∀ ls, Spells mode cs ls → ∀ column column',
      Along E B
        (scanAt mode value read source index
          (completeAfter complete (ls.map .lexeme : List (SourceItem ω))) column segment ds rest)
        (scanAt mode value read source' index
          (completeAfter complete (ls.map .lexeme : List (SourceItem ω))) column' segment' ds'
          rest'))
    (column column' : Nat) :
    Along E B (scanAt mode value read source index complete column segment (cs ++ ds) rest)
      (scanAt mode value read source' index complete column' segment' (cs ++ ds') rest') := by
  match cs with
  | [] => exact hB [] .nil column column'
  | c :: cs =>
    by_cases hc : Text.isBlank c
    · rw [List.cons_append, List.cons_append, scanAt_blank hc, scanAt_blank hc]
      exact along_scanAt_append (hseam.of_suffix (List.suffix_cons _ _))
        (hseam'.of_suffix (List.suffix_cons _ _)) (fun ls hls => hB ls (.blank hc hls)) _ _
    · cases hl : read? mode (c :: cs) with
      | none =>
        have hread := (read?_append hseam).trans hl
        have hread' := (read?_append hseam').trans hl
        rw [List.cons_append] at hread hread' ⊢
        rw [List.cons_append, scanAt_stuck hc hread, scanAt_stuck hc hread']
        exact .fail (hchar ..)
      | some l =>
        have hs := read?_eq_some_iff.1 hl
        obtain ⟨text, htext⟩ := hs.stands
        have hpos := hs.valid.length_pos
        have hlt : text.length < (c :: cs).length := by
          rw [← htext, List.length_append]
          omega
        have hds := hs.append hseam
        have hds' := hs.append hseam'
        rw [← htext] at hseam hseam' hs hB hds hds' ⊢
        rw [List.append_assoc] at hds hds' ⊢
        rw [List.append_assoc, scanAt_lexeme hds, scanAt_lexeme hds']
        refine .followedBy (l.map_symbol_tokens ..) ?_
        exact along_scanAt_append (hseam.of_suffix (List.suffix_append _ _))
          (hseam'.of_suffix (List.suffix_append _ _)) (fun ls hls => hB (l :: ls) (.lexeme hs hls))
          _ _
termination_by cs.length
decreasing_by
  · exact Nat.lt_succ_self _
  · exact hlt

/-- The same text, and then what goes along with each other. -/
theorem along_scanAt {cs : List Char} {rest rest' : List (ω × String)} {index : Nat}
    (hrest : (∃ ls, Spells mode cs ls) → Along E B (scanRest mode value read source index rest)
      (scanRest mode value read source' index rest'))
    (complete : Bool) (column column' : Nat) (segment segment' : String) :
    Along E B (scanAt mode value read source index complete column segment cs rest)
      (scanAt mode value read source' index complete column' segment' cs rest') := by
  rw [← List.append_nil cs]
  exact along_scanAt_append hchar (apart_nil cs) (apart_nil cs)
    (fun ls hls _ _ => hrest ⟨ls, hls⟩) column column'

variable (hoperand : ∀ e, E (.operand e) (.operand e))

include hoperand

/-- Only the errors can differ if the source is written differently. -/
theorem along_scanRest (index : Nat) (rest : List (ω × String)) :
    Along E Ended (scanRest mode value read source index rest)
      (scanRest mode value read source' index rest) := by
  induction rest generalizing index with
  | nil => exact .here ⟨rfl, rfl⟩
  | cons p rest ih =>
    obtain ⟨o, next⟩ := p
    rw [scanRest, scanRest]
    cases read o with
    | error e => exact .fail (hoperand e)
    | ok symbol =>
      refine .next rfl ?_
      rw [scanFrom_eq, scanFrom_eq]
      exact along_scanAt hchar (fun _ => ih (index + 1)) ..

/-- The same text and operands, from wherever they stand to their end. -/
theorem along_scanAt_ended (index : Nat) (complete : Bool) (column column' : Nat)
    (segment segment' : String) (cs : List Char) (rest : List (ω × String)) :
    Along E Ended (scanAt mode value read source index complete column segment cs rest)
      (scanAt mode value read source' index complete column' segment' cs rest) :=
  along_scanAt hchar (fun _ => along_scanRest hchar hoperand index rest) ..

theorem along_scanFrom {v v' : Template ω} {segment : String} {rest : List (ω × String)}
    (hseam : Apart mode (Template.mk segment rest).last.toList v.first.toList)
    (hseam' : Apart mode (Template.mk segment rest).last.toList v'.first.toList) {complete : Bool}
    (hB : ∀ is, SpellsFrom mode segment rest is → ∀ index column column' segment segment',
      Along E B
        (scanAt mode value read source index (completeAfter complete is) column segment
          v.first.toList v.rest)
        (scanAt mode value read source' index (completeAfter complete is) column' segment'
          v'.first.toList v'.rest))
    (index : Nat) :
    Along E B
      (scanFrom mode value read source index complete (Template.extend segment v rest).first
        (Template.extend segment v rest).rest)
      (scanFrom mode value read source' index complete (Template.extend segment v' rest).first
        (Template.extend segment v' rest).rest) := by
  induction rest generalizing segment complete index with
  | nil =>
    rw [scanFrom_eq, scanFrom_eq]
    have hfirst : ∀ u : Template ω, (Template.extend segment u []).first.toList =
        segment.toList ++ u.first.toList := fun u => String.toList_append
    rw [hfirst, hfirst]
    exact along_scanAt_append hchar hseam hseam'
      (fun ls hls column column' => hB _ (.last hls) index column column' _ _) 0 0
  | cons p rest ih =>
    obtain ⟨o, next⟩ := p
    rw [scanFrom_eq, scanFrom_eq]
    refine along_scanAt hchar (fun ⟨ls, hls⟩ => ?_) ..
    show Along E B (scanRest mode value read source index ((o, _) :: _))
      (scanRest mode value read source' index ((o, _) :: _))
    rw [scanRest, scanRest]
    cases read o with
    | error e => exact .fail (hoperand e)
    | ok symbol =>
      refine .next rfl (ih hseam hseam' (fun is his => ?_) (index + 1))
      have h := hB _ (.more hls his)
      rw [completeAfter, List.foldl_append, List.foldl_cons] at h
      exact h

/-- **Templates that begin alike** are scanned alike up to where they part. -/
theorem Template.along_scan {s v v' : Template ω}
    (hseam : Apart mode s.last.toList v.first.toList)
    (hseam' : Apart mode s.last.toList v'.first.toList)
    (hB : ∀ is, s.Spells mode is → ∀ index column column' segment segment',
      Along E B
        (scanAt mode value read source index (completeAfter false is) column segment
          v.first.toList v.rest)
        (scanAt mode value read source' index (completeAfter false is) column' segment'
          v'.first.toList v'.rest)) :
    Along E B ((s ++ v).scan mode value read source) ((s ++ v').scan mode value read source') :=
  along_scanFrom hchar hoperand hseam hseam' hB 0

end Along

end Template

end Milp
