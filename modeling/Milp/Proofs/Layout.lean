import Milp.Proofs.Covering
import Milp.Proofs.Mirroring

/-!
# Blanks around lexemes

Blanks can be put in and taken out at both ends of a segment and between its lexemes. So long as no
two lexemes run together, the same lexemes are scanned, and their columns move by the blanks in
front of them: `Template.tokens_respaced`. A scan that fails does so at the same character.
-/

namespace Milp

open Text

variable {τ τ' ε ε' φ φ' ρ ρ' σ σ' : Type} {mode : Mode} {cs ds : List Char}

/-! ### Texts with other blanks -/

/-- **The texts differ in nothing but blanks around their lexemes.** Each lexeme is the longest one
at its place in both of them, so that it does not run together with what is behind it. What is
behind a character that starts no lexeme is not looked at. -/
inductive Respaced (mode : Mode) : List Char → List Char → Prop
  | nil : Respaced mode [] []
  | inserted {w : Char} {cs ds : List Char} :
      isBlank w → Respaced mode cs ds → Respaced mode cs (w :: ds)
  | deleted {w : Char} {cs ds : List Char} :
      isBlank w → Respaced mode cs ds → Respaced mode (w :: cs) ds
  | lexeme {l : Lexeme} {cs ds : List Char} :
      l.Starts mode (l.chars ++ cs) → l.Starts mode (l.chars ++ ds) →
      Respaced mode cs ds → Respaced mode (l.chars ++ cs) (l.chars ++ ds)
  | stuck {cs ds : List Char} : Stuck mode cs 0 → Stuck mode ds 0 → firstOf cs = firstOf ds →
      Respaced mode cs ds

/-- The templates have the same operands, and their segments differ in nothing but blanks around
their lexemes. -/
structure Template.Respaced {ω : Type} (mode : Mode) (t t' : Template ω) : Prop where
  first : Milp.Respaced mode t.first.toList t'.first.toList
  rest : List.Forall₂ (fun p p' => p.1 = p'.1 ∧ Milp.Respaced mode p.2.toList p'.2.toList)
    t.rest t'.rest

/-- The text in front of `cs` falls into blanks and lexemes, which are the longest ones also with
`cs` behind them. -/
inductive Boundary (mode : Mode) (cs : List Char) : List Char → Prop
  | nil : Boundary mode cs []
  | blank {w : Char} {xs : List Char} :
      isBlank w → Boundary mode cs xs → Boundary mode cs (w :: xs)
  | lexeme {l : Lexeme} {xs : List Char} :
      l.Starts mode (l.chars ++ (xs ++ cs)) → Boundary mode cs xs → Boundary mode cs (l.chars ++ xs)

namespace Lexeme

variable {l : Lexeme}

/-- A blank that is put in behind a lexeme does not change it. -/
theorem Starts.insert {xs : List Char} {w : Char} (h : l.Starts mode (xs ++ cs))
    (hl : l.chars <+: xs) (hw : isBlank w = true) : l.Starts mode (xs ++ w :: cs) where
  valid := h.valid
  stands := hl.trans (List.prefix_append _ _)
  longest l' hl' hstands := by
    have hxs : xs ++ [w] <+: xs ++ w :: cs := by simp
    rcases List.prefix_or_prefix_of_prefix hstands hxs with hle | hle
    · rcases List.prefix_concat_iff.1 hle with heq | hle
      · exact absurd (heq ▸ List.mem_append_right xs List.mem_cons_self) (hl'.notMem_chars hw)
      · exact h.longest l' hl' (hle.trans (List.prefix_append _ _))
    · exact absurd (hle.subset (List.mem_append_right xs List.mem_cons_self))
        (hl'.notMem_chars hw)

end Lexeme

namespace Respaced

/-- **Texts that are spelled in the same lexemes** differ in nothing but blanks. -/
theorem of_spells {ls : List Lexeme} (h : Spells mode cs ls) (h' : Spells mode ds ls) :
    Respaced mode cs ds := by
  induction h generalizing ds with
  | nil =>
    generalize hls : ([] : List Lexeme) = ls at h'
    induction h' with
    | nil => exact .nil
    | blank hw _ ih => exact .inserted hw (ih hls)
    | lexeme => cases hls
  | blank hw _ ih => exact .deleted hw (ih h')
  | @lexeme l cs ls hl _ ih =>
    generalize hls : l :: ls = ls' at h'
    induction h' with
    | nil => cases hls
    | blank hw _ ih' => exact .inserted hw (ih' hls)
    | lexeme hl' h' =>
      obtain ⟨rfl, rfl⟩ := List.cons.inj hls
      exact .lexeme hl hl' (ih h')

/-- The lexeme at the start of both texts as it is read. -/
theorem of_read {l : Lexeme} (h : Lexeme.read? mode (l.chars ++ cs) = some l)
    (h' : Lexeme.read? mode (l.chars ++ ds) = some l) (hrest : Respaced mode cs ds) :
    Respaced mode (l.chars ++ cs) (l.chars ++ ds) :=
  .lexeme (Lexeme.read?_eq_some_iff.1 h) (Lexeme.read?_eq_some_iff.1 h') hrest

theorem symm (h : Respaced mode cs ds) : Respaced mode ds cs := by
  induction h with
  | nil => exact .nil
  | inserted hw _ ih => exact .deleted hw ih
  | deleted hw _ ih => exact .inserted hw ih
  | lexeme hl hl' _ ih => exact .lexeme hl' hl ih
  | stuck hc hd hfirst => exact .stuck hd hc hfirst.symm

/-- A text without other blanks, whether it can be read or not. -/
theorem refl (cs : List Char) : Respaced mode cs cs := by
  induction hn : cs.length using Nat.strong_induction_on generalizing cs with
  | _ n ih =>
    cases cs with
    | nil => exact .nil
    | cons c rest =>
      cases hblank : isBlank c with
      | true => exact .deleted hblank (.inserted hblank (ih _ (by simp [← hn]) rest rfl))
      | false =>
        cases hread : Lexeme.read? mode (c :: rest) with
        | none =>
          have hstuck : Stuck mode (c :: rest) 0 := stuck_iff.2 ⟨⟨c, rfl, hblank⟩, hread⟩
          exact .stuck hstuck hstuck rfl
        | some l =>
          have hl := Lexeme.read?_eq_some_iff.1 hread
          obtain ⟨after, hafter⟩ := hl.stands
          have hpos := hl.valid.length_pos
          have hlen := congrArg List.length hafter
          rw [List.length_append] at hlen
          rw [← hafter] at hl ⊢
          exact .lexeme hl hl (ih _ (by omega) after rfl)

/-- **A blank can be put in** behind lexemes and blanks, and taken out where they stay the same
without it. -/
theorem insert {xs : List Char} (h : Boundary mode cs xs) {w : Char} (hw : isBlank w = true) :
    Respaced mode (xs ++ cs) (xs ++ w :: cs) := by
  induction h with
  | nil => exact .inserted hw (refl cs)
  | blank hw' _ ih => exact .deleted hw' (.inserted hw' ih)
  | @lexeme l xs hl _ ih =>
    have hl' : l.Starts mode (l.chars ++ (xs ++ w :: cs)) := by
      rw [← List.append_assoc] at hl ⊢
      exact hl.insert (List.prefix_append _ _) hw
    rw [List.append_assoc, List.append_assoc]
    exact .lexeme hl hl' ih

end Respaced

/-! ### Feeds that are alike -/

/-- **Both feeds hand out as many items**, one by one such as `T` relates, and end alike. -/
inductive Feed.Alike (T : τ → τ' → Prop) (E : ε → ε' → Prop) (R : ρ → ρ' → Prop) :
    Feed τ ε ρ → Feed τ' ε' ρ' → Prop
  | done {r : ρ} {r' : ρ'} : R r r' → Alike T E R (.done r) (.done r')
  | fail {e : ε} {e' : ε'} : E e e' → Alike T E R (.fail e) (.fail e')
  | next {x : τ} {x' : τ'} {a : Feed τ ε ρ} {a' : Feed τ' ε' ρ'} :
      T x x' → Alike T E R a a' → Alike T E R (.next x a) (.next x' a')

namespace Feed.Alike

variable {T : τ → τ' → Prop} {E : ε → ε' → Prop} {R : ρ → ρ' → Prop} {a : Feed τ ε ρ}
  {a' : Feed τ' ε' ρ'}

theorem andThen {S : σ → σ' → Prop} {f : ρ → Feed τ ε σ} {f' : ρ' → Feed τ' ε' σ'}
    (h : Alike T E R a a') (hf : ∀ r r', R r r' → Alike T E S (f r) (f' r')) :
    Alike T E S (a.andThen f) (a'.andThen f') := by
  induction h with
  | done hr => exact hf _ _ hr
  | fail he => exact .fail he
  | next hx _ ih => exact .next hx ih

theorem mapError {F : φ → φ' → Prop} {m : ε → φ} {m' : ε' → φ'} (h : Alike T E R a a')
    (hm : ∀ e e', E e e' → F (m e) (m' e')) : Alike T F R (a.mapError m) (a'.mapError m') := by
  induction h with
  | done hr => exact .done hr
  | fail he => exact .fail (hm _ _ he)
  | next hx _ ih => exact .next hx ih

theorem ofList {xs : List τ} {xs' : List τ'} (h : List.Forall₂ T xs xs') :
    Alike T E (fun _ _ => True) (.ofList xs) (.ofList xs') := by
  induction h with
  | nil => exact .done trivial
  | cons hx _ ih => exact .next hx ih

theorem mono {T' : τ → τ' → Prop} (h : Alike T E R a a') (hT : ∀ x x', T x x' → T' x x') :
    Alike T' E R a a' := by
  induction h with
  | done hr => exact .done hr
  | fail he => exact .fail he
  | next hx _ ih => exact .next (hT _ _ hx) ih

end Feed.Alike

/-! ### Columns that move -/

/-- How many blanks there are in front of a column. -/
def blanksBefore (cs : List Char) (n : Nat) : Nat := (cs.take n).countP isBlank

/-- At the column stands a character that is no blank. -/
def Solid (cs : List Char) (n : Nat) : Prop := ∃ c, cs[n]? = some c ∧ isBlank c = false

/-- **The column moves with the blanks in front of it**: by those that are put in, less those that
are taken out. -/
structure Moves (cs ds : List Char) (m n : Nat) : Prop where
  source : Solid cs m
  target : Solid ds n
  shift : n + blanksBefore cs m = m + blanksBefore ds n

/-- The columns where two texts end, one of which has blanks that the other has not. -/
def EndsMove (xs ys : List Char) : Prop :=
  ys.length + xs.countP isBlank = xs.length + ys.countP isBlank

theorem EndsMove.moves {xs ys : List Char} (h : EndsMove xs ys) (hc : Solid cs 0)
    (hd : Solid ds 0) : Moves (xs ++ cs) (ys ++ ds) xs.length ys.length := by
  have hsolid : ∀ {zs es : List Char}, Solid es 0 → Solid (zs ++ es) zs.length := by
    rintro zs es ⟨e, he, hblank⟩
    refine ⟨e, ?_, hblank⟩
    rwa [List.getElem?_append_right (Nat.le_refl _), Nat.sub_self]
  refine ⟨hsolid hc, hsolid hd, ?_⟩
  rw [blanksBefore, blanksBefore, List.take_left, List.take_left]
  exact h

theorem EndsMove.append {xs ys : List Char} (h : EndsMove xs ys) (zs : List Char) :
    EndsMove (xs ++ zs) (ys ++ zs) := by
  unfold EndsMove at h ⊢
  simp only [List.length_append, List.countP_append]
  omega

theorem EndsMove.inserted {xs ys : List Char} (h : EndsMove xs ys) {w : Char}
    (hw : isBlank w = true) : EndsMove xs (ys ++ [w]) := by
  unfold EndsMove at h ⊢
  simp only [List.length_append, List.countP_append, List.countP_singleton, hw, if_true,
    List.length_singleton]
  omega

theorem EndsMove.deleted {xs ys : List Char} (h : EndsMove xs ys) {w : Char}
    (hw : isBlank w = true) : EndsMove (xs ++ [w]) ys := by
  unfold EndsMove at h ⊢
  simp only [List.length_append, List.countP_append, List.countP_singleton, hw, if_true,
    List.length_singleton]
  omega

theorem Lexeme.Valid.solid {l : Lexeme} (hl : l.Valid mode) (cs : List Char) :
    Solid (l.chars ++ cs) 0 := by
  obtain ⟨c, xs, hchars, hblank⟩ := hl.chars_head
  exact ⟨c, by rw [hchars]; rfl, hblank⟩

/-! ### Segments -/

section Segment

variable {β : Type} {value : Numeral → β} {index : Nat}

/-- The tokens stand for the same in the segment, at columns that move. -/
inductive Token.MovesIn (index : Nat) (cs ds : List Char) : Token β → Token β → Prop
  | mk {s : Symbol β} {m n : Nat} : Moves cs ds m n →
      MovesIn index cs ds ⟨s, some index, some m⟩ ⟨s, some index, some n⟩

theorem Lexeme.movesIn_tokens {l : Lexeme} {complete : Bool} {m n : Nat} (h : Moves cs ds m n) :
    List.Forall₂ (Token.MovesIn index cs ds) (l.tokens value ⟨some index, some m⟩ complete)
      (l.tokens value ⟨some index, some n⟩ complete) := by
  have htoken : ∀ s : Symbol β, Token.MovesIn index cs ds ⟨s, some index, some m⟩
      ⟨s, some index, some n⟩ := fun _ => Token.MovesIn.mk h
  cases l with
  | numeral k =>
    simp only [tokens]
    split
    · exact .cons (htoken _) (.cons (htoken _) .nil)
    · exact .cons (htoken _) .nil
  | _ => exact .cons (htoken _) .nil

theorem scanSegment_stuck (h : Stuck mode cs 0) (complete : Bool) (column : Nat) :
    scanSegment mode value index 0 complete column cs = .fail (firstOf cs, column) := by
  obtain ⟨⟨c, hc, hblank⟩, hread⟩ := stuck_iff.1 h
  cases cs with
  | nil => cases hc
  | cons d rest =>
    obtain rfl : d = c := Option.some.inj hc
    rw [List.drop_zero] at hread
    rw [scanSegment, if_neg (by simp [hblank]), hread]

/-- **Texts with other blanks are scanned alike**, behind texts of which the same is true. -/
theorem Respaced.scanSegment (h : Respaced mode cs ds) {xs ys : List Char} (hxy : EndsMove xs ys)
    (complete : Bool) :
    Feed.Alike (Token.MovesIn index (xs ++ cs) (ys ++ ds))
      (fun e e' => e.1 = e'.1 ∧ Moves (xs ++ cs) (ys ++ ds) e.2 e'.2) Eq
      (Milp.scanSegment mode value index 0 complete xs.length cs)
      (Milp.scanSegment mode value index 0 complete ys.length ds) := by
  induction h generalizing xs ys complete with
  | nil => exact .done rfl
  | inserted hw _ ih =>
    have h := ih (hxy.inserted hw) complete
    rw [List.length_append, List.length_singleton, List.append_assoc] at h
    rwa [scanSegment_blank hw]
  | deleted hw _ ih =>
    have h := ih (hxy.deleted hw) complete
    rw [List.length_append, List.length_singleton, List.append_assoc] at h
    rwa [scanSegment_blank hw]
  | @lexeme l cs ds hl hl' _ ih =>
    have hmoves := hxy.moves (hl.valid.solid cs) (hl.valid.solid ds)
    have h := ih (hxy.append l.chars) l.completes
    rw [List.length_append, List.length_append, List.append_assoc, List.append_assoc] at h
    rw [scanSegment_lexeme hl, scanSegment_lexeme hl']
    exact (Feed.Alike.ofList (l.movesIn_tokens hmoves)).andThen fun _ _ _ => h
  | stuck hc hd hfirst =>
    rw [scanSegment_stuck hc, scanSegment_stuck hd]
    exact .fail ⟨hfirst, hxy.moves hc.1 hd.1⟩

end Segment

/-! ### Templates -/

section Templates

variable {β κ ω : Type} {value : Numeral → β} {segments segments' : List String}

/-- The token stands for the same: an operand after the same segment, anything else in the same
segment at a column that moves. -/
inductive Token.Moves (segments segments' : List String) : Token β → Token β → Prop
  | operand {s : Symbol β} {index : Nat} :
      Moves segments segments' ⟨s, some index, none⟩ ⟨s, some index, none⟩
  | lexeme {s : Symbol β} {index m n : Nat} {segment segment' : String} :
      segments[index]? = some segment → segments'[index]? = some segment' →
      Milp.Moves segment.toList segment'.toList m n →
      Moves segments segments' ⟨s, some index, some m⟩ ⟨s, some index, some n⟩

/-- The error is the same: of an operand, or of the same character in the same segment at an index
that moves. -/
inductive ScanError.Moves (segments segments' : List String) : ScanError κ → ScanError κ → Prop
  | operand {e : κ} : Moves segments segments' (.operand e) (.operand e)
  | lexical {char segment segment' source source' : String} {index m n : Nat} :
      segments[index]? = some segment → segments'[index]? = some segment' →
      Milp.Moves segment.toList segment'.toList m n →
      Moves segments segments' (.lexical ⟨char, m, segment, source⟩)
        (.lexical ⟨char, n, segment', source'⟩)

/-- Both sources can be written, or neither can for the same reason. -/
def SourcesAlike (source source' : Except κ String) : Prop :=
  Except.Alike Eq (fun _ _ => True) source source'

/-- The segment at the index in both lists, scanned with errors that name it. -/
theorem Respaced.scanSegment_at {segment segment' : String} {index : Nat}
    (h : Respaced mode segment.toList segment'.toList) (hat : segments[index]? = some segment)
    (hat' : segments'[index]? = some segment') {source source' : Except κ String}
    (hsource : SourcesAlike source source') (complete : Bool) :
    Feed.Alike (Token.Moves segments segments') (ScanError.Moves segments segments') Eq
      ((Milp.scanSegment mode value index 0 complete 0 segment.toList).mapError
        (.ofChar source segment))
      ((Milp.scanSegment mode value index 0 complete 0 segment'.toList).mapError
        (.ofChar source' segment')) := by
  have hstart : EndsMove [] [] := rfl
  refine ((h.scanSegment hstart complete).mono ?_).mapError ?_
  · rintro _ _ ⟨hmoves⟩
    exact .lexeme hat hat' hmoves
  · rintro ⟨char, m⟩ ⟨_, n⟩ ⟨rfl, hmoves⟩
    cases hsource with
    | ok _ => exact .lexical hat hat' hmoves
    | error he =>
      obtain rfl := he
      exact .operand

theorem scanFrom_respaced {read : ω → Except κ (Symbol β)} {source source' : Except κ String}
    (hsource : SourcesAlike source source') {rest rest' : List (ω × String)}
    (hrest : List.Forall₂ (fun p p' => p.1 = p'.1 ∧ Respaced mode p.2.toList p'.2.toList)
      rest rest') {first first' : String} (hfirst : Respaced mode first.toList first'.toList)
    {index : Nat} (hat : segments.drop index = first :: rest.map Prod.snd)
    (hat' : segments'.drop index = first' :: rest'.map Prod.snd) (complete : Bool) :
    Feed.Alike (Token.Moves segments segments') (ScanError.Moves segments segments') Eq
      (scanFrom mode value read source index complete first rest)
      (scanFrom mode value read source' index complete first' rest') := by
  induction hrest generalizing first first' index complete with
  | nil =>
    obtain ⟨hget, -⟩ := getElem?_of_drop hat
    obtain ⟨hget', -⟩ := getElem?_of_drop hat'
    exact (hfirst.scanSegment_at hget hget' hsource complete).andThen fun _ _ _ => .done rfl
  | @cons p p' rest rest' hp _ ih =>
    obtain ⟨o, next⟩ := p
    obtain ⟨_, next'⟩ := p'
    obtain ⟨rfl, hnext⟩ := hp
    obtain ⟨hget, hdrop⟩ := getElem?_of_drop hat
    obtain ⟨hget', hdrop'⟩ := getElem?_of_drop hat'
    refine (hfirst.scanSegment_at hget hget' hsource complete).andThen fun _ _ _ => ?_
    cases read o with
    | error e => exact .fail .operand
    | ok symbol => exact .next .operand (ih hnext hdrop hdrop' true)

end Templates

/-! ### Templates in writing -/

section Written

variable {ω : Type} {write : ω → Except NameError Piece} {t t' : Template ω}

/-- Text in the place of text, and anything else unchanged. -/
inductive Piece.Similar : Piece → Piece → Prop
  | text {cs ds : List Char} : Similar (.text cs) (.text ds)
  | bare {kind written : String} : Similar (.bare kind written) (.bare kind written)

theorem Piece.Similar.refl (p : Piece) : p.Similar p := by
  cases p with
  | text cs => exact .text
  | bare kind written => exact .bare

theorem Piece.join_similar {ps ps' : List Piece} (h : List.Forall₂ Piece.Similar ps ps')
    (index : Nat) : Except.Alike Eq (fun _ _ => True) (join index ps) (join index ps') := by
  induction h generalizing index with
  | nil => exact .ok trivial
  | cons hp _ ih =>
    cases hp with
    | bare => exact .error rfl
    | text => exact (ih (index + 1)).bind fun _ _ _ => .ok trivial

/-- The operands in writing, each with the segment after it, of templates that differ in those. -/
theorem mapM_pieces_similar {rest rest' : List (ω × String)}
    (h : List.Forall₂ (fun p p' => p.1 = p'.1) rest rest') :
    Except.Alike Eq (List.Forall₂ (List.Forall₂ Piece.Similar))
      (rest.mapM fun p => do return [← write p.1, .text p.2.toList])
      (rest'.mapM fun p => do return [← write p.1, .text p.2.toList]) := by
  induction h with
  | nil => exact .ok .nil
  | @cons p p' rest rest' hp _ ih =>
    simp only [List.mapM_cons]
    refine Except.Alike.bind (A := List.Forall₂ Piece.Similar) ?_ fun _ _ hpiece =>
      ih.bind fun _ _ hpieces => .ok (.cons hpiece hpieces)
    rw [hp]
    cases write p'.1 with
    | error e => exact .error rfl
    | ok piece => exact .ok (.cons (.refl piece) (.cons .text .nil))

/-- **Whether a template can be written** does not depend on its segments. -/
theorem Template.Respaced.substituted (h : t.Respaced mode t') :
    Except.Alike Eq (fun _ _ => True) (t.substituted write) (t'.substituted write) := by
  refine (mapM_pieces_similar (h.rest.imp fun _ _ hp => hp.1)).bind fun ps ps' hps => ?_
  have hpieces : List.Forall₂ Piece.Similar (.text t.first.toList :: ps.flatten)
      (.text t'.first.toList :: ps'.flatten) := .cons .text (List.rel_flatten hps)
  rcases (Piece.join_similar hpieces 0).ok_or_error with ⟨cs, cs', h, h', -⟩ | ⟨e, e', h, h', he⟩
  · rw [h, h']
    exact .ok trivial
  · rw [h, h']
    exact .error he

end Written

/-- **Blanks around lexemes do not matter.** The same tokens come in the same order, with the blanks
in front of them in their columns, and then both scans end or both fail, at the same character or
with the same operand. -/
theorem Template.tokens_respaced {ν α : Type} [Name ν] [Scalar α] (name : Var → ν) {mode : Mode}
    {t t' : Template (Operand ν α)} (h : t.Respaced mode t') :
    Feed.Alike (Token.Moves t.segments t'.segments) (ScanError.Moves t.segments t'.segments) Eq
      (t.tokens name mode) (t'.tokens name mode) := by
  have hsource : SourcesAlike ((t.substituted (Operand.inSource name)).mapError AlgebraError.name)
      ((t'.substituted (Operand.inSource name)).mapError AlgebraError.name) :=
    h.substituted.mapError fun _ _ he => congrArg AlgebraError.name he
  exact scanFrom_respaced hsource h.rest h.first rfl rfl false

/-- `2* {} -1 $`, with a variable at the placeholder and a character at the end that starts no
lexeme. -/
def strayAtEnd : Template (Operand String Rat) := ⟨"2* ", [(.var ⟨0⟩, " -1 $")]⟩

/-- The same with a no-break space in front, an em space behind the numeral and no blank around the
operand. -/
def strayRespaced : Template (Operand String Rat) :=
  ⟨"\u00a02 *", [(.var ⟨0⟩, "-1\u2003$")]⟩

theorem strayAtEnd_respaced : strayAtEnd.Respaced .expression strayRespaced where
  first := by
    have htimes : Respaced .expression ['*', ' '] [' ', '*'] :=
      .inserted (by decide) (.of_read (l := .operator '*') (by decide) (by decide)
        (.deleted (by decide) .nil))
    exact .inserted (by decide)
      (.of_read (l := .numeral ⟨none, ['2'], []⟩) (by decide) (by decide) htimes)
  rest := by
    have hstray : Respaced .expression [' ', '$'] ['\u2003', '$'] :=
      .deleted (by decide) (.inserted (by decide) (.refl ['$']))
    exact .cons ⟨rfl, .deleted (by decide)
      (.of_read (l := .numeral ⟨some '-', ['1'], []⟩) (by decide) (by decide) hstray)⟩ .nil

/-- The stray character is at index 4 of its segment, and without the blank in front at index 3. -/
theorem tokens_strayAtEnd : strayAtEnd.Respaced .expression strayRespaced ∧
    Feed.Alike (Token.Moves strayAtEnd.segments strayRespaced.segments)
      (ScanError.Moves strayAtEnd.segments strayRespaced.segments) Eq
      (strayAtEnd.tokens (fun _ => "x") .expression)
      (strayRespaced.tokens (fun _ => "x") .expression) :=
  ⟨strayAtEnd_respaced, Template.tokens_respaced _ strayAtEnd_respaced⟩

end Milp
