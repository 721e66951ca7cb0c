import Milp.Proofs.Grammar
import Milp.Proofs.Success

/-!
# Reading follows the grammar

What a reading has read at some moment is, from the outside in, the left side of a constraint with
its comparator, the unfinished levels that enclose the present one, each with its parenthesis, and
of the present level an unfinished sum, an unfinished product and perhaps a finished one.

* `Reads.step`: every step of a reading keeps this description true, so whatever comes out of a run
  is derivable;
* `IsSum.run`: the symbols of a sum take a reading to where the sum is its last operand, so whatever
  is derivable comes out.
-/

namespace Milp

open Grammar

variable {β ε : Type} {mode : Mode}

/-! ### Runs over lists -/

/-- Reads tokens one after the other. -/
def Reading.steps (mode : Mode) (r : Reading β) (ts : List (Token β)) :
    Except (GrammarError β) (Reading β) := ts.foldlM (Reading.step mode) r

namespace Reading

@[simp] theorem steps_nil (r : Reading β) : r.steps mode [] = .ok r := rfl

theorem steps_cons (r : Reading β) (t : Token β) (ts : List (Token β)) :
    r.steps mode (t :: ts) = r.step mode t >>= (·.steps mode ts) := rfl

theorem steps_append (r : Reading β) (ts us : List (Token β)) :
    r.steps mode (ts ++ us) = r.steps mode ts >>= (·.steps mode us) :=
  List.foldlM_append ..

theorem steps_append_of_ok {r r' : Reading β} {ts : List (Token β)} (us : List (Token β))
    (h : r.steps mode ts = .ok r') : r.steps mode (ts ++ us) = r'.steps mode us := by
  rw [steps_append, h]
  rfl

/-- A run succeeds when the feed does and every one of its items is taken. -/
theorem run_eq_ok_iff {feed : Feed (Token β) ε Unit} {r r' : Reading β} :
    r.run mode feed = .ok r' ↔ feed.outcome = .ok () ∧ r.steps mode feed.items = .ok r' := by
  induction feed generalizing r with
  | done u => simp [run, Feed.outcome, Feed.items]
  | fail e => simp [run, Feed.outcome]
  | next t rest ih =>
    simp only [run, Feed.outcome, Feed.items, steps_cons]
    cases hs : r.step mode t with
    | ok r₁ => simpa using ih
    | error g => cases rest <;> simp

end Reading

theorem Tree.ofFeed_eq_ok_iff {feed : Feed (Token β) ε Unit} {t : Tree β} :
    Tree.ofFeed feed = .ok t ↔ feed.outcome = .ok () ∧
      ∃ r, Reading.start.steps .expression feed.items = .ok r ∧ r.finish = .ok t := by
  simp [Tree.ofFeed, Reading.run_eq_ok_iff, and_assoc]

theorem Comparison.ofFeed_eq_ok_iff {feed : Feed (Token β) ε Unit} {c : Comparison β} :
    Comparison.ofFeed feed = .ok c ↔ feed.outcome = .ok () ∧
      ∃ r, Reading.start.steps .constraint feed.items = .ok r ∧
        r.left = some (c.left, c.comparator) ∧ r.finish = .ok c.right := by
  simp only [Comparison.ofFeed, Except.bind_eq_ok_iff, Except.mapError_eq_ok_iff,
    Reading.run_eq_ok_iff]
  constructor
  · rintro ⟨r, ⟨hf, hr⟩, u, hu, h⟩
    split at h
    · simp at h
    · next l w hl =>
      obtain rfl := Except.ok.inj h
      exact ⟨hf, r, hr, hl, hu⟩
  · rintro ⟨hf, r, hr, hl, hu⟩
    refine ⟨r, ⟨hf, hr⟩, c.right, hu, ?_⟩
    rw [hl]

/-! ### What has been read -/

namespace Grammar

/-- The symbols are a left operand with its operator, whose right operand is missing; or there are
none and nothing is pending. -/
inductive ReadsPending (Left : List (Symbol β) → Tree β → Prop) (Joins : Word β → Prop) :
    List (Symbol β) → Option (Pending β) → Prop
  | nothing : ReadsPending Left Joins [] none
  | operation {ss t op} : Left ss t → Joins op →
      ReadsPending Left Joins (ss ++ [.operator op]) (some ⟨t, op⟩)

abbrev ReadsSum : List (Symbol β) → Option (Pending β) → Prop := ReadsPending IsSum JoinsSummands

abbrev ReadsProduct : List (Symbol β) → Option (Pending β) → Prop :=
  ReadsPending IsProduct JoinsFactors

/-- The symbols are levels that wait, each up to the parenthesis that opened the next one. -/
inductive ReadsEnclosing : List (Symbol β) → List (Level β × Token β) → Prop
  | nil : ReadsEnclosing [] []
  | cons {ss us vs level rest} (w) (k : Token β) : ReadsEnclosing ss rest →
      ReadsSum us level.sum → ReadsProduct vs level.product → k.symbol = .opening w →
      ReadsEnclosing (ss ++ (us ++ vs) ++ [.opening w]) ((level, k) :: rest)

/-- The symbols are the left side of a constraint and its comparator; or there are none. -/
inductive ReadsLeft : List (Symbol β) → Option (Tree β × Word β) → Prop
  | nothing : ReadsLeft [] none
  | side {ss t c} : IsSum ss t → ReadsLeft (ss ++ [.comparator c]) (some (t, c))

/-- The symbols are the last operand of a level in which no product is pending; or there are
none. -/
inductive ReadsOperand : List (Symbol β) → Option (Pending β) → Option (Tree β) → Prop
  | due {ss p} : ReadsProduct ss p → ReadsOperand ss p none
  | complete {ss t} : IsProduct ss t → ReadsOperand ss none (some t)

theorem ReadsOperand.of_due {ss : List (Symbol β)} {p : Option (Pending β)} :
    ReadsOperand ss p none → ReadsProduct ss p
  | .due h => h

theorem ReadsOperand.of_complete {ss : List (Symbol β)} {p : Option (Pending β)} {t : Tree β} :
    ReadsOperand ss p (some t) → p = none ∧ IsProduct ss t
  | .complete h => ⟨rfl, h⟩

/-- **What a reading has read**, from the outside in. -/
inductive Reads : List (Symbol β) → Reading β → Prop
  | mk {ss us vs ws left enclosing sum product operand} : ReadsLeft ss left →
      ReadsEnclosing us enclosing → ReadsSum vs sum → ReadsOperand ws product operand →
      Reads (ss ++ (us ++ (vs ++ ws))) ⟨left, enclosing, ⟨sum, product⟩, operand⟩

theorem ReadsSum.close {ss us : List (Symbol β)} {p : Option (Pending β)} {t : Tree β}
    (h : ReadsSum ss p) (ht : IsProduct us t) : IsSum (ss ++ us) (Pending.close p t) := by
  cases h with
  | nothing => exact .product ht
  | operation hl hop => simpa [Pending.close] using IsSum.more hl hop ht

theorem ReadsProduct.close {ss us : List (Symbol β)} {p : Option (Pending β)} {t : Tree β}
    (h : ReadsProduct ss p) (ht : IsPrimary us t) :
    IsProduct (ss ++ us) (Pending.close p t) := by
  cases h with
  | nothing => exact .primary ht
  | operation hl hop => simpa [Pending.close] using IsProduct.more hl hop ht

theorem reads_start : Reads ([] : List (Symbol β)) Reading.start :=
  show Reads ([] ++ ([] ++ ([] ++ []))) _ from .mk .nothing .nil .nothing (.due .nothing)

/-- A token that is taken where an operand is due. -/
theorem Reads.first {ss : List (Symbol β)} {r r' : Reading β} {k : Token β} (h : Reads ss r)
    (hr : r.operand = none) (hs : r.first k = .ok r') : Reads (ss ++ [k.symbol]) r' := by
  obtain ⟨hl, he, hv, ho⟩ := h
  obtain rfl := hr
  have hp := ho.of_due
  unfold Reading.first at hs
  split at hs
  · next v hk =>
    obtain rfl := Except.ok.inj hs
    simpa [hk, Reading.take] using Reads.mk hl he hv (.complete (hp.close (.number v)))
  · next v hk =>
    obtain rfl := Except.ok.inj hs
    simpa [hk, Reading.take] using Reads.mk hl he hv (.complete (hp.close (.expression v)))
  · next w hk =>
    obtain rfl := Except.ok.inj hs
    have he' : ReadsEnclosing _ ((⟨_, _⟩, k) :: _) := .cons w k he hv hp hk
    simpa [hk, Level.fresh] using Reads.mk hl he' .nothing (.due .nothing)
  · split at hs <;> simp at hs
  · simp at hs

/-- What stops a level is the comparator of a constraint, or it is refused. -/
theorem Reads.stop {ss : List (Symbol β)} {r r' : Reading β} {k : Token β} {v : Tree β}
    (h : Reads ss r) (hr : r.operand = some v) (hs : r.stop mode v k = .ok r') :
    Reads (ss ++ [k.symbol]) r' := by
  obtain ⟨hl, he, hv, ho⟩ := h
  obtain rfl := hr
  obtain ⟨rfl, ht⟩ := ho.of_complete
  unfold Reading.stop at hs
  split at hs
  · simp at hs
  · simp at hs
  · next he' =>
    obtain rfl := he'
    split at hs
    · simp at hs
    · next c hl' hk =>
      obtain rfl := Except.ok.inj hs
      obtain rfl := hl'
      cases hl
      cases he
      have hl' : ReadsLeft _ (some (Pending.close _ v, c)) := .side (hv.close ht)
      simpa [hk, Reading.start, Reading.total, Level.fresh] using
        Reads.mk hl' .nil .nothing (.due .nothing)
    · simp at hs
    · simp at hs
    · simp at hs

/-- A token that is taken after a complete operand. -/
theorem Reads.later {ss : List (Symbol β)} {r r' : Reading β} {k : Token β} {v : Tree β}
    (h : Reads ss r) (hr : r.operand = some v) (hs : r.later mode v k = .ok r') :
    Reads (ss ++ [k.symbol]) r' := by
  have h₀ := h
  obtain ⟨hl, he, hv, ho⟩ := h
  obtain rfl := hr
  obtain ⟨rfl, ht⟩ := ho.of_complete
  unfold Reading.later at hs
  split at hs
  · next op hk =>
    split at hs
    · simp at hs
    · next sign hsign =>
      split at hs
      · next hm =>
        have hop : JoinsFactors op := by rcases hm with rfl | rfl <;> simp [JoinsFactors, hsign]
        obtain rfl := Except.ok.inj hs
        simpa [hk] using Reads.mk hl he hv (.due (.operation ht hop))
      · split at hs
        · next ha =>
          have hop : JoinsSummands op := by rcases ha with rfl | rfl <;> simp [JoinsSummands, hsign]
          obtain rfl := Except.ok.inj hs
          have hv' := ReadsPending.operation (hv.close ht) hop
          simpa [hk, Reading.total] using Reads.mk hl he hv' (.due .nothing)
        · exact h₀.stop rfl hs
  · next w outer _ enclosing hk he' =>
    obtain rfl := Except.ok.inj hs
    obtain rfl := he'
    cases he with
    | cons w' _ he hs hp hk' =>
      have hg := IsPrimary.group w' w (hv.close ht)
      simpa [hk, Reading.take, Reading.total] using Reads.mk hl he hs (.complete (hp.close hg))
  · exact h₀.stop rfl hs

/-- **Every step keeps true what has been read.** -/
theorem Reads.step {ss : List (Symbol β)} {r r' : Reading β} {k : Token β} (h : Reads ss r)
    (hs : r.step mode k = .ok r') : Reads (ss ++ [k.symbol]) r' := by
  unfold Reading.step at hs
  split at hs
  · next hr => exact h.first hr hs
  · next v hr => exact h.later hr hs

theorem Reads.steps {ss : List (Symbol β)} {r r' : Reading β} {ts : List (Token β)}
    (h : Reads ss r) (hs : r.steps mode ts = .ok r') : Reads (ss ++ ts.map Token.symbol) r' := by
  induction ts generalizing ss r with
  | nil =>
    obtain rfl := Except.ok.inj hs
    simpa using h
  | cons k ts ih =>
    rw [Reading.steps_cons, Except.bind_eq_ok_iff] at hs
    obtain ⟨r₁, h₁, hs⟩ := hs
    simpa using ih (h.step h₁) hs

/-- What comes out at the end is the sum after the left side of a constraint. -/
theorem Reads.finish {ss : List (Symbol β)} {r : Reading β} {t : Tree β} (h : Reads ss r)
    (hf : r.finish = .ok t) : ∃ us vs, ss = us ++ vs ∧ ReadsLeft us r.left ∧ IsSum vs t := by
  obtain ⟨hl, he, hv, ho⟩ := h
  unfold Reading.finish at hf
  split at hf
  · simp at hf
  · simp at hf
  · next v hr he' =>
    obtain rfl := hr
    obtain rfl := he'
    obtain rfl := Except.ok.inj hf
    obtain ⟨rfl, ht⟩ := ho.of_complete
    cases he
    exact ⟨_, _, rfl, hl, hv.close ht⟩

/-! ### What is derivable is read -/

theorem take_of_fresh {r : Reading β} {t : Tree β} (h : r.level.product = none) :
    r.take t = { r with operand := some t } := by
  obtain ⟨left, enclosing, ⟨sum, product⟩, operand⟩ := r
  obtain rfl := h
  rfl

section Step

variable {r : Reading β} {k : Token β} {v : Tree β}

theorem step_number {x : β} (hr : r.operand = none) (hk : k.symbol = .number x) :
    r.step mode k = .ok (r.take (.literal x)) := by
  simp [Reading.step, Reading.first, hr, hk]

theorem step_expression {x : β} (hr : r.operand = none) (hk : k.symbol = .expression x) :
    r.step mode k = .ok (r.take (.leaf x)) := by
  simp [Reading.step, Reading.first, hr, hk]

theorem step_opening {w : Word β} (hr : r.operand = none) (hk : k.symbol = .opening w) :
    r.step mode k =
      .ok { r with enclosing := (r.level, k) :: r.enclosing, level := .fresh } := by
  simp [Reading.step, Reading.first, hr, hk]

theorem step_closing {w : Word β} {outer : Level β} {k' : Token β}
    {enclosing : List (Level β × Token β)} (hr : r.operand = some v) (hk : k.symbol = .closing w)
    (he : r.enclosing = (outer, k') :: enclosing) :
    r.step mode k = .ok (Reading.take ⟨r.left, enclosing, outer, none⟩ (r.total v)) := by
  simp [Reading.step, Reading.later, hr, hk, he]

theorem step_additive {op : Word β} (hr : r.operand = some v) (hk : k.symbol = .operator op)
    (hop : JoinsSummands op) :
    r.step mode k = .ok { r with level := ⟨some ⟨r.total v, op⟩, none⟩, operand := none } := by
  rcases hop with hop | hop <;> simp [Reading.step, Reading.later, hr, hk, hop]

theorem step_multiplicative {op : Word β} (hr : r.operand = some v)
    (hk : k.symbol = .operator op) (hop : JoinsFactors op) : r.step mode k =
      .ok { r with level := { r.level with product := some ⟨v, op⟩ }, operand := none } := by
  rcases hop with hop | hop <;> simp [Reading.step, Reading.later, hr, hk, hop]

theorem step_comparator {c : Word β} (hr : r.operand = some v) (hk : k.symbol = .comparator c)
    (he : r.enclosing = []) (hl : r.left = none) :
    r.step .constraint k = .ok { Reading.start with left := some (r.total v, c) } := by
  simp [Reading.step, Reading.later, Reading.stop, hr, hk, he, hl]

end Step

mutual

/-- A sum becomes the only sum of the level that it starts. -/
theorem IsSum.steps {ss : List (Symbol β)} {t : Tree β} (h : IsSum ss t) {ts : List (Token β)}
    (hs : ts.map Token.symbol = ss) {r : Reading β} (hr : r.operand = none)
    (hv : r.level = .fresh) : ∃ p v, Pending.close p v = t ∧
      r.steps mode ts = .ok { r with level := ⟨p, none⟩, operand := some v } := by
  match h with
  | .product h =>
    refine ⟨none, t, rfl, ?_⟩
    rw [h.steps hs hr (by rw [hv]; rfl)]
    simp [hv, Level.fresh]
  | .more h hop h' =>
    obtain ⟨ts₁, ts', rfl, h₁, h'₁⟩ := List.map_eq_append_iff.1 hs
    obtain ⟨k, ts₂, rfl, hk, h₂⟩ := List.map_eq_cons_iff.1 h'₁
    obtain ⟨p, v, rfl, hsteps⟩ := h.steps h₁ hr hv
    refine ⟨some ⟨Pending.close p v, _⟩, _, rfl, ?_⟩
    rw [Reading.steps_append_of_ok _ hsteps, Reading.steps_cons, step_additive rfl hk hop]
    exact h'.steps h₂ rfl rfl

/-- A product becomes the last operand of the level. -/
theorem IsProduct.steps {ss : List (Symbol β)} {t : Tree β} (h : IsProduct ss t)
    {ts : List (Token β)} (hs : ts.map Token.symbol = ss) {r : Reading β} (hr : r.operand = none)
    (hp : r.level.product = none) : r.steps mode ts = .ok { r with operand := some t } := by
  match h with
  | .primary h =>
    rw [h.steps hs hr, take_of_fresh hp]
  | .more h hop h' =>
    obtain ⟨ts₁, ts', rfl, h₁, h'₁⟩ := List.map_eq_append_iff.1 hs
    obtain ⟨k, ts₂, rfl, hk, h₂⟩ := List.map_eq_cons_iff.1 h'₁
    rw [Reading.steps_append_of_ok _ (h.steps h₁ hr hp), Reading.steps_cons,
      step_multiplicative rfl hk hop]
    refine (h'.steps h₂ rfl).trans ?_
    obtain ⟨left, enclosing, ⟨sum, product⟩, operand⟩ := r
    obtain rfl := hp
    rfl

/-- A primary is taken as the operand that is due. -/
theorem IsPrimary.steps {ss : List (Symbol β)} {t : Tree β} (h : IsPrimary ss t)
    {ts : List (Token β)} (hs : ts.map Token.symbol = ss) {r : Reading β}
    (hr : r.operand = none) : r.steps mode ts = .ok (r.take t) := by
  match h with
  | .number v =>
    obtain ⟨k, rfl, hk⟩ := List.map_eq_singleton_iff.1 hs
    rw [Reading.steps_cons, step_number hr hk]
    rfl
  | .expression v =>
    obtain ⟨k, rfl, hk⟩ := List.map_eq_singleton_iff.1 hs
    rw [Reading.steps_cons, step_expression hr hk]
    rfl
  | .group w w' h =>
    obtain ⟨k, ts', rfl, hk, h'⟩ := List.map_eq_cons_iff.1 hs
    obtain ⟨ts₁, ts₂, rfl, h₁, h₂⟩ := List.map_eq_append_iff.1 h'
    obtain ⟨k', rfl, hk'⟩ := List.map_eq_singleton_iff.1 h₂
    obtain ⟨p, v, rfl, hsteps⟩ := h.steps h₁
      (r := { r with enclosing := (r.level, k) :: r.enclosing, level := .fresh }) hr rfl
    rw [Reading.steps_cons, step_opening hr hk]
    refine (Reading.steps_append_of_ok _ hsteps).trans ?_
    rw [Reading.steps_cons, step_closing rfl hk' rfl, ← hr]
    rfl

end

/-! ### Readings and derivations -/

/-- An expression has no left side. -/
theorem left_of_step {r r' : Reading β} {k : Token β} (hs : r.step .expression k = .ok r') :
    r'.left = r.left := by
  unfold Reading.step Reading.first Reading.later Reading.stop at hs
  grind [Reading.take]

theorem left_of_steps {r r' : Reading β} {ts : List (Token β)}
    (hs : r.steps .expression ts = .ok r') : r'.left = r.left := by
  induction ts generalizing r with
  | nil =>
    obtain rfl := Except.ok.inj hs
    rfl
  | cons k ts ih =>
    rw [Reading.steps_cons, Except.bind_eq_ok_iff] at hs
    obtain ⟨r₁, h₁, hs⟩ := hs
    rw [ih hs, left_of_step h₁]

theorem ofFeed_eq_ok_iff_isSum {feed : Feed (Token β) ε Unit} {t : Tree β} :
    Tree.ofFeed feed = .ok t ↔
      feed.outcome = .ok () ∧ IsSum (feed.items.map Token.symbol) t := by
  rw [Tree.ofFeed_eq_ok_iff]
  refine and_congr_right fun _ => ⟨?_, ?_⟩
  · rintro ⟨r, hr, hf⟩
    obtain ⟨us, vs, hss, hl, hv⟩ := (reads_start.steps hr).finish hf
    rw [left_of_steps hr] at hl
    cases hl
    rw [List.nil_append, List.nil_append] at hss
    exact hss ▸ hv
  · intro h
    obtain ⟨p, v, rfl, hs⟩ := h.steps rfl (r := .start) rfl rfl
    exact ⟨_, hs, rfl⟩

theorem ofFeed_eq_ok_iff_isComparison {feed : Feed (Token β) ε Unit} {c : Comparison β} :
    Comparison.ofFeed feed = .ok c ↔
      feed.outcome = .ok () ∧ IsComparison (feed.items.map Token.symbol) c := by
  rw [Comparison.ofFeed_eq_ok_iff]
  refine and_congr_right fun _ => ⟨?_, ?_⟩
  · rintro ⟨r, hr, hl', hf⟩
    obtain ⟨us, vs, hss, hl, hv⟩ := (reads_start.steps hr).finish hf
    rw [hl'] at hl
    cases hl with
    | side ht =>
      rw [List.nil_append, List.append_assoc] at hss
      exact hss ▸ .mk ht hv
  · intro h
    generalize hss : feed.items.map Token.symbol = ss at h
    obtain ⟨ht, hu⟩ := h
    obtain ⟨ts₁, ts', hts, h₁, h'₁⟩ := List.map_eq_append_iff.1 hss
    obtain ⟨k, ts₂, rfl, hk, h₂⟩ := List.map_eq_cons_iff.1 h'₁
    obtain ⟨p, v, rfl, hs⟩ := ht.steps h₁ (r := .start) rfl rfl
    obtain ⟨p', v', rfl, hs'⟩ := hu.steps h₂
      (r := { Reading.start with left := some (Pending.close p v, _) }) rfl rfl
    refine ⟨_, Eq.trans ?_ hs', rfl, rfl⟩
    rw [hts, Reading.steps_append_of_ok _ hs, Reading.steps_cons, step_comparator rfl hk rfl rfl]
    rfl

theorem isComparison_map_iff {ts : List (Token β)} {l r : Tree β} {c : Word β} :
    IsComparison (ts.map Token.symbol) ⟨l, c, r⟩ ↔
      ∃ ts₁ k ts₂, ts = ts₁ ++ k :: ts₂ ∧ k.symbol = .comparator c ∧
        IsSum (ts₁.map Token.symbol) l ∧ IsSum (ts₂.map Token.symbol) r := by
  constructor
  · intro h
    generalize hss : ts.map Token.symbol = ss at h
    obtain ⟨hl, hr⟩ := h
    obtain ⟨ts₁, ts', rfl, rfl, h'⟩ := List.map_eq_append_iff.1 hss
    obtain ⟨k, ts₂, rfl, hk, rfl⟩ := List.map_eq_cons_iff.1 h'
    exact ⟨ts₁, k, ts₂, rfl, hk, hl, hr⟩
  · rintro ⟨ts₁, k, ts₂, rfl, hk, hl, hr⟩
    rw [List.map_append, List.map_cons, hk]
    exact .mk hl hr

section Unique

variable {ss : List (Symbol β)}

/-- Some tokens with these symbols. -/
theorem exists_map_symbol (ss : List (Symbol β)) : ∃ ts : List (Token β),
    ts.map Token.symbol = ss :=
  ⟨ss.map fun s => ⟨s, none, none⟩, by simp [Function.comp_def]⟩

theorem IsSum.unique {t t' : Tree β} (h : IsSum ss t) (h' : IsSum ss t') : t = t' := by
  obtain ⟨ts, rfl⟩ := exists_map_symbol ss
  have key : ∀ {u}, IsSum (ts.map Token.symbol) u → Tree.ofFeed (ε := Unit) (.ofList ts) = .ok u :=
    fun hu => ofFeed_eq_ok_iff_isSum.2 (by simpa using hu)
  exact Except.ok.inj ((key h).symm.trans (key h'))

theorem IsComparison.unique {c c' : Comparison β} (h : IsComparison ss c)
    (h' : IsComparison ss c') : c = c' := by
  obtain ⟨ts, rfl⟩ := exists_map_symbol ss
  have key : ∀ {d}, IsComparison (ts.map Token.symbol) d →
      Comparison.ofFeed (ε := Unit) (.ofList ts) = .ok d :=
    fun hd => ofFeed_eq_ok_iff_isComparison.2 (by simpa using hd)
  exact Except.ok.inj ((key h).symm.trans (key h'))

end Unique

/-- **Reading follows the grammar**: of a list of tokens exactly the derivable trees and comparisons
come out, no list has two of them, and each shows every symbol but the parentheses once, in the
order of the list. -/
theorem ofFeed_ofList_iff (ts : List (Token β)) :
    (∀ t, Tree.ofFeed (ε := ε) (.ofList ts) = .ok t ↔ IsSum (ts.map Token.symbol) t) ∧
    (∀ l c r, Comparison.ofFeed (ε := ε) (.ofList ts) = .ok ⟨l, c, r⟩ ↔
      ∃ ts₁ k ts₂, ts = ts₁ ++ k :: ts₂ ∧ k.symbol = .comparator c ∧
        IsSum (ts₁.map Token.symbol) l ∧ IsSum (ts₂.map Token.symbol) r) ∧
    (∀ t t', IsSum (ts.map Token.symbol) t → IsSum (ts.map Token.symbol) t' → t = t') ∧
    (∀ t, IsSum (ts.map Token.symbol) t → t.symbols = bare (ts.map Token.symbol)) ∧
    (∀ c, Comparison.ofFeed (ε := ε) (.ofList ts) = .ok c →
      c.symbols = bare (ts.map Token.symbol)) := by
  refine ⟨fun t => ?_, fun l c r => ?_, fun t t' => IsSum.unique, fun t => IsSum.symbols_eq,
    fun c hc => ?_⟩
  · rw [ofFeed_eq_ok_iff_isSum, Feed.outcome_ofList, Feed.items_ofList]
    exact and_iff_right rfl
  · rw [ofFeed_eq_ok_iff_isComparison, Feed.outcome_ofList, Feed.items_ofList,
      and_iff_right rfl, isComparison_map_iff]
  · rw [ofFeed_eq_ok_iff_isComparison, Feed.items_ofList] at hc
    exact hc.2.symbols_eq

end Grammar

end Milp
