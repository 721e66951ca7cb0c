/-!
# Feeds

A feed hands out items one by one, and then either ends with a result or fails.
-/

namespace Milp

inductive Feed (τ ε ρ : Type) where
  | done (r : ρ)
  | fail (e : ε)
  | next (t : τ) (rest : Feed τ ε ρ)

namespace Feed

variable {τ ε ρ σ : Type}

/-- The items that are handed out. -/
def items : Feed τ ε ρ → List τ
  | done _ => []
  | fail _ => []
  | next t rest => t :: rest.items

/-- How the feed ends. -/
def outcome : Feed τ ε ρ → Except ε ρ
  | done r => .ok r
  | fail e => .error e
  | next _ rest => rest.outcome

/-- The feed of a list. -/
def ofList : List τ → Feed τ ε Unit
  | [] => done ()
  | t :: ts => next t (ofList ts)

def mapError (f : ε → ε') : Feed τ ε ρ → Feed τ ε' ρ
  | done r => done r
  | fail e => fail (f e)
  | next t rest => next t (rest.mapError f)

/-- Goes on with a feed that depends on the result of the first. -/
def andThen (f : ρ → Feed τ ε σ) : Feed τ ε ρ → Feed τ ε σ
  | done r => f r
  | fail e => fail e
  | next t rest => next t (rest.andThen f)

/-- One feed after the other. -/
def followedBy (a : Feed τ ε Unit) (b : Feed τ ε σ) : Feed τ ε σ := a.andThen fun _ => b

@[simp] theorem items_ofList (ts : List τ) : (ofList (ε := ε) ts).items = ts := by
  induction ts with
  | nil => rfl
  | cons t ts ih => simp [ofList, items, ih]

@[simp] theorem outcome_ofList (ts : List τ) : (ofList (ε := ε) ts).outcome = .ok () := by
  induction ts with
  | nil => rfl
  | cons t ts ih => simp [ofList, outcome, ih]

@[simp] theorem items_mapError (f : ε → ε') (a : Feed τ ε ρ) : (a.mapError f).items = a.items := by
  induction a with
  | done | fail => rfl
  | next t rest ih => simp [mapError, items, ih]

theorem items_andThen (f : ρ → Feed τ ε σ) (a : Feed τ ε ρ) :
    (a.andThen f).items = a.items ++
      match a.outcome with
      | .ok r => (f r).items
      | .error _ => [] := by
  induction a with
  | done r => simp [andThen, items, outcome]
  | fail e => simp [andThen, items, outcome]
  | next t rest ih => simp [andThen, items, outcome, ih]

theorem outcome_andThen (f : ρ → Feed τ ε σ) (a : Feed τ ε ρ) :
    (a.andThen f).outcome = a.outcome.bind fun r => (f r).outcome := by
  induction a with
  | done r => rfl
  | fail e => rfl
  | next t rest ih => simpa [andThen, outcome] using ih

end Feed

end Milp
