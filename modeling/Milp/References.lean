/-!
# References

Things refer to other things. What can be reached from somewhere is in use; what has just gone out
of use is released one by one, a thing as soon as nothing that has not been released refers to it
any more. Things that refer to each other in a circle are not released.
-/

namespace Milp.References

variable {τ : Type}

/-- Things by number, each once. -/
abbrev Things (τ : Type) := List (Nat × τ)

/-- Files one more thing under its number. -/
def Things.file (number : τ → Nat) (t : τ) (seen : Things τ) : Things τ := (number t, t) :: seen

/-- The things that can be reached by way of those on the stack, put in front of those that have
been reached already. `children` tells what a thing refers to. There is no end to it only if there
is no end to the things. -/
def Things.reach (number : τ → Nat) (children : τ → List τ) (stack : List τ) (seen : Things τ) :
    Option (Things τ) :=
  match stack with
  | [] => some seen
  | t :: stack =>
    if (seen.lookup (number t)).isSome then seen |>.reach number children stack
    else seen.file number t |>.reach number children (children t ++ stack)
partial_fixpoint

/-- How often each number is still referred to. -/
abbrev Counts := List (Nat × Nat)

/-- One more reference. -/
def Counts.up (n : Nat) : Counts → Counts
  | [] => [(n, 1)]
  | (m, k) :: rest => if m = n then (m, k + 1) :: rest else (m, k) :: Counts.up n rest

/-- One reference less. -/
def Counts.down (n : Nat) : Counts → Counts
  | [] => []
  | (m, k) :: rest => if m = n then (m, k - 1) :: rest else (m, k) :: Counts.down n rest

/-- Takes one reference away from each thing on the stack. A thing that has lost its last one is
released, and then its own references are taken away, before those to the things after it. Only the
things out of use, `idle`, are released. -/
def release (number : τ → Nat) (children : τ → List τ) (idle : Things τ) :
    (fuel : Nat) → (stack : List τ) → Counts → List τ
  | 0, _, _ => []
  | _, [], _ => []
  | fuel + 1, t :: stack, counts =>
    let counts := counts.down (number t)
    if counts.lookup (number t) = some 0 && (idle.lookup (number t)).isSome then
      t :: release number children idle fuel (children t ++ stack) counts
    else release number children idle fuel stack counts

/-- Whatever is released was out of use. -/
theorem lookup_of_mem_release (number : τ → Nat) (children : τ → List τ) (idle : Things τ)
    (fuel : Nat) (stack : List τ) (counts : Counts) {t : τ}
    (h : t ∈ release number children idle fuel stack counts) :
    (idle.lookup (number t)).isSome := by
  induction fuel generalizing stack counts with
  | zero => simp [release] at h
  | succ fuel ih =>
    match stack with
    | [] => simp [release] at h
    | u :: stack =>
      simp only [release] at h
      split at h
      · next hu =>
        rcases List.mem_cons.1 h with rfl | h
        · simp_all
        · exact ih _ _ h
      · exact ih _ _ h

/-- The things of `before` that are not among those in use, in the order in which they are
released. -/
def released (number : τ → Nat) (children : τ → List τ) (before inUse : Things τ) : List τ :=
  let idle := before.filter fun t => (inUse.lookup t.1).isNone
  let references := idle.flatMap fun t => (children t.2).map number
  let counts : Counts := references.foldl (fun c n => c.up n) []
  let starts := idle.reverse.filter fun t => (counts.lookup t.1).isNone
  let counts := starts.foldl (fun c t => c.up t.1) counts
  release number children idle (references.length + starts.length) (starts.map Prod.snd) counts

/-- What is found when references are followed again. -/
structure Sweep (τ : Type) where
  inUse : Things τ
  /-- What has gone out of use, in the order in which it is released. -/
  released : List τ
  /-- What is out of use, but is still referred to in a circle. -/
  stranded : Things τ

/-- Looks for what has gone out of use since `before` was in use. The roots are in use by
themselves; the things of a result were in use until now. -/
def sweep (number : τ → Nat) (children : τ → List τ) (roots result : List τ) (before : Things τ) :
    Option (Sweep τ) := do
  let inUse ← Things.reach number children roots []
  let before ← Things.reach number children result before
  let released := released number children before inUse
  let stranded := before.filter fun t =>
    (inUse.lookup (number t.2)).isNone && !(released.any fun u => number u = number t.2)
  return ⟨inUse, released, stranded⟩

namespace Sweep

/-- The things with a place that are given up, in order: those that are released, and then, if
circles are looked for, the stranded ones by their places. There are `count` places. -/
def givenUp (place? : τ → Option Nat) (count : Nat) (looksForCircles : Bool) (w : Sweep τ) :
    List τ :=
  let placed := w.stranded.filterMap fun t => (place? t.2).map fun place => (place, t.2)
  let stranded := if looksForCircles then (List.range count).filterMap (placed.lookup ·) else []
  w.released.filter (fun t => (place? t).isSome) ++ stranded

/-- What is in use from now on, with what is stranded as long as circles are not looked for. -/
def remaining (looksForCircles : Bool) (w : Sweep τ) : Things τ :=
  if looksForCircles then w.inUse else w.inUse ++ w.stranded

end Sweep

end Milp.References
