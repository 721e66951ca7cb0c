import Mathlib
import Milp.Proofs.Libraries
import Milp.Proofs.Reaching
import Milp.Proofs.Sweeping
import Milp.Session.Release

/-!
# How long libraries stay loaded

Libraries are opened, asked and closed, problems are solved by them, and the program refers to
libraries directly or by way of other things, problems for instance. From time to time what has gone
out of use is swept up. Through all of this a library is unloaded at most once, it is not asked any
more when it has been closed, it is not unloaded as long as it can be reached and nobody closes it,
and every reply has been given back: `World.lifetimes_of_run`.
-/

namespace Milp

open References

/-! ### Solving by libraries -/

namespace Model

section State

variable {δ α σ ε : Type} [Inhabited (Variable String δ)] [Scalar α] [Data δ α]
  (view : σ → DataView String δ α) (solver : Solver String δ α σ ε) (direction : Direction)
  (g : Given String α) (operands : List (Operand String α)) (options : Option (Options δ))
  (m : Model String δ α) (s : σ)

/-- A solve asks its solver once, if it gets that far. -/
theorem state_solve :
    (endState ((solve view solver direction g operands options).run (m, s))).2 = s ∨
      ∃ M, (endState ((solve view solver direction g operands options).run (m, s))).2 =
        (solver M s).2 := by
  unfold solve
  rw [EStateM.run_bind, run_eq]
  cases g.evaluate m.store.name .operandsOfObjective operands with
  | error e => exact .inl rfl
  | ok objective =>
    dsimp only
    cases m.message (view s).inquiry direction (.expression objective) options with
    | error e => exact .inl rfl
    | ok M =>
      refine .inr ⟨M, ?_⟩
      dsimp only
      obtain ⟨e | answer, s'⟩ := solver M s
      · rfl
      · dsimp only
        cases Solution.ofAnswer (view s').inquiry answer m.problem.names with
        | error e => rfl
        | ok x =>
          dsimp only
          obtain ⟨e, -, h⟩ | ⟨x', h, -⟩ := conclude_cases (ε := ε) view (m.settle x) s' objective x
          · rw [h]
            rfl
          · rw [h]
            rfl

end State

/-- **A problem is not solved by a library that is closed.** If it could be sent, then the error is
that of the library. -/
theorem solve_of_closed {s : Host} {l : Handle} (hclosed : s.isOpen l = false)
    (view : Host → DataView String (Datum Number) Number) (direction : Direction)
    (g : Given String Number) (operands : List (Operand String Number))
    (options : Option (Options (Datum Number))) (m : Model String (Datum Number) Number) :
    ∃ e, (solve view (Host.solver l) direction g operands options).run (m, s) = .error e (m, s) ∧
      ∀ objective M, g.evaluate m.store.name .operandsOfObjective operands = .ok objective →
        m.message (view s).inquiry direction (.expression objective) options = .ok M →
        e = .solver .closed := by
  unfold solve
  rw [EStateM.run_bind, run_eq]
  cases g.evaluate m.store.name .operandsOfObjective operands with
  | error e => exact ⟨_, rfl, fun _ _ h => nomatch h⟩
  | ok objective =>
    dsimp only
    cases hM : m.message (view s).inquiry direction (.expression objective) options with
    | error e =>
      refine ⟨_, rfl, ?_⟩
      rintro objective' M h h'
      obtain rfl := Except.ok.inj h
      rw [hM] at h'
      exact nomatch h'
    | ok M =>
      dsimp only [Host.solver]
      rw [Host.ask_of_closed hclosed]
      exact ⟨_, rfl, fun _ _ _ _ => rfl⟩

end Model

/-! ### Who refers to libraries -/

/-- **Things that refer to others**, some of which are libraries. Each library is one thing. -/
structure Heap (τ : Type) where
  number : τ → Nat
  children : τ → List τ
  roots : List τ
  library? : τ → Option Handle
  numbered : Numbered number children roots
  unique : ∀ {t u : τ} {l : Handle}, library? t = some l → library? u = some l →
    number t = number u

namespace Heap

variable {τ : Type}

/-- The library can be reached from the roots. -/
def Holds (g : Heap τ) (l : Handle) : Prop :=
  ∃ t, Reaches g.children g.roots t ∧ g.library? t = some l

/-- Looks for what has gone out of use. -/
def sweep (g : Heap τ) (result : List τ) (before : Things τ) : Option (Sweep τ) :=
  References.sweep g.number g.children g.roots result before

/-- A library that is given up cannot be reached. -/
theorem not_holds_of_mem_givenUp {g : Heap τ} {result : List τ} {before : Things τ} {x : Sweep τ}
    (h : g.sweep result before = some x) {count : Nat} {looksForCircles : Bool} {l : Handle}
    (hl : l ∈ (x.givenUp g.library? count looksForCircles).filterMap g.library?) : ¬ g.Holds l := by
  obtain ⟨t, ht, htl⟩ := List.mem_filterMap.1 hl
  rintro ⟨u, hu, hul⟩
  exact not_reaches_of_mem_givenUp g.numbered h ht (g.unique hul htl) hu

end Heap

/-! ### Events -/

/-- The libraries and what the program refers to. -/
structure World (τ : Type) where
  host : Host
  heap : Heap τ
  /-- What was in use when it was last looked at. -/
  inUse : Things τ
  /-- The libraries that have been opened since then. They are still at hand. -/
  hand : List Handle

namespace World

variable {τ : Type}

/-- The world when libraries have been swept up. What is only held by circles goes if it is looked
for. -/
def swept (w : World τ) (x : Sweep τ) (looksForCircles : Bool) : World τ :=
  let given := x.givenUp w.heap.library? w.host.libraries.length looksForCircles
  { w with
    host := w.host.closeAll (given.filterMap w.heap.library?)
    inUse := x.remaining looksForCircles
    hand := [] }

/-- **What happens to libraries**, with the handles that are closed on purpose. References are made
and dropped at will, as long as a library that could not be reached stays out of reach. Entering the
context of a library does nothing, and leaving it closes the library. -/
inductive Event : World τ → List Handle → World τ → Prop
  | opened {w : World τ} {path l host} : Host.openLibrary path w.host = .ok (l, host) →
      Event w [] { w with host, hand := l :: w.hand }
  | notOpened {w : World τ} {path e} : Host.openLibrary path w.host = .error e → Event w [] w
  | asked {w : World τ} (l message) : Event w [] { w with host := (w.host.ask l message).2 }
  | solved {w : World τ} (l) (m : Model String (Datum Number) Number)
      (view : Host → DataView String (Datum Number) Number) (direction g operands options) :
      Event w [] { w with host := (Model.endState ((Model.solve view (Host.solver l) direction g
        operands options).run (m, w.host))).2 }
  | closed {w : World τ} {l} : l < w.host.libraries.length →
      Event w [l] { w with host := w.host.close l }
  | entered {w : World τ} : Event w [] w
  | awaited {w : World τ} (replies : List Reply) :
      Event w [] { w with host := { w.host with replies := w.host.replies ++ replies } }
  | rearranged {w : World τ} {heap : Heap τ} : (∀ l, heap.Holds l → w.heap.Holds l ∨ l ∈ w.hand) →
      Event w [] { w with heap }
  | swept {w : World τ} {result x} (looksForCircles) :
      w.heap.sweep result w.inUse = some x → Event w [] (w.swept x looksForCircles)

/-- **A run of events**, with all handles that were closed on purpose. -/
inductive Run : World τ → List Handle → World τ → Prop
  | nil {w : World τ} : Run w [] w
  | snoc {w w' w'' : World τ} {h h'} : Run w h w' → Event w' h' w'' → Run w (h ++ h') w''

/-- Nothing has been opened yet. -/
def start (files : List String) (heap : Heap τ) : World τ := ⟨.empty files, heap, [], []⟩

variable {w w' : World τ} {h h' : List Handle}

/-! ### What is kept -/

/-- **What is kept through all events**: what can be reached or is at hand is loaded unless it was
closed on purpose, and what was closed has been unloaded. -/
structure Kept (w : World τ) (h : List Handle) : Prop where
  sound : w.host.Sound
  held : ∀ l, w.heap.Holds l ∨ l ∈ w.hand → l ∉ h → w.host.isOpen l
  closed : ∀ l ∈ h, l ∈ w.host.unloaded

namespace Kept

variable (hw : w.Kept h)

include hw

/-- Nothing is opened or closed. -/
theorem of_unchanged {host : Host} (hsound : host.Sound)
    (hhost : host.libraries = w.host.libraries ∧ host.unloaded = w.host.unloaded) :
    ({ w with host } : World τ).Kept h := by
  refine ⟨hsound, fun l hl hnot => ?_, fun l hl => ?_⟩
  · rw [Host.isOpen_congr hhost.1]
    exact hw.held l hl hnot
  · rw [hhost.2]
    exact hw.closed l hl

theorem ask (l : Handle) (message : Except Json.Unwritable (Datum Number)) :
    ({ w with host := (w.host.ask l message).2 } : World τ).Kept h :=
  hw.of_unchanged (hw.sound.ask l message) (Host.unchanged_ask l message)

theorem opened {l : Handle} {path : String} {host : Host}
    (hopen : Host.openLibrary path w.host = .ok (l, host)) :
    ({ w with host, hand := l :: w.hand } : World τ).Kept h := by
  obtain ⟨rfl, path, rfl⟩ := Host.openLibrary_eq_ok hopen
  refine ⟨hw.sound.afterOpening path, fun l hl hnot => ?_, hw.closed⟩
  rw [Host.isOpen_afterOpening, Bool.or_eq_true_iff, decide_eq_true_iff]
  obtain hl | hl := hl
  · exact .inr (hw.held l (.inl hl) hnot)
  · obtain rfl | hl := List.mem_cons.1 hl
    · exact .inl rfl
    · exact .inr (hw.held l (.inr hl) hnot)

theorem close {l : Handle} (hl : l < w.host.libraries.length) :
    ({ w with host := w.host.close l } : World τ).Kept (h ++ [l]) := by
  have hsound := hw.sound.close l
  refine ⟨hsound, fun k hk hnot => ?_, ?_⟩
  · rw [List.mem_append, List.mem_singleton, not_or] at hnot
    rw [Host.isOpen_close, hw.held k hk hnot.1]
    simp [hnot.2]
  · rw [List.forall_mem_append, List.forall_mem_singleton]
    refine ⟨fun k hk => ?_, ?_⟩
    · dsimp only
      rw [Host.unloaded_close]
      split
      · exact List.mem_append_left _ (hw.closed k hk)
      · exact hw.closed k hk
    · rw [hsound.mem_unloaded_iff, Host.length_close, Host.isOpen_close]
      exact ⟨hl, by simp⟩

theorem swept {result : List τ} {x : Sweep τ} (looksForCircles : Bool)
    (hx : w.heap.sweep result w.inUse = some x) : (w.swept x looksForCircles).Kept h := by
  have hsound := hw.sound.closeAll
    ((x.givenUp w.heap.library? w.host.libraries.length looksForCircles).filterMap w.heap.library?)
  refine ⟨hsound, fun l hl hnot => ?_, fun l hl => ?_⟩
  · obtain hl | hl := hl
    · have hgiven : l ∉ (x.givenUp w.heap.library? w.host.libraries.length
          looksForCircles).filterMap w.heap.library? :=
        fun hmem => Heap.not_holds_of_mem_givenUp hx hmem hl
      rw [World.swept, Host.isOpen_closeAll, hw.held l (.inl hl) hnot]
      simpa using hgiven
    · exact absurd hl List.not_mem_nil
  · obtain ⟨hlt, hclosed⟩ := (hw.sound.mem_unloaded_iff l).1 (hw.closed l hl)
    rw [World.swept, hsound.mem_unloaded_iff, Host.length_closeAll, Host.isOpen_closeAll, hclosed]
    exact ⟨hlt, rfl⟩

/-- **An event keeps it.** -/
theorem event (he : Event w h' w') : w'.Kept (h ++ h') := by
  cases he with
  | opened hopen =>
    rw [List.append_nil]
    exact hw.opened hopen
  | notOpened | entered =>
    rw [List.append_nil]
    exact hw
  | asked l message =>
    rw [List.append_nil]
    exact hw.ask l message
  | solved l m view direction g operands options =>
    rw [List.append_nil]
    obtain hs | ⟨M, hs⟩ := Model.state_solve view (Host.solver l) direction g operands options m w.host
    · rw [hs]
      exact hw
    · rw [hs]
      exact hw.ask l (.ok (M.toDatum .text))
  | closed hl => exact hw.close hl
  | awaited replies =>
    rw [List.append_nil]
    exact hw.of_unchanged ⟨hw.sound.nodup, hw.sound.mem_unloaded_iff, hw.sound.returned⟩ ⟨rfl, rfl⟩
  | rearranged hheap =>
    rw [List.append_nil]
    refine ⟨hw.sound, fun l hl hnot => hw.held l ?_ hnot, hw.closed⟩
    exact hl.elim (hheap l) .inr
  | swept looksForCircles hx =>
    rw [List.append_nil]
    exact hw.swept looksForCircles hx

end Kept

theorem kept_start (files : List String) {heap : Heap τ} (hheap : ∀ l, ¬ heap.Holds l) :
    (start files heap).Kept [] where
  sound := Host.sound_empty files
  held l hl := hl.elim (fun hl => absurd hl (hheap l)) fun hl => absurd hl List.not_mem_nil
  closed _ hl := absurd hl List.not_mem_nil

theorem Run.kept (hrun : Run w h w') (hw : w.Kept []) : w'.Kept h := by
  induction hrun with
  | nil => exact hw
  | snoc _ he ih => exact ih.event he

/-- **How long libraries stay loaded.** In a run of events from the start, no library is unloaded
twice. A library that was closed on purpose, or has been unloaded, is not asked any more: who asks
it, or solves a problem by it, gets an error, and nothing changes. A library that can be reached has
not been unloaded unless it was closed on purpose. And the replies that were received have been
given back, each once. -/
theorem lifetimes_of_run {files : List String} {heap : Heap τ} (hheap : ∀ l, ¬ heap.Holds l)
    (hrun : Run (start files heap) h w) :
    w.host.unloaded.Nodup ∧
    (∀ l, l ∈ h ∨ l ∈ w.host.unloaded →
      (∀ message, w.host.ask l message = (.error .closed, w.host)) ∧
      ∀ (m : Model String (Datum Number) Number) view direction g operands options,
        ∃ e, (Model.solve view (Host.solver l) direction g operands options).run (m, w.host) =
            .error e (m, w.host) ∧
          ∀ objective M, g.evaluate m.store.name .operandsOfObjective operands = .ok objective →
            m.message (view w.host).inquiry direction (.expression objective) options = .ok M →
            e = .solver .closed) ∧
    (∀ l, w.heap.Holds l → l ∉ h → w.host.isOpen l ∧ l ∉ w.host.unloaded) ∧
    w.host.returned = List.range w.host.received ∧ w.host.freed = w.host.received := by
  have hw : w.Kept h := hrun.kept (kept_start files hheap)
  refine ⟨hw.sound.nodup, fun l hl => ?_, fun l hl hnot => ?_, hw.sound.returned, ?_⟩
  · have hclosed : w.host.isOpen l = false :=
      ((hw.sound.mem_unloaded_iff l).1 (hl.elim (hw.closed l) id)).2
    exact ⟨Host.ask_of_closed hclosed, fun m view direction g operands options =>
      Model.solve_of_closed hclosed view direction g operands options m⟩
  · have hopen : w.host.isOpen l := hw.held l (.inl hl) hnot
    refine ⟨hopen, fun hmem => ?_⟩
    rw [((hw.sound.mem_unloaded_iff l).1 hmem).2] at hopen
    exact Bool.false_ne_true hopen
  · rw [Host.freed, hw.sound.returned, List.length_range]

/-- A library, the thing zero, and a problem that refers to it, the thing one. -/
def boundHeap (roots : List Nat) : Heap Nat where
  number := id
  children t := if t = 1 then [0] else []
  roots := roots
  library? t := if t = 0 then some 0 else none
  numbered t u _ _ h := by rw [show t = u from h]
  unique := by
    intro t u l ht hu
    obtain ⟨ht, -⟩ := Option.ite_none_right_eq_some.1 ht
    obtain ⟨hu, -⟩ := Option.ite_none_right_eq_some.1 hu
    rw [ht, hu]

theorem not_holds_boundHeap (l : Handle) : ¬ (boundHeap []).Holds l := by
  rintro ⟨t, ht, -⟩
  induction ht with
  | start h => exact List.not_mem_nil h
  | child _ _ ih => exact ih

theorem openLibrary_lib :
    Host.openLibrary "lib" (.empty ["lib"]) = .ok (0, (Host.empty ["lib"]).afterOpening "lib") := by
  have hnormal : Path.normal "lib" = "lib" := by cbv
  have hshort : Path.isTooLong "lib" = false := by cbv
  simp [Host.openLibrary, hnormal, hshort, Host.isPresent, Host.empty, Host.afterOpening]

/-- A library is opened, a problem refers to it, a reply is no text, and then the library is
closed. -/
theorem lifetimes_of_run_bound : ∃ w w',
    (Run (start ["lib"] (boundHeap [])) [] w ∧ w.heap.Holds 0 ∧ 0 ∉ w.host.unloaded ∧
      w.host.returned = [0]) ∧
    Run (start ["lib"] (boundHeap [])) [0] w' ∧
      ∀ message, w'.host.ask 0 message = (.error .closed, w'.host) := by
  have hsweep : (boundHeap [1]).sweep [0] [] = some ⟨[(0, 0), (1, 1)], [], []⟩ := by
    simp [Heap.sweep, boundHeap, References.sweep, Things.reach, Things.file, released, release]
  have hheld : (boundHeap [1]).Holds 0 :=
    ⟨0, .child (.start (List.mem_singleton_self 1)) (List.mem_singleton_self 0), rfl⟩
  have hhand : ∀ l, (boundHeap [1]).Holds l → (boundHeap []).Holds l ∨ l ∈ [0] := by
    rintro l ⟨t, -, hl⟩
    obtain ⟨-, hl⟩ := Option.ite_none_right_eq_some.1 hl
    exact .inr (List.mem_singleton.2 (Option.some.inj hl).symm)
  have hasked : Run (start ["lib"] (boundHeap [])) [] _ :=
    ((((Run.nil.snoc (.opened openLibrary_lib)).snoc (.rearranged hhand)).snoc
      (.swept true hsweep)).snoc (.awaited [some [255], none])).snoc (.asked 0 (.ok .null))
  have hclosed : Run (start ["lib"] (boundHeap [])) [0] _ :=
    hasked.snoc (.closed (l := 0) (by decide +kernel))
  refine ⟨_, _, ⟨hasked, hheld, ?_, ?_⟩, hclosed, ?_⟩
  · obtain ⟨-, -, hopen, -⟩ := lifetimes_of_run not_holds_boundHeap hasked
    exact (hopen 0 hheld List.not_mem_nil).2
  · obtain ⟨-, -, -, hreturned, -⟩ := lifetimes_of_run not_holds_boundHeap hasked
    rw [hreturned]
    decide +kernel
  · obtain ⟨-, hnotAsked, -⟩ := lifetimes_of_run not_holds_boundHeap hclosed
    exact (hnotAsked 0 (.inl (List.mem_singleton_self 0))).1

end World

/-! ### Sessions -/

namespace Session

variable {s : Session} {v : Value}

/-- A problem refers to what it is solved by. -/
theorem solver_mem_children {p : ProblemEntry} (hp : s.problem? v = some p) :
    p.solver ∈ s.children v := by
  have hobject : s.object? v = some (.problem p) := by
    unfold problem? at hp
    split at hp
    next hobject => rw [hobject, Option.some.inj hp]
    next => exact nomatch hp
  obtain ⟨tag, content⟩ := v
  cases content with
  | object species =>
    have hparts : s.partsOf (.mk tag (.object species)) =
        [p.name, p.solver, p.register, p.constraints] := by
      simp [partsOf, Value.content, hobject, madeWith, Object.made]
    rw [children, hparts]
    simp
  | _ => exact nomatch hobject

/-- **A session gives up nothing that it refers to**, directly or by way of other values, if the
values with one number refer to the same values. -/
theorem not_reaches_of_sweep (hnumber : Numbered Value.number s.children s.roots) {result : Option Value}
    {w : Sweep Value} (hw : s.sweep result = some w) {count : Nat} {looksForCircles : Bool}
    (hv : v ∈ w.givenUp libraryOf? count looksForCircles) : ¬ Reaches s.children s.roots v :=
  not_reaches_of_mem_givenUp hnumber hw hv rfl

end Session

end Milp
