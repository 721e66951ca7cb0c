import Milp.References
import Milp.Session.Solvers

/-!
# What stays loaded

A library stays loaded as long as something that is kept refers to it, directly or by way of other
values. What goes out of use is released at the end of a step: of a list or a tuple the last item
first, of a record and of the properties of a value the first one.
-/

namespace Milp.Session

/-! ### What values refer to -/

/-- The values that a value refers to by what it is or by its present state, in the order in which
it gives them up. -/
def partsOf (s : Session) (v : Value) : List Value :=
  match v.content, s.object? v with
  | .tuple items, _ | .roll _ items, _ | .iterator _ items, _ => items.reverse
  | .array _ block, _ => block.entries.reverse
  | .term factor x, _ => [x, factor]
  | .view w, _ | .bound _ _ w, _ => [w]
  | _, some (.list items) => items.reverse
  | _, some (.record fields) => fields.flatMap fun f => [f.1.value, f.2]
  | _, some (.properties owner) => (s.ownProperties owner).map Prod.snd
  | _, some (.recorder answers log) => answers.reverse ++ log.reverse
  | _, _ => (s.madeWith v).map Prod.snd

/-- The values that a value refers to. -/
def children (s : Session) (v : Value) : List Value :=
  s.partsOf v ++ (s.notesOf v).map Prod.snd

/-- The properties that the senses and directions were given, which are always in use. -/
def constantNotes (s : Session) : List Value :=
  let values := [Sense.le, .eq, .ge].map (Value.mk 0 ∘ .sense) ++
    [Direction.minimize, .maximize].map (Value.mk 0 ∘ .direction)
  values.flatMap fun v => (s.notesOf v).map Prod.snd

/-- The settings with which the engine of the solvers in matrix form was asked. -/
def settingsInCalls (s : Session) : List Value :=
  s.calls.flatMap fun c => c.settings.timeLimit.toList ++ c.settings.gap.toList

/-- Everything that is in use by itself. -/
def roots (s : Session) : List Value :=
  s.kept.map Prod.snd ++ s.constantNotes ++ s.settingsInCalls

/-! ### Releasing -/

/-- Closes a library that has gone out of use, if it is still open. That this fails does not
matter. -/
def finalize (v : Value) : Act Unit := do
  try
    if !(← get).isShut v then leave v
  catch _ => pure ()

/-- The library that a value is. -/
def libraryOf? (v : Value) : Option Handle :=
  match v.content with
  | .library h => some h
  | _ => none

/-- What has gone out of use when a step has ended with a result. -/
def sweep (s : Session) (result : Option Value) : Option (References.Sweep Value) :=
  References.sweep Value.number s.children s.roots result.toList s.inUse

/-- Unloads the libraries that have gone out of use when a step has ended with a result. What is
only held by a circle of references goes when it is looked for, and then in the order in which the
libraries were opened. As long as no library is loaded nothing has to be looked at. -/
def release (result : Option Value) (looksForCircles : Bool) : Act Unit := do
  let s ← get
  if !s.host.anyOpen then set { s with inUse := [] }
  else if let some w := s.sweep result then
    (w.givenUp libraryOf? s.host.libraries.length looksForCircles).forM finalize
    modify fun s => { s with inUse := w.remaining looksForCircles }

end Milp.Session
