import Milp.Session.Grid

/-!
# Parts of arrays

An array is asked for a part of it by a place along its first dimension, by places along several
dimensions, by an array of places, or by an array of truth values that tell which entries are
wanted. Nothing at all, or a truth value by itself, adds a dimension.
-/

namespace Milp.Session

open Numeric (Block BlockError)

/-- An array under what adds a dimension to it: nothing, or a truth value, without which there is no
place along that dimension. -/
def widened? (g : Grid) (key : Value) : Option Content :=
  match key.content with
  | .null | .quantity (.mark true) | .quantity (.number (.truth true)) =>
    some (.array g.type { g.block with shape := 1 :: g.block.shape })
  | .quantity (.mark false) | .quantity (.number (.truth false)) =>
    some (.array g.type ⟨0 :: g.block.shape, []⟩)
  | _ => none

/-- A block with entries of a type; without dimensions, its only entry. -/
def ofBlock (type : Numeric.EntryType) (block : Block Value) : Value :=
  match block with
  | ⟨[], [x]⟩ => x
  | block => .mk 0 (.array type block)

/-- The part of an array that another array tells. A list without items counts as one of places. -/
def selectBy (g keys : Grid) (isList : Bool) : Except BlockError (Block Value) :=
  let place := fun v : Value => v.integer?.getD 0
  match keys.type with
  | .truth => g.block.filtered (keys.block.map fun v => ((v.quantity?).bind (·.bit?)).getD false)
  | .byte | .signed | .unsigned => g.block.gathered (keys.block.map place)
  | _ =>
    if isList && keys.block.entries.isEmpty then g.block.gathered (keys.block.map place)
    else .error .notPlaces

/-- The part of an array that a key tells. -/
def select (s : Session) (g : Grid) (key : Value) : Except DatumError Value := do
  let placed := fun places => do
    return ofBlock g.type (← (g.block.part places).mapError .block)
  let isPlace := fun i => Numeric.Element.fits true 64 i
  match widened? g key, key.integer?, key.content with
  | some c, _, _ => return .mk 0 c
  | none, some i, _ => if isPlace i then placed [i] else throw (.block .notAPlace)
  | none, none, .tuple items =>
    match items.mapM Value.integer? with
    | some places => if places.all isPlace then placed places else throw (.block .notAPlace)
    | none => throw (.block .notAPlace)
  | none, none, .array .. | none, none, .object .list => do
    let keys ← s.gridOf key
    return ofBlock g.type (← (selectBy g keys (key.isObject .list)).mapError .block)
  | none, none, _ => throw (.block .notAPlace)

end Milp.Session
