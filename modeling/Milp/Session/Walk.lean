import Milp.Session.State

/-!
# Walking through values

What a value is made of when it is walked through from its start, what it holds under the places
from zero on, and how the segments of a template alternate with its operands. A walk may end before
the value does, and then an error tells why.
-/

namespace Milp.Session

/-! ### Items -/

/-- A value lacks a property. What a method lacks, the function behind it lacks. -/
def lacking (v : Value) (key : String) : DatumError :=
  match v.content with
  | .typeOf kind =>
    if (members? v).isSome then .noMember key else .noPropertyOfKind kind.name key
  | .bound .method .. => .noProperty "function" key
  | _ => .noProperty v.kind.fullName key

/-- Bytes as integers. -/
def bytesAsValues (bytes : List Nat) : List Value :=
  bytes.map fun (b : Nat) => .ofNumber (.whole b)

/-- What a value holds under the places from zero on, and what ends them if it is not their end. -/
def numbered (s : Session) (v : Value) : List Value × Option DatumError :=
  match (s.items? v).orElse fun _ => v.rows?, s.mapping? v, v.text?, v.quantity? with
  | some items, _, _, _ => (items, none)
  | _, some fields, _, _ =>
    let at? := fun n : Nat =>
      (fields.find? fun f => f.1.key == .number n).map Prod.snd
    let missing := ((List.range fields.length).find? fun n => (at? n).isNone).getD fields.length
    ((List.range missing).filterMap at?, some (.missing (toString missing)))
  | _, _, some t, _ => (characters t, none)
  | _, _, none, none =>
    match v.bytes? with
    | some bytes => (bytesAsValues bytes, none)
    | none => ([], some (.notIndexed v.kind.fullName))
  | _, _, _, some a => ([], if a.kind.isElement then none else some (.notIndexed a.kind.fullName))

/-- The items that a value is made of as far as they can be had, and what ends them if it is not
their end: the items of a list, the characters of a text, the keys of a record, the terms of a
linear part, what the values of a solution hold under places. -/
def stroll (s : Session) (v : Value) : List Value × Option DatumError :=
  let items? := ((s.items? v).orElse fun _ => v.rows?).orElse fun _ => listed? v
  match items?, s.mapping? v, v.text?, s.object? v with
  | some items, _, _, _ => (items, none)
  | _, some fields, _, _ => (fields.map fun f => f.1.value, none)
  | _, _, some t, _ => (characters t, none)
  | _, _, _, some (.linear coefficients) =>
    match s.mapping? coefficients with
    | some fields => (fields.map Prod.snd, none)
    | none => ([], some (lacking coefficients "values"))
  | _, _, _, some (.solution _ values _) => s.numbered values
  | _, _, _, _ =>
    match v.content with
    | .bytes bytes => (bytesAsValues bytes, none)
    | .iterator _ items => (items.drop ((s.taken.lookup v.tag).getD 0), none)
    | c => ([], some (.notList c.kind.fullName))

/-- The items that a value is made of, each read by `read` before the next one is looked at. -/
def readItems {τ : Type} (s : Session) (v : Value) (read : Value → Except DatumError τ) :
    Except DatumError (List τ) := do
  let (items, stop) := s.stroll v
  let read ← items.mapM read
  match stop with
  | none => return read
  | some e => throw e

/-- All of the items that a value is made of. -/
def walk (s : Session) (v : Value) : Except DatumError (List Value) :=
  match s.stroll v with
  | (items, none) => .ok items
  | (_, some e) => .error e

/-! ### Segments and operands -/

/-- What a value holds under a place, if it has that many items. -/
def held (s : Session) (v : Value) (place : Nat) : Except DatumError (Option Value) := do
  let size ← s.lengthOf v
  if size ≤ place then return none
  match s.numbered v with
  | (items, e) =>
    match items[place]?, e with
    | some item, _ => return some item
    | none, some (.missing _) => throw (.missing (toString place))
    | none, some e => throw e
    | none, none => return none

/-- Segments, each with the operand after it if there is one, and why they end too early. -/
structure Layout where
  parts : List (Value × Option Value)
  stop : Option DatumError

/-- Puts operands after segments, the first of which has a place. -/
def layFrom (s : Session) (operands : Value) (place : Nat) (stop : Option DatumError) :
    List Value → Layout
  | [] => ⟨[], stop⟩
  | segment :: rest =>
    match s.held operands place with
    | .error e => ⟨[(segment, none)], some e⟩
    | .ok operand =>
      let layout := layFrom s operands (place + 1) stop rest
      { layout with parts := (segment, operand) :: layout.parts }

/-- How segments alternate with operands. -/
def layout (s : Session) (segments operands : Value) : Layout :=
  let (items, stop) := s.stroll segments
  s.layFrom operands 0 stop items

end Milp.Session
