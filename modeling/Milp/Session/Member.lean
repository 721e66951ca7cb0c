import Milp.Session.KindPart

/-!
# Members

What a value has in common with all values of its kind: operations, the operations behind the
operators, and a few constants. What a value has of its own stands in front of all of that.
-/

namespace Milp.Session

/-! ### Looking for a property -/

/-- What a value has in common with all values of its kind under a name. -/
def shared? (s : Session) (v : Value) (key : String) : Option Value :=
  let bound := fun binding =>
    let self := if kindOperations.contains key then .mk 0 (.typeOf v.kind) else v
    some (.mk 0 (.bound binding key self))
  if (blanks v.content).contains key then some .null
  else if (methods v.content).contains key then bound .method
  else if (operators v.content).contains key then bound .operator
  else if (builtins v.content).contains key then bound .builtin
  else if commonOperators.contains key then bound .operator
  else if commonBuiltins.contains key then bound .builtin
  else if key = "__module__" then (moduleOf? v.kind.name).map s.constant
  else if key = "__weakref__" && hasRecord v.content then some .null
  else constant? s v.content key

/-- What a name of a value stands for, if it is another property of the same value. -/
def alias? (c : Content) (key : String) : Option String :=
  match c, key with
  | .var _, "value" => some "_value"
  | .object .expression, "linear" => some "_linear"
  | .object .expression, "constant" => some "_constant"
  | .sense _, "value" | .direction _, "value" => some "_value_"
  | .sense _, "name" | .direction _, "name" => some "_name_"
  | _, _ => none

/-- What a value shows of itself under a name in another form than it has it. -/
def derived? (s : Session) (v : Value) (key : String) : Option (Except DatumError Value) :=
  match v.content, key with
  | _, "__class__" => some (.ok (.mk 0 (.typeOf v.kind)))
  | .object .linear, "coeff" =>
    match s.own? v "_coeff" with
    | none => some (.error (lacking v "_coeff"))
    | some w =>
      if (s.mapping? w).isSome then some (.ok (.mk 0 (.view w)))
      else some (.error (.notAMapping w.kind.fullName))
  | .term .., "__new__" | .path _, "__new__" => some (.ok (.mk 0 (.sealed "function")))
  | .term factor _, "factor" => some (.ok factor)
  | .term _ x, "variable" => some (.ok x)
  | .quantity a, key => (quantityPart? v a key).map .ok
  | .array type block, "mT" =>
    some ((block.turnLast.mapError .block).map fun block => .mk 0 (.array type block))
  | .array type block, key => (arrayPart? v type block key).map .ok
  | .entryType t, key => (entryTypePart? v t key).map .ok
  | .path path, key => ((s.own? v key).orElse fun _ => pathPart? path key).map .ok
  | .typeOf kind, key => ((member? v key).map .ok).orElse fun _ => kindPart? s kind key
  | .code h, "_handle" => some (.ok (.ofNumber (.whole h)))
  | .bound binding name self, key => (operationPart? binding name self key).map .ok
  | _, _ => none

/-- The property of a value, as far as it need not be made first. -/
def peek (s : Session) (v : Value) (key : String) : Except DatumError Value :=
  match derived? s v key with
  | some r => r
  | none =>
    let key := (alias? v.content key).getD key
    match s.own? v key with
    | some w => .ok w
    | none =>
      match shared? s v key with
      | some w => .ok w
      | none => .error (lacking v key)

/-- What carries out an operation that a value is asked for by its name. -/
inductive Target where
  /-- The operation of the kind, on the value or on another one of its kind. -/
  | own (self : Value)
  /-- Another value, which is called. -/
  | other (f : Value)

/-- What carries out an operation when a value has something of its own under the name of it. That
may be the operation as it belongs to another value, or anything else. -/
def Target.ofOwn (name : String) (w : Value) : Target :=
  match w.content with
  | .bound .method given self => if given = name then .own self else .other w
  | _ => .other w

/-- What carries out an operation. -/
def target (s : Session) (v : Value) (name : String) : Except DatumError Target :=
  match s.own? v name with
  | none => if (methods v.content).contains name then .ok (.own v) else .other <$> s.peek v name
  | some w => .ok (.ofOwn name w)

/-- As `target`, where only an operation of the kind will do. -/
def receiver (s : Session) (v : Value) (name : String) : Except DatumError Value := do
  match ← s.target v name with
  | .own self => return self
  | .other f => throw (.notCallable f.kind.fullName)

end Milp.Session
