import Milp.Numeric.Columns
import Milp.Session.Identity

/-!
# Values in writing

The form of a value in a message, which tells its kind, and the form of a value that stands alone,
where a text is itself. Objects are written as they are at present, so writing is given fuel for the
objects that one object holds.
-/

namespace Milp.Session

/-- A name in a sum or a source as an error of data. -/
def ofName {τ : Type} (r : Except NameError τ) : Except DatumError τ := r.mapError .name

/-- An operation of a tree in writing. -/
def operationText (op left right : String) : String :=
  "BinaryOp(op=" ++ op ++ ", left=" ++ left ++ ", right=" ++ right ++ ")"

/-- A comparison in writing. -/
def comparisonText (left comparator right : String) : String :=
  "Comparison(left=" ++ left ++ ", comparator=" ++ comparator ++ ", right=" ++ right ++ ")"

/-- The text of a tuple of written items. -/
def tupleText : List String → String
  | [s] => "(" ++ s ++ ",)"
  | items => "(" ++ joined ", " items ++ ")"

/-- How a value stands in a source: an expression shows only as a placeholder. -/
def inSource (s : Session) (v : Value) : Except DatumError Piece :=
  match v.content with
  | .var x => do
    discard (s.peek v "name")
    return .ofName (s.store.name x)
  | .quantity (.number n) => do return .text (← n.writtenOut.mapError .scalar).toList
  | _ => .ok (.text "<exp>".toList)

/-- The text of a value as a segment of a template. -/
def segmentPiece (v : Value) : Piece :=
  match v.text? with
  | some t => .text t.toList
  | none => .bare v.kind.fullName ""

/-- A template in writing, with all of its operands written out. -/
def templateText (written : String) : String := "Template(" ++ written ++ ")"

/-- A template with every operand written out. -/
def substitution (s : Session) (segments operands : Value) : Except DatumError String := do
  let layout := s.layout segments operands
  let pieces ← layout.parts.mapM fun p => do
    return segmentPiece p.1 :: (← p.2.toList.mapM (inSource s))
  if let some e := layout.stop then throw e
  String.ofList <$> ofName (Piece.join 0 pieces.flatten)

/-- The name and the factor of a term. -/
def namedTerm (s : Session) (term : Value) : Except DatumError (Value × Value) := do
  let name ← s.peek (← s.peek term "variable") "name"
  return (name, ← s.peek term "factor")

/-- The names and the factors of the terms that a value is made of. -/
def namedTerms (s : Session) (v : Value) : Except DatumError (List (Value × Value)) :=
  s.readItems v s.namedTerm

/-- A factor or a constant as it stands in a sum: what is no number is there in writing. -/
def inSum (write : Value → Except DatumError String) (v : Value) : Except DatumError Value :=
  match v.quantity? with
  | some a => do
    discard (a.toText.mapError .scalar)
    return v
  | none => Value.ofText <$> write v

/-- As `inSum`, for an array, which may be equal to one of some integers. -/
def arrayInSum (s : Session) (write : Value → Except DatumError String) (v : Value)
    (integers : List Int) : Except DatumError Value := do
  if !v.isArray then inSum write v
  else
    match ← integers.findM? fun n => s.equals v (.ofNumber (.whole n)) with
    | some n => return .ofNumber (.whole n)
    | none => inSum write v

/-- A constant as it stands in a sum of as many terms. -/
def constantInSum (s : Session) (write : Value → Except DatumError String) (count : Nat)
    (v : Value) : Except DatumError Value := do
  let constant ← s.arrayInSum write v [0]
  if count = 0 && v.isArray then inSum write v else return constant

/-- A term as it stands in a sum. -/
def termInSum (s : Session) (write : Value → Except DatumError String) (name factor : Value) :
    Except DatumError (Filing × Value) := do
  let factor ← if factor.isArray then s.arrayInSum write factor [1, -1] else pure factor
  let written ← if name.text?.isSome || Scalar.is factor 1 then .ok name.written else write name
  return (.of name written "", ← inSum write factor)

/-- A kind in writing, as a type. -/
def typeText (kind : Kind) : String :=
  if ["Sense", "ConstraintSense", "Enum"].contains kind.name then "<enum '" ++ kind.name ++ "'>"
  else
    "<class '" ++ ((moduleOf? kind.name).map (· ++ "." ++ kind.name)).getD kind.fullName ++ "'>"

/-- A type of entries in writing. -/
def entryTypeText (t : Numeric.EntryType) : String :=
  "dtype(" ++ Text.quoted (if t = .any then "O" else t.name) ++ ")"

/-- The words for the entries of an array, of which `write` writes those that are no numbers. -/
def entryWords (write : Value → Except DatumError String) (type : Numeric.EntryType)
    (entries : List Value) : Except DatumError (List String) :=
  match type with
  | .double => .ok (Numeric.doubleWords (entries.map fun v =>
      ((v.number?.map Number.toDouble).bind Except.toOption).getD 0))
  | .truth | .byte | .signed | .unsigned => .ok (Numeric.alignedWords (entries.map Value.written))
  | .text _ | .any => do
    let words ← entries.mapM fun v => do
      let word ← write v
      return if v.isObject .list then "list(" ++ word ++ ")" else word
    if words.any String.isEmpty then throw (.block .noWord)
    return words

/-- The kind for which an operation was defined. -/
def definingKind (name : String) (self : Value) : String :=
  match self.content with
  | .typeOf kind => kind.name
  | .var _ | .object .expression =>
    if affineOperators.contains name then "_AffineOperators" else self.kind.name
  | _ => self.kind.name

mutual

/-- The form of a value in a message. Lists and records that the value is inside of are given by their
tags. -/
def display (s : Session) : (fuel : Nat) → (inside : List Nat) → Value → Except DatumError String
  | 0, _, _ => .ok "..."
  | fuel + 1, inside, v =>
    match v.content with
    | .quantity (.number (.whole n)) => (Number.whole n).writtenOut.mapError .scalar
    | .tuple items => do return tupleText (← items.mapM (display s fuel inside))
    | .sense t =>
      .ok ("<ConstraintSense." ++ memberName v.content ++ ": " ++ Text.quoted t.text ++ ">")
    | .direction d => .ok ("<Sense." ++ memberName v.content ++ ": " ++ Text.quoted d.text ++ ">")
    | .var _ => do return Variable.textOf (← plain s fuel inside (← s.peek v "name"))
    | .term factor x => do
      return "Term(factor=" ++ (← display s fuel inside factor) ++ ", variable=" ++
        (← display s fuel inside x) ++ ")"
    | .literal w => do return "Literal(value=" ++ (← display s fuel inside w) ++ ")"
    | .leaf w => do return "ExpressionLeaf(expression=" ++ (← display s fuel inside w) ++ ")"
    | .operation op l r => do
      return operationText (← display s fuel inside op) (← display s fuel inside l) (← display s fuel inside r)
    | .comparison l c r => do
      return comparisonText (← display s fuel inside l) (← display s fuel inside c) (← display s fuel inside r)
    | .library _ => do
      if ← s.truthOf (← s.peek v "_closed") then return libraryText none
      return libraryText (some (← plain s fuel inside (← s.peek v "binary_path")))
    | .path t => .ok ("PosixPath(" ++ Text.quoted t ++ ")")
    | .roll "_PathParents" _ => .ok "<PosixPath.parents>"
    | .roll kind items => do
      return kind ++ "([" ++ joined ", " (← items.mapM (display s fuel inside)) ++ "])"
    | .view fields => do return "mappingproxy(" ++ (← plain s fuel inside fields) ++ ")"
    | .typeOf kind => .ok (typeText kind)
    | .bound .method name self => do
      return "<bound method " ++ definingKind name self ++ "." ++ name ++ " of " ++
        (← display s fuel inside self) ++ ">"
    | .sealed kind => .ok ("<" ++ kind ++ ">")
    | .entryType t => .ok (entryTypeText t)
    | .array type block => do
      let shown := Numeric.excerpt block
      let words ← entryWords (display s fuel inside) type shown.entries
      return Numeric.blockDisplay type block.shape ⟨shown.shape, words⟩
    | .object _ =>
      match s.object? v with
      | some o => displayObject s fuel inside v o
      | none => .ok v.shown
    | _ => .ok v.shown

/-- The form of an object in a message. -/
def displayObject (s : Session) : (fuel : Nat) → (inside : List Nat) → Value → Object →
    Except DatumError String
  | 0, _, _, _ => .ok "..."
  | fuel + 1, inside, v, o =>
    let within := display s fuel (v.tag :: inside)
    let sum := fun terms => terms.mapM fun t : Value × Value => s.termInSum (plain s fuel inside) t.1 t.2
    match o with
    | .list items => do
      if inside.contains v.tag then return "[...]"
      return "[" ++ joined ", " (← items.mapM within) ++ "]"
    | .record _ | .properties _ => do
      if inside.contains v.tag then return "\x7b...\x7d"
      let fields ← ((s.fields? v).getD []).mapM fun f => do
        return (← within f.1.value) ++ ": " ++ (← within f.2)
      return "\x7b" ++ joined ", " fields ++ "\x7d"
    | .linear _ => do ofName (linearText (← sum (← s.namedTerms v)))
    | .expression .. => do
      let linear ← s.peek v "_linear"
      let constant ← s.peek v "_constant"
      let terms ← sum (← s.namedTerms linear)
      ofName (expressionText terms (← s.constantInSum (plain s fuel inside) terms.length constant))
    | .constraint .. => do
      let equality ← s.truthOf (← s.peek v "is_equality")
      let e ← s.peek v "expression"
      let linear ← s.peek e "linear"
      let constant ← s.peek e "constant"
      let terms ← sum (← s.namedTerms linear)
      let constant ← s.constantInSum (plain s fuel inside) terms.length constant
      ofName (constraintText terms constant equality)
    | .template .. => do
      let t ← s.receiver v "substituted"
      let text ← s.substitution (← s.peek t "segments") (← s.peek t "operands")
      return templateText (Text.quoted text)
    | .options o => o.display (plain s fuel inside)
    | .solution .. => do
      return "Solution(status='" ++ (← plain s fuel inside (← s.peek v "status")) ++ "', objective=" ++
        (← plain s fuel inside (← s.peek v "objective")) ++ ", n_vars=" ++
        toString (← s.lengthOf (← s.peek v "values")) ++ ")"
    | .problem _ => do
      return "Problem(name='" ++ (← plain s fuel inside (← s.peek v "name")) ++ "', variables=" ++
        toString (← s.lengthOf (← s.peek v "_variables")) ++ ", constraints=" ++
        toString (← s.lengthOf (← s.peek v "constraints")) ++ ")"
    | .recorder .. | .engine _ => .ok v.shown

/-- The form of a value that stands alone. -/
def plain (s : Session) : (fuel : Nat) → (inside : List Nat) → Value → Except DatumError String
  | 0, _, _ => .ok "..."
  | fuel + 1, inside, v =>
    match v.content with
    | .text t => .ok t
    | .quantity a => a.toText.mapError .scalar
    | .sense _ => .ok ("ConstraintSense." ++ memberName v.content)
    | .direction _ => .ok ("Sense." ++ memberName v.content)
    | .path t => .ok t
    | .view fields => plain s fuel inside fields
    | .entryType t => .ok t.name
    | .array type block => do
      let shown := Numeric.excerpt block
      let words ← entryWords (display s fuel inside) type shown.entries
      return Numeric.blockText block.shape ⟨shown.shape, words⟩
    | _ => display s fuel inside v

end

/-- The form of a value in a message. -/
def displayOf (s : Session) (v : Value) : Except DatumError String := display s s.fuel [] v

/-- The form of a value that stands alone. -/
def plainOf (s : Session) (v : Value) : Except DatumError String := plain s s.fuel [] v

/-- As `plainOf`, where a form is needed in any case. -/
def wordOf (s : Session) (v : Value) : String := (s.plainOf v).toOption.getD v.written

/-- As `displayOf`, where a form is needed in any case. -/
def shownOf (s : Session) (v : Value) : String := (s.displayOf v).toOption.getD v.shown

/-- A value as something is filed under it. -/
def filing (s : Session) (v : Value) : Filing := .of v (s.wordOf v) (s.shownOf v)

end Milp.Session
