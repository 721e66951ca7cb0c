import Milp.Session.Algebra

/-!
# Sources in a session

A source is a format string with its operands, a template, or an object in the shape of one. A
number or an expression that stands in a source stays the value that it is, so a source that is
nothing but one expression stands for that very expression.
-/

namespace Milp.Session

/-! ### Templates -/

/-- The items of a value as a tuple, which a tuple is already. -/
def tupleOf (v : Value) : Act Value := do
  match v.content with
  | .tuple _ => return v
  | _ => give (.tuple (← (← walkThrough v).mapM settle))

/-- A template of segments and operands. -/
def newTemplate (segments operands : Value) : Act Value := do
  let segments ← tupleOf segments
  let operands ← tupleOf operands
  let s ← get
  let count := ((s.items? segments).getD []).length
  let holes := ((s.items? operands).getD []).length
  if count ≠ holes + 1 then throw (.ofTemplate (.segments ⟨holes, count⟩))
  giveObject (.template segments operands)

/-- The template of a format string. A text without placeholders is the only segment itself. -/
def formatTemplate (source : Value) (operands : List Value) : Act Value := do
  let segments ← match source.text?.map Template.splitFormat with
    | some [_] => give (.tuple [source])
    | some segments => do give (.tuple (← segments.mapM giveText))
    | none => do call (← property source "split") [← giveConstant Template.placeholder]
  newTemplate segments (← give (.tuple operands))

/-- The segments and the values of anything in the shape of a template. The segments have to be in a
tuple. -/
def partsOf? (s : Session) (v : Value) : Option (Value × Value) := do
  let strings ← (s.peek v "strings").toOption
  let values ← (s.peek v "values").toOption
  match strings.content with
  | .tuple _ | .term .. => some (strings, values)
  | _ => none

/-- The value is something in the shape of a template. -/
def isTemplateString (s : Session) (v : Value) : Bool :=
  v.text?.isNone && !v.isObject .template && (s.partsOf? v).isSome

/-- The value can be read as a template. -/
def isSource (s : Session) (v : Value) : Bool :=
  v.text?.isSome || v.isObject .template || s.isTemplateString v

/-- The operands that come with a format string. -/
def spread (v : Value) : Act (List Value) := do
  match (← get).walk v with
  | .ok items => items.mapM settle
  | .error (.notList kind) => fail .kind ("Value after * must be an iterable, not " ++ kind)
  | .error e => throw (.ofDatum e)

/-- The template of a source and its operands; a template is its own. -/
def coerce (v operands : Value) : Act Value := do
  let s ← get
  let ready := v.isObject .template
  if v.text?.isSome then formatTemplate v (← spread operands)
  else if ready || s.isTemplateString v then
    if ← isTrue operands then throw (.ofTemplate .readyTemplate)
    match s.partsOf? v with
    | some (strings, values) => if ready then return v else newTemplate strings values
    | none => return v
  else throw (.ofTemplate (.notASource v.kind.name))

/-- The segments and the operands of a template. -/
def templateOf (v : Value) : Act (Value × Value) := do
  return (← property v "segments", ← property v "operands")

/-- A template with every operand written out. A single segment is that already. -/
def substituted (v : Value) : Act Value := do
  let (segments, operands) ← templateOf v
  let s ← get
  let text ← ofData (s.substitution segments operands)
  match s.layout segments operands with
  | ⟨[(segment, none)], none⟩ => return segment
  | _ => giveText text

/-- A template in writing, by what it says of itself with its operands written out. -/
def writtenOut (v : Value) : Act Value := invoke v "substituted" [] substituted

/-- A template writes its operands out in the way that all templates do. -/
def isWrittenPlainly (s : Session) (v : Value) : Bool :=
  match s.target v "substituted" with
  | .ok (.own self) => same self v
  | _ => false

/-- The form of a value in a message. A template may write itself in a way of its own. -/
def describe (v : Value) : Act String := do
  let s ← get
  if v.isObject .template && !s.isWrittenPlainly v then
    return templateText (← ofData (s.displayOf (← writtenOut v)))
  else ofData (s.displayOf v)

/-! ### Tokens -/

/-- What a token holds: a value, or a variable that was lifted to an expression. -/
inductive Payload where
  | value (v : Value)
  | lifted (e : Affine Filing Value)

/-- A payload as a value. -/
def Payload.give : Payload → Act Value
  | value v => settle v
  | lifted e => giveExpression e

/-- How payloads are written. -/
def Payload.writer (s : Session) : Writer Payload DatumError where
  display
    | value v => s.displayOf v
    | lifted e => ofName (e.display s.store.name)
  plain
    | value v => s.plainOf v
    | lifted e => ofName (e.display s.store.name)

/-- What stands in the place of a sign, as a value. -/
def giveWord : Word Payload → Act Value
  | .text s => giveText s
  | .other p _ | .undecided p _ => p.give

/-- A payload as an operand. -/
def Payload.operand (s : Session) : Payload → Operand Filing Value
  | value v => s.operandOf v
  | lifted e => .expression e

/-- A token with its payload as a value. -/
def settleToken (t : Token Payload) : Act (Token Value) := do
  let symbol ← match t.symbol with
    | .number p => Symbol.number <$> p.give
    | .expression p => Symbol.expression <$> p.give
    | .operator w => Symbol.operator <$> word w
    | .opening w => Symbol.opening <$> word w
    | .closing w => Symbol.closing <$> word w
    | .comparator w => Symbol.comparator <$> word w
  return ⟨symbol, t.place⟩
where
  word (w : Word Payload) : Act (Word Value) := do
    match w with
    | .text s => return .text s
    | .other p sign => return .other (← p.give) sign
    | .undecided p e => return .undecided (← p.give) e

/-- An operand as a token: numbers and expressions as they are, variables lifted. -/
def readOperand (s : Session) (v : Value) : Except Failure (Symbol Payload) :=
  if v.isObject .expression then .ok (.expression (.value v))
  else if s.isLoose v then .error (.ofDatum (lacking v "name"))
  else match s.operandOf v with
  | .number _ => .ok (.number (.value v))
  | o => ((o.lift s.store.name).map fun e => .expression (.lifted e)).mapError .ofAlgebra

/-- What stands in the place of a sign, if it is given as a value. -/
def wordFor (s : Session) (v : Value) : Word Payload :=
  match v.text?, ["*", "/", "+", "-"].findM? fun t => s.equals v (.ofText t) with
  | some t, _ => .text t
  | none, .ok sign => .other (.value v) (sign.getD "")
  | none, .error (.block e) => .undecided (.value v) e
  | none, .error _ => .other (.value v) ""

/-- A segment as a text. What has no items reads like a text without characters. -/
def segmentText (s : Session) (v : Value) : Except Failure String :=
  match v.text?, s.lengthOf v with
  | some t, _ => .ok t
  | none, .error e => .error (.ofDatum e)
  | none, .ok 0 => .ok ""
  | none, .ok _ =>
    .error (.plain .kind
      ("expected string or bytes-like object, got '" ++ v.kind.name ++ "'"))

/-- The tokens of segments and operands from a segment on. `source` is all of them in writing, and
`complete` tells whether an operand stands complete. -/
def tokensFrom (s : Session) (mode : Mode) (source : Except Failure String)
    (stop : Option DatumError) :
    (index : Nat) → (complete : Bool) → List (Value × Option Value) →
      Feed (Token Payload) (ScanError Failure) Unit
  | _, _, [] =>
    match stop with
    | none => .done ()
    | some e => .fail (.operand (.ofDatum e))
  | index, complete, (segment, operand) :: rest =>
    match s.segmentText segment with
    | .error e => .fail (.operand e)
    | .ok text =>
      let literal := fun n : Numeral => Payload.value (.ofNumber n.value)
      ((scanSegment mode literal index 0 complete 0 text.toList).mapError
        (.ofChar source text)).andThen fun complete =>
          match operand.map s.readOperand with
          | none => tokensFrom s mode source stop (index + 1) complete rest
          | some (.error e) => .fail (.operand e)
          | some (.ok symbol) =>
            .next ⟨symbol, ⟨some index, none⟩⟩ (tokensFrom s mode source stop (index + 1) true rest)

/-- The tokens of a template. -/
def tokens (s : Session) (mode : Mode) (segments operands : Value) :
    Feed (Token Payload) (ScanError Failure) Unit :=
  let layout := s.layout segments operands
  s.tokensFrom mode ((s.substitution segments operands).mapError .ofDatum) layout.stop 0 false
    layout.parts

/-- A failure of scanning a template, which tells all of it. -/
def failScan (template : Value) : ScanError Failure → Act Failure
  | .operand e => return e
  | .lexical e => do
    if (← get).isWrittenPlainly template then return .ofLexical e
    let source ← writtenOut template
    match source.text? with
    | some source => return .ofLexical { e with source }
    | none => do
      let source ← ofData ((← get).plainOf source)
      return .ofLexical { e with source }

/-! ### Trees -/

/-- A tree as a value. -/
def giveTree : Tree Payload → Act Value
  | .literal p => do give (.literal (← p.give))
  | .leaf p => do give (.leaf (← p.give))
  | .binary op left right => do
    let left ← giveTree left
    let right ← giveTree right
    give (.operation (← giveWord op) left right)

/-- The result of reading tokens. -/
def ofReading {ε τ : Type} (f : ε → Act Failure) : Except (ReadError ε Payload) τ → Act τ
  | .ok x => return x
  | .error (.feed e) => do throw (← f e)
  | .error (.grammar e) => do
    throw (.ofGrammar e (e.message (Payload.writer (← get))) (← e.token?.mapM settleToken))

/-- The tree of a feed of tokens, or both trees with the comparator between them. -/
def parse {ε : Type} (f : ε → Act Failure) (mode : Mode) (feed : Feed (Token Payload) ε Unit) :
    Act Value := do
  match mode with
  | .expression => do giveTree (← ofReading f (Tree.ofFeed feed))
  | .constraint => do
    let c ← ofReading f (Comparison.ofFeed feed)
    let left ← giveTree c.left
    let right ← giveTree c.right
    give (.comparison left (← giveWord c.comparator) right)

/-- The tree of a template. -/
def parseTemplate (mode : Mode) (v : Value) : Act Value := do
  let (segments, operands) ← templateOf v
  parse (failScan v) mode ((← get).tokens mode segments operands)

/-- The tree that a value is. Its leaves are what they hold as operands, and what is no tree is
known for that. -/
def treeOf (s : Session) : Value → Tree (Except AlgebraError (Operand Filing Value))
  | .mk _ (.literal v) => .literal (.ok (s.operandOf v))
  | .mk _ (.leaf v) => .leaf (.ok (s.operandOf v))
  | .mk _ (.operation op left right) =>
    .binary (.text (s.wordOf op)) (treeOf s left) (treeOf s right)
  | v => .leaf (.error (.notATree (s.shownOf v)))

/-- Some leaf of a tree is a loose expression, or no text stands in the place of an operator. -/
def hasLooseLeaf (s : Session) : Value → Bool
  | .mk _ (.literal v) | .mk _ (.leaf v) => s.isLoose v
  | .mk _ (.operation op left right) =>
    op.text?.isNone || hasLooseLeaf s left || hasLooseLeaf s right
  | _ => false

/-- An operation of a tree on two values. -/
def applyLoosely (op left right : Value) : Act Value := do
  let numbers := fun o => operate o left right
  let refuse := fun e => throw (.ofAlgebra e)
  let s ← get
  let sign ← ofData (["+", "-", "*", "/"].findM? fun t => s.equals op (.ofText t))
  match sign, left.number?.isSome, right.number?.isSome with
  | some "+", true, true => numbers .sum
  | some "+", _, _ => combine .add left right
  | some "-", true, true => numbers .difference
  | some "-", _, _ => combine .sub left right
  | some "*", true, true => numbers .product
  | some "*", true, false => combine .scale left right
  | some "*", false, true => combine .scale right left
  | some "*", false, false => refuse .nonLinearProduct
  | some "/", _, false => refuse .nonConstantDivisor
  | some "/", true, true => numbers .quotient
  | some "/", false, true => combine .divide left right
  | _, _, _ => do refuse (.unknownOperator (← ofData ((← get).plainOf op)))

/-- The value of a tree, step by step. -/
def evaluateLoosely : Value → Act Value
  | .mk _ (.literal v) | .mk _ (.leaf v) => return v
  | .mk _ (.operation op left right) => do
    let l ← evaluateLoosely left
    let r ← evaluateLoosely right
    applyLoosely op l r
  | v => do throw (.ofAlgebra (.notATree (← ofData ((← get).displayOf v))))

/-- The value of a tree. -/
def evaluateTree (v : Value) : Act Value := do
  let s ← get
  match v.content with
  | .literal w | .leaf w => return w
  | _ =>
    if s.hasLooseLeaf v then evaluateLoosely v
    else giveOperand (← ofExcept .ofAlgebra ((s.treeOf v).evaluateWith s.store.name id))

/-! ### Expressions of sources -/

/-- The expression that is all that a tree consists of. -/
def soleLeaf? : Tree Payload → Option Value
  | .leaf (.value v) => some v
  | _ => none

/-- The expression that is all that a template consists of. -/
def soleOperand? (s : Session) (segments operands : Value) : Option Value :=
  match Tree.ofFeed (s.tokens .expression segments operands) with
  | .ok tree => soleLeaf? tree
  | .error _ => none

/-- As `soleOperand?`, for the two sides of a constraint. -/
def soleSides? (s : Session) (segments operands : Value) : Option Value × Option Value :=
  match Comparison.ofFeed (s.tokens .constraint segments operands) with
  | .ok c => (soleLeaf? c.left, soleLeaf? c.right)
  | .error _ => (none, none)

/-- An expression out of the algebra, unless it is one that there is already. -/
def giveUnless (sole : Option Value) (e : Affine Filing Value) : Act Value :=
  match sole with
  | some v => return v
  | none => giveExpression e

/-- The template that segments and operands make when the segments are texts and one more than the
operands, and when it is written as all templates are. -/
def template? (s : Session) (v segments operands : Value) :
    Option (Template (Operand Filing Value)) := do
  if !s.isWrittenPlainly v then none
  let texts ← (← s.items? segments).mapM Value.text?
  let operands ← s.items? operands
  if operands.any s.isLoose then none
  (Template.ofParts? texts (operands.map s.operandOf)).toOption

/-- The line that a log has on the evaluation of a template. -/
def log (template result : Value) : Act Unit := do
  discard (describe template)
  discard (ofData ((← get).displayOf result))

/-- The expression that segments and operands stand for when they make no template. -/
def evaluateLoose (template segments operands : Value) : Act Value := do
  let tree ← parse (failScan template) .expression
    ((← get).tokens .expression segments operands)
  let e ← lift (← evaluateTree tree)
  log template e
  return e

/-- The two sides of a constraint and the comparator between them, where segments and operands make
no template. -/
def evaluateLooseConstraint (template segments operands : Value) :
    Act (Value × Value × Value) := do
  let tree ← parse (failScan template) .constraint
    ((← get).tokens .constraint segments operands)
  match tree.content with
  | .comparison left comparator right => do
    let left ← lift (← evaluateTree left)
    let right ← lift (← evaluateTree right)
    return (left, comparator, right)
  | _ => return (tree, Value.null, Value.null)

/-- The constraint that a value is, if its expression is one. -/
def constraint? (s : Session) (v : Value) : Option (Constraint Filing Value) :=
  match s.object? v with
  | some (.constraint e equality) => do
    return ⟨← s.plainAffine? e, ← (s.truthOf equality).toOption⟩
  | _ => none

/-- The expression that a template stands for. -/
def evaluateTemplate (v : Value) : Act Value := do
  let (segments, operands) ← templateOf v
  let s ← get
  match s.template? v segments operands with
  | some template => do
    let e ← ofSource (template.evaluate s.store.name)
    let e ← giveUnless (s.soleOperand? segments operands) e
    log v e
    return e
  | none => evaluateLoose v segments operands

/-- The two sides of the constraint that a template stands for, with the comparator between them. -/
def sidesOf (v : Value) : Act (Value × Value × Value) := do
  let (segments, operands) ← templateOf v
  let s ← get
  match s.template? v segments operands with
  | some template => do
    let (left, comparator, right) ← ofSource (template.evaluateConstraint s.store.name)
    let (soleLeft, soleRight) := s.soleSides? segments operands
    let left ← giveUnless soleLeft left
    let right ← giveUnless soleRight right
    return (left, ← giveText comparator, right)
  | none => evaluateLooseConstraint v segments operands

/-- The two sides of a constraint and the comparator, as a tuple. -/
def evaluateConstraint (v : Value) : Act Value := do
  let (left, comparator, right) ← sidesOf v
  give (.tuple [left, comparator, right])

/-- The expression that a source or a value stands for. A value takes no operands. -/
def evaluateSource (refusal : SourceError Filing Value) (source : Value) (operands : List Value) :
    Act Value := do
  if (← get).isSource source then
    evaluateTemplate (← coerce source (← give (.tuple operands)))
  else if operands.isEmpty then lift source
  else failSource refusal

/-- The constraint that is meant: a constraint as it is, a left side with the text of a comparator
and a right side, or a source. -/
def readConstraint (source : Value) (operands : List Value) : Act Value := do
  let isSource := (← get).isSource source
  match operands, source.isObject .constraint, isSource with
  | [], true, _ => return source
  | [sense, right], _, false =>
    if sense.text?.isSome then compare source sense right
    else throw (.ofTemplate (.notASource source.kind.name))
  | _, _, _ => do
    let (left, sense, right) ← sidesOf (← coerce source (← give (.tuple operands)))
    compare left sense right

end Milp.Session
