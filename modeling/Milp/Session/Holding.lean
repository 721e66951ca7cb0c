import Milp.Session.Evaluation
import Milp.Session.Formatting
import Milp.Session.Ordering
import Milp.Session.Signature
import Milp.Session.Wording

/-!
# Operations of lists and records

What the operations of lists, tuples, records and iterators do when they are called by their names.
Lists and records change, and every value that refers to one sees the change.
-/

namespace Milp.Session

/-! ### Iterators -/

/-- The kind of what goes through the items of a value. -/
def iteratorKind (v : Value) : String :=
  match v.content with
  | .text t => if (Text.points t).all (· < 128) then "str_ascii_iterator" else "str_iterator"
  | .object .record | .view _ | .roll "dict_keys" _ => "dict_keyiterator"
  | .object .linear | .roll "dict_values" _ => "dict_valueiterator"
  | .roll "_PathParents" _ => "generator"
  | .roll .. => "dict_itemiterator"
  | .array .. => "iterator"
  | .typeOf _ => "generator"
  | .term .. => "tuple_iterator"
  | c => c.kind.name ++ "_iterator"

/-- Goes through the items of a value. -/
def iterate (v : Value) : Act Value := do
  if v.content matches .iterator .. then return v
  give (.iterator (iteratorKind v) (← ofData ((← get).walk v)))

/-- As `iterate`, from the last item on. -/
def iterateBack (v : Value) : Act Value := do
  let items ← ofData ((← get).walk v)
  let kind := match v.content with
    | .object .record | .view _ | .roll "dict_keys" _ => "dict_reversekeyiterator"
    | .roll "dict_values" _ => "dict_reversevalueiterator"
    | .roll .. => "dict_reverseitemiterator"
    | c => c.kind.name ++ "_reverseiterator"
  give (.iterator kind items.reverse)

/-- The next item of an iterator. -/
def nextItem (v : Value) : Act Value := do
  match ← ofData ((← get).walk v) with
  | [] => fail .exhausted ""
  | x :: _ => do
    takeItems v 1
    settle x

/-! ### Records -/

/-- Changes the fields of a record, which may be all that a value has of its own. -/
def setFields (v : Value) (fields : List (Filing × Value)) : Act Unit := do
  match (← get).object? v with
  | some (.properties owner) => replaceOwn owner v fields
  | _ => put v.tag (.record fields)

/-- The present fields of a record. -/
def presentFields (v : Value) : Act (List (Filing × Value)) := do
  return ((← get).mapping? v).getD []

/-- Puts the fields of another record into a record, or what pairs say, one after the other. -/
def updateFields (v other : Value) : Act Unit := do
  let put := fun (fields : List (Filing × Value)) (added : List (Filing × Value)) =>
    setFields v (added.foldl (fun fields f => setField f.1 f.2 fields) fields)
  match (← get).mapping? other with
  | some added => do put (← presentFields v) added
  | none => do
    let pairs ← walkThrough other
    pairs.zipIdx.forM fun p => do
      put [] (← filePair (← presentFields v) p.2 p.1)

/-- A record without a field. -/
def removeField (v : Value) (fields : List (Filing × Value)) (f : Filing) : Act Unit :=
  setFields v (fields.filter fun g => !(g.1 == f))

/-- The fields of a record with those of another one. -/
def joinedFields (first second : List (Filing × Value)) : Act Value :=
  giveRecord (second.foldl (fun fields f => setField f.1 f.2 fields) first)

/-- A record with the same value under every key. -/
def recordOfKeys (keys value : Value) : Act Value := do
  let keys ← walkThrough keys
  giveRecord (← keys.foldlM (fun fields key => do return setField (← keyOf key) value fields) [])

/-- An operation of a record with the given fields. -/
def operateRecord (v : Value) (fields : List (Filing × Value)) (name : String)
    (args : List Value) : Act Value := do
  let roll : String → List Value → Act Value := fun kind items => give (.roll kind items)
  let key := args.headD Value.null
  let other := args.getD 1 Value.null
  let withKey : (Value → Act Value) → (Filing → Act Value) → Act Value := fun there missing => do
    let f ← keyOf key
    match fields.lookup f with
    | some x => there x
    | none => missing f
  let nothing := fun act : Act Unit => do
    act
    return Value.null
  match name with
  | "get" => withKey pure fun _ => return other
  | "__getitem__" => withKey pure fun f => fail .key f.shown
  | "__contains__" => withKey (fun _ => giveTruth true) fun _ => giveTruth false
  | "keys" => roll "dict_keys" (fields.map (·.1.value))
  | "values" => roll "dict_values" (fields.map Prod.snd)
  | "items" => do
    roll "dict_items" (← fields.mapM fun f => give (.tuple [f.1.value, f.2]))
  | "copy" => giveRecord fields
  | "clear" => nothing (setFields v [])
  | "setdefault" => withKey pure fun f => do
    setFields v (setField f other fields)
    return other
  | "pop" => do
    let take := fun x => do
      removeField v fields (← keyOf key)
      return x
    withKey take fun f => if args.length = 2 then return other else fail .key f.shown
  | "popitem" => do
    match fields.getLast? with
    | some f => do
      setFields v fields.dropLast
      give (.tuple [f.1.value, f.2])
    | none => fail .key "'popitem(): dictionary is empty'"
  | "update" => if args.isEmpty then return Value.null else nothing (updateFields v key)
  | "__setitem__" => nothing do setFields v (setField (← keyOf key) other fields)
  | "__delitem__" => do
    let remove := fun _ => nothing do removeField v fields (← keyOf key)
    withKey remove fun f => fail .key f.shown
  | "__ior__" => do
    updateFields v key
    return v
  | "__reversed__" => iterateBack v
  | _ => return Value.null

/-- A union of two records. What only shows the fields of a record is taken for that record, and
then the union is asked of the records themselves. -/
def union (v other : Value) (isReversed : Bool) : Act Value := do
  let s ← get
  let shown := fun w : Value => match w.content with
    | .view fields => fields
    | _ => w
  let isView := v.content matches .view _
  let other := if isView then shown other else other
  match s.mapping? v, other.isObject .record, s.mapping? other with
  | some xs, true, some ys => if isReversed then joinedFields ys xs else joinedFields xs ys
  | _, _, _ =>
    if !isView then noResult
    else
      let kinds := ("dict", other.kind.fullName)
      let kinds := if isReversed then kinds.swap else kinds
      fail .kind (unsupportedText "|" kinds.1 kinds.2)

/-! ### Lists and tuples -/

/-- The place of the first item that is equal to a value. -/
def placeOf? (x : Value) : (place : Nat) → List Value → Act (Option Nat)
  | _, [] => return none
  | place, y :: rest => do
    if ← matchesItem y x then return some place else placeOf? x (place + 1) rest

/-- How many of the items are equal to a value. -/
def countOf (x : Value) (items : List Value) : Act Value := do
  giveInteger (← items.filterM (matchesItem · x)).length

/-- As `placeOf?`, between two places that may be given. -/
def placeAmong? (items args : List Value) : Act (Option Nat) := do
  let place := fun (v? : Option Value) (default : Int) => match v?, v?.bind Value.integer? with
    | none, _ => return default
    | some _, some i => return if i < 0 then max 0 (i + items.length) else i
    | some _, none =>
      fail .kind "slice indices must be integers or have an __index__ method"
  let first ← place args[1]? 0
  let last ← place args[2]? items.length
  placeOf? (args.headD Value.null) first.toNat ((items.take last.toNat).drop first.toNat)

/-- The place that a key means in a list, for what changes the list there. -/
def placeToChange (items : List Value) (key : Value) : Act Nat := do
  match key.integer? with
  | none => fail .kind ("list indices must be integers or slices, not " ++ key.kind.fullName)
  | some i => do
    if !Numeric.Element.fits true 64 i then
      fail .place ("cannot fit '" ++ key.kind.fullName ++ "' into an index-sized integer")
    let place := if i < 0 then i + items.length else i
    if 0 ≤ place ∧ place < items.length then return place.toNat
    fail .place "list assignment index out of range"

/-- The first value comes before the second one. -/
def isBelow (x y : Value) : Act Bool := do isTrue (← order .below x y)

/-- The place of a value among values in order, behind those that are not greater. The fuel is used
up by one for every step. -/
def placeInOrder (x : Value) (items : List Value) : (fuel first last : Nat) → Act Nat
  | 0, first, _ => return first
  | fuel + 1, first, last => do
    if last ≤ first then return first
    let middle := first + (last - first) / 2
    match items[middle]? with
    | none => return first
    | some y => do
      if ← isBelow x y then placeInOrder x items fuel first middle
      else placeInOrder x items fuel (middle + 1) last

/-- The length of the row at the start of some items that is in order, or in the opposite order
without equal items; which of the two is known. -/
def runLength (isFalling : Bool) : List Value → Act Nat
  | x :: y :: rest => do
    if (← isBelow y x) = isFalling then return (← runLength isFalling (y :: rest)) + 1 else return 1
  | items => return items.length

/-- Brings the items of a list in order; equal ones stay in the order in which they are. If two of
them have no order, the list is left as far as it is. -/
def sortItems (v : Value) (items : List Value) : Act Unit := do
  match items with
  | x :: y :: _ => do
    let isFalling ← isBelow y x
    let count ← runLength isFalling items
    let run := items.take count
    let start := if isFalling then run.reverse else run
    insertAll start (items.drop count)
  | _ => return ()
where
  /-- Puts the rest of the items into the ones that are in order. -/
  insertAll (done : List Value) : List Value → Act Unit
    | [] => put v.tag (.list done)
    | x :: rest => do
      let place ← tryCatch (placeInOrder x done done.length.succ 0 done.length) fun f => do
        put v.tag (.list (done ++ x :: rest))
        throw f
      insertAll (done.take place ++ x :: done.drop place) rest

/-- An operation of a list. -/
def operateList (v : Value) (items : List Value) (name : String) (args : List Value) :
    Act Value := do
  let x := args.headD Value.null
  let y := args.getD 1 Value.null
  let change : List Value → Act Value := fun items => do
    put v.tag (.list items)
    return Value.null
  match name with
  | "append" => change (items ++ [x])
  | "extend" => do change (items ++ (← (← walkThrough x).mapM settle))
  | "copy" => giveList items
  | "clear" => change []
  | "reverse" => change items.reverse
  | "count" => countOf x items
  | "__getitem__" => itemAt v x
  | "__setitem__" => do change (items.set (← placeToChange items x) y)
  | "__delitem__" => do change (items.eraseIdx (← placeToChange items x))
  | "__iadd__" => do
    discard (change (items ++ (← (← walkThrough x).mapM settle)))
    return v
  | "__imul__" => do
    let n ← indexOf x
    discard (change (← ofExcept .ofScalar (Value.copies items n)))
    return v
  | "__reversed__" => iterateBack v
  | "sort" => do
    sortItems v items
    return Value.null
  | "index" => do
    match ← placeAmong? items args with
    | some i => giveInteger i
    | none => do fail .value ((← ofData ((← get).displayOf x)) ++ " is not in list")
  | "remove" => do
    match ← placeOf? x 0 items with
    | some i => change (items.eraseIdx i)
    | none => fail .value "list.remove(x): x not in list"
  | "pop" => do
    let i ← (args.head?.map sizeGiven).getD (pure (-1))
    let place := if i < 0 then i + items.length else i
    match items[place.toNat]?, decide (0 ≤ place) with
    | some y, true => do
      discard (change (items.eraseIdx place.toNat))
      return y
    | _, _ => fail .place (if items.isEmpty then "pop from empty list" else "pop index out of range")
  | "insert" => do
    let i ← sizeGiven x
    let place := min (if i < 0 then i + items.length else i).toNat items.length
    change (items.take place ++ [y] ++ items.drop place)
  | _ => return Value.null

/-- An operation of a tuple. -/
def operateTuple (v : Value) (items : List Value) (name : String) (args : List Value) :
    Act Value := do
  match name with
  | "count" => countOf (args.headD Value.null) items
  | "index" => do
    match ← placeAmong? items args with
    | some i => giveInteger i
    | none => fail .value "tuple.index(x): x not in tuple"
  | "__getnewargs__" => do give (.tuple [v])
  | _ => return Value.null

end Milp.Session
