import Milp.Session.Evaluation
import Milp.Session.Identity
import Milp.Session.Selection

/-!
# Values that hold others

The items of a value, what is in it, and what it holds under a key: a key of a record, the name of a
variable of a solution, or a place of a list.
-/

namespace Milp.Session

/-- The number of items. -/
def sizeOf (v : Value) : Act Value := do giveInteger (← ofData ((← get).lengthOf v))

/-- The items as a list. -/
def itemsOf (v : Value) : Act Value := do
  let items ← walkThrough v
  giveList (← items.mapM settle)

/-- The first of the texts is a part of the second one. -/
def isPartOf (part whole : String) : Bool := mentions (Text.points whole) (Text.points part)

/-- The item is one of the bytes, or bytes among which it is. -/
def isAmongBytes (item : Value) (bytes : List Nat) : Act Bool := do
  match item.bytes?, item.integer? with
  | some part, _ => return mentions bytes part
  | none, some n =>
    if 0 ≤ n ∧ n < 256 then return bytes.contains n.toNat
    else fail .value "byte must be in range(0, 256)"
  | none, none =>
    fail .kind ("a bytes-like object is required, not '" ++ item.kind.fullName ++ "'")

/-- The item is among the items. -/
def isAmong (item : Value) (items : List Value) : Act Bool := do
  items.anyM (matchesItem · item)

/-- The item is among those that an iterator still has. All that come before it are taken. -/
def isAhead (iterator item : Value) : Act Bool := do
  let items ← ofData ((← get).walk iterator)
  let rec search : (count : Nat) → List Value → Act Bool
    | count, [] => do
      takeItems iterator count
      return false
    | count, x :: rest => do
      if ← matchesItem item x then
        takeItems iterator (count + 1)
        return true
      else search (count + 1) rest
  search 0 items

/-- The item is in the collection: as a key, as a part of a text, or as an item. -/
def contains (collection item : Value) : Act Bool := do
  let s ← get
  let collection := match s.object? collection with
    | some (.linear coefficients) => coefficients
    | _ => collection
  match s.object? collection, s.mapping? collection, s.items? collection, collection.text? with
  | none, none, none, none =>
    if let .roll _ items := collection.content then return ← isAmong item items
    if collection.content matches .iterator .. then return ← isAhead collection item
    if let some bytes := collection.bytes? then return ← isAmongBytes item bytes
    if let some ms := members? collection then
      if ms.any (·.kind = item.kind) || (item.content matches .sense _ | .direction _) then
        return ms.any (same item)
      fail .kind ("unsupported operand type(s) for 'in': '" ++ item.kind.name ++ "' and '" ++
        collection.kind.name ++ "'")
    else if !collection.isArray then
      fail .kind ("argument of type '" ++ collection.kind.fullName ++ "' is not iterable")
    else if collection.meetInArray item then do
      return (← areEqualEntries collection item).entries.any id
    else areEqual collection item
  | some (.solution _ values _), _, _, _ =>
    let (items, e) := s.numbered values
    if ← isAmong item items then return true
    match e with
    | some e => throw (.ofDatum e)
    | none => return false
  | _, some fields, _, _ => return (fields.lookup (← keyOf item)).isSome
  | _, _, some items, _ => isAmong item items
  | _, _, _, some whole =>
    match item.text? with
    | some part => return isPartOf part whole
    | none =>
      fail .kind ("'in <string>' requires string as left operand, not " ++ item.kind.fullName)
  | some _, none, none, none =>
    fail .kind ("argument of type '" ++ collection.kind.fullName ++ "' is not iterable")

/-- The item at a place; places before zero count from the end. -/
def pick (items : List Value) (what : String) (place : Int) : Act Value := do
  let i := if place < 0 then place + items.length else place
  match (if 0 ≤ i then items[i.toNat]? else none) with
  | some v => settle v
  | none => fail .place (what ++ (if what.isEmpty then "" else " ") ++ "index out of range")

/-- The item at a place that is still to be read; `refusal` tells why it is no place. -/
def pickAt (items : List Value) (what refusal : String) (key : Value) : Act Value :=
  match key.integer? with
  | some i =>
    if Numeric.Element.fits true 64 i then pick items what i
    else fail .place ("cannot fit '" ++ key.kind.fullName ++ "' into an index-sized integer")
  | none => fail .kind refusal

/-- What a record holds under a key. -/
def pickField (fields : List (Filing × Value)) (key : Value) : Act Value := do
  let f ← keyOf key
  match fields.lookup f with
  | some v => settle v
  | none => fail .key f.shown

/-- What an element of an array holds, as an array without dimensions. -/
def heldInElement (v key : Value) : Act Value := do
  match widened? (← ofData ((← get).gridOf v)) key, key.content with
  | some c, _ => give c
  | none, .tuple [] => return v
  | none, _ => throw (.ofDatum .invalidPlace)

/-- What an array holds under a key. -/
def heldInArray (v key : Value) : Act Value := do
  match key.content with
  | .tuple [] => return v
  | _ => do settle (← ofData (select (← get) (← ofData ((← get).gridOf v)) key))

/-- What a kind holds under a key: a member under its name. -/
def heldInKind (v : Value) (kind : Kind) (key : Value) : Act Value := do
  match members? v with
  | none =>
    if ["list", "dict", "tuple", "mappingproxy", "Term"].contains kind.name then
      give (.sealed "GenericAlias")
    else throw (.ofDatum (.notIndexedKind kind.fullName))
  | some _ => do
    let f ← keyOf key
    match key.text?.bind (member? v) with
    | some m => return m
    | none => fail .key f.shown

/-- What something of which only the kind can be seen holds under a key. -/
def heldInSealed (kind : String) (key : Value) : Act Value :=
  match kind, key.text? with
  | "flagsobj", _ => fail .key (Text.quoted "Unknown flag")
  | "flatiter", some _ => fail .place "unsupported iterator index"
  | "memoryview", some _ => fail .kind "memoryview: invalid slice key"
  | _, _ => throw (.ofDatum (.notIndexed kind))

/-- What a row of paths holds at a place. -/
def heldInPaths (paths : List Value) (key : Value) : Act Value :=
  match key.integer? with
  | some i =>
    let place := if i < 0 then i + paths.length else i
    match (if 0 ≤ place then paths[place.toNat]? else none) with
    | some v => settle v
    | none => fail .place (toString i)
  | none =>
    fail .kind ("'>=' not supported between instances of '" ++ key.kind.fullName ++ "' and 'int'")

/-- What a value that is no solution holds under a key. -/
def heldAt (v key : Value) : Act Value := do
  let s ← get
  let kind := key.kind.fullName
  match s.mapping? v, s.items? v, v.text?, v.quantity? with
  | none, none, none, none =>
    match v.rows?, v.content with
    | some _, _ => heldInArray v key
    | none, .typeOf kind => heldInKind v kind key
    | none, .bytes bytes =>
      pickAt (bytesAsValues bytes) "" ("byte indices must be integers or slices, not " ++ kind) key
    | none, .sealed kind => heldInSealed kind key
    | none, .roll "_PathParents" paths => heldInPaths paths key
    | none, .entryType t =>
      fail .key (Text.quoted ("There are no fields in dtype " ++ t.name ++ "."))
    | none, _ => throw (.ofDatum (.notIndexed v.kind.fullName))
  | some fields, _, _, _ => pickField fields key
  | _, some items, _, _ =>
    let what := if v.isObject .list then "list" else "tuple"
    pickAt items what (what ++ " indices must be integers or slices, not " ++ kind) key
  | _, _, some t, _ =>
    pickAt (characters t) "string" ("string indices must be integers, not '" ++ kind ++ "'") key
  | _, _, _, some a =>
    if a.kind.isElement then heldInElement v key else throw (.ofDatum (.notIndexed a.kind.fullName))

/-- What a value holds under a key. -/
def itemAt (v key : Value) : Act Value := do
  match (← get).object? v with
  | some (.solution ..) => do heldAt (← property v "values") key
  | _ => heldAt v key

/-- Keeps nothing any more under the name that a value is. Only texts are names. -/
def dropUnder (v : Value) : Act Unit := do
  match v.text? with
  | some name => drop name
  | none => fail .key (← keyOf v).shown

end Milp.Session
