import Milp.Session.Evaluation
import Milp.Session.Placeholder
import Milp.Session.Signature
import Milp.Text.Case
import Milp.Text.Encoding
import Milp.Text.Printable
import Milp.Text.Split

/-!
# Operations of texts

What the operations of a text do when they are called by their names. They work on code points and
never change the text.
-/

namespace Milp.Session

/-! ### What is given -/

/-- A value as an integer, for an operation that takes nothing else. -/
def indexOf (v : Value) : Act Int := do
  match v.integer? with
  | some n => return n
  | none =>
    fail .kind ("'" ++ v.kind.fullName ++ "' object cannot be interpreted as an integer")

/-- As `indexOf`, for an integer of some bits at most; the type of these integers is named. -/
def indexWithin (bits : Nat) (type : String) (v : Value) : Act Int := do
  let n ← indexOf v
  if Numeric.Element.fits true bits n then return n
  fail .overflow ("Python int too large to convert to C " ++ type)

/-- As `indexOf`, for the size of something. -/
def sizeGiven (v : Value) : Act Int := indexWithin 64 "ssize_t" v

/-- As `sizeGiven`, for a text that is to be so wide; there has to be room for it. -/
def widthGiven (v : Value) : Act Int := do
  let n ← sizeGiven v
  if tenPow 10 ≤ n then fail .memory ""
  return n

/-- As `indexOf`, for a length. -/
def lengthGiven (v : Value) : Act Int := indexWithin 32 "int" v

/-- The code points of a value, which has to be a text. The message is finished with the kind. -/
def pointsIn (message : String) (v : Value) : Act (List Nat) := do
  match v.text? with
  | some t => return Text.points t
  | none => fail .kind (message ++ v.kind.fullName)

/-- As `pointsIn`, for something to look for. -/
def partIn (v : Value) : Act (List Nat) := pointsIn "must be str, not " v

/-- As `pointsIn`, for what is given to an operation in a role. -/
def argumentIn (operation role : String) (v : Value) : Act (List Nat) := do
  match v.text? with
  | some t => return Text.points t
  | none =>
    fail .kind (operation ++ "() argument" ++ role ++ " must be str, not " ++
      if v.isNull then "None" else v.kind.fullName)

/-- A place in something of a length; places before zero count from the end. -/
def placeIn (length : Nat) (ifMissing : Nat) (v? : Option Value) : Act Int := do
  match v? with
  | none => return ifMissing
  | some v =>
    match v.content, v.integer? with
    | .null, _ => return ifMissing
    | _, some i => return if i < 0 then max 0 (i + length) else i
    | _, none =>
      fail .kind "slice indices must be integers or None or have an __index__ method"

/-- The part of a text in which something is looked for, and where it starts; there is none where it
would end before its start. -/
def window (whole : List Nat) (args : List Value) : Act (Option (Nat × List Nat)) := do
  let first ← placeIn whole.length 0 args[1]?
  let last ← placeIn whole.length whole.length args[2]?
  let last := min last.toNat whole.length
  if whole.length < first ∨ last < first then return none
  return some (first.toNat, (whole.take last).drop first.toNat)

/-! ### Looking for parts -/

/-- The place of a text in another one, from the left. -/
def findPart (whole part : List Nat) : Option Nat :=
  (List.range (whole.length + 1)).find? fun i => part.isPrefixOf (whole.drop i)

/-- The place of a text in another one, from the right. -/
def findLastPart (whole part : List Nat) : Option Nat :=
  (List.range (whole.length + 1)).reverse.find? fun i => part.isPrefixOf (whole.drop i)

/-- How often a text is found in another one, one behind the other. -/
def countPart (whole part : List Nat) : Nat :=
  if part.isEmpty then whole.length + 1
  else (Text.pieces part whole.length whole).length - 1

/-- The place of a part, or what is done if there is none. -/
def locate (whole : List Nat) (args : List Value) (find : List Nat → List Nat → Option Nat)
    (missing : Act Value) : Act Value := do
  let inside? ← window whole args
  let part ← partIn (args.headD Value.null)
  match inside?.bind fun w => (find w.2 part).map (w.1 + ·) with
  | some i => giveInteger i
  | none => missing

/-- A text stands at the start or at the end of a part of another one. -/
def hasAffix (whole : List Nat) (args : List Value) (name : String)
    (test : List Nat → List Nat → Bool) : Act Value := do
  let inside? ← window whole args
  let holds := fun p => inside?.any fun w => test p w.2
  let x := args.headD Value.null
  match x.content with
  | .text p => giveTruth (holds (Text.points p))
  | .tuple items => do
    giveTruth (← items.anyM fun v => return holds (← pointsIn
      ("tuple for " ++ name ++ " must only contain str, not ") v))
  | _ => fail .kind (name ++ " first arg must be str or a tuple of str, not " ++ x.kind.fullName)

/-! ### Pieces -/

/-- The pieces of a text between separators, or its words; the cuts are made from one end. -/
def splitText (v : Value) (t : String) (args : List Value) (fromRight : Bool) : Act Value := do
  let cuts ← match args[1]? with
    | none => pure none
    | some n => do
      let n ← sizeGiven n
      pure (if n < 0 then none else some n.toNat)
  let cuts := cuts.getD (t.length + 1)
  let turn : {τ : Type} → List τ → List τ := fun xs => if fromRight then xs.reverse else xs
  let x := args.headD Value.null
  match x.content with
  | .text "" => fail .value "empty separator"
  | .text by_ => do
    let pieces := Text.pieces (turn (Text.points by_)) cuts (turn (Text.points t))
    giveList (← (turn pieces).mapM fun p => keepPoints v (turn p))
  | .null => do
    let words := Text.words cuts (turn t.toList)
    giveList (← (turn words).mapM fun w => do
      let word := String.ofList (turn w)
      if cuts = 0 then giveText word else keepText v word)
  | _ => fail .kind ("must be str or None, not " ++ x.kind.fullName)

/-- A text in three parts: before a separator, the separator, and what follows it. -/
def partition (v : Value) (whole : List Nat) (x : Value) (fromRight : Bool) : Act Value := do
  let part ← partIn x
  if part.isEmpty then fail .value "empty separator"
  let triple := fun (a b c : List Nat) => do
    give (.tuple [← keepPoints v a, ← givePoints b, ← keepPoints v c])
  match (if fromRight then findLastPart else findPart) whole part with
  | some i => triple (whole.take i) part (whole.drop (i + part.length))
  | none => if fromRight then triple [] [] whole else triple whole [] []

/-- A text with another one in place of every part that is the same, or of the first ones. -/
def replaceParts (v : Value) (whole : List Nat) (args : List Value) : Act Value := do
  let old ← argumentIn "replace" " 1" (args.headD Value.null)
  let new ← argumentIn "replace" " 2" (args.getD 1 Value.null)
  let count ← (args[2]?.map sizeGiven).getD (pure (-1))
  let count := if count < 0 then whole.length + 1 else count.toNat
  let pieces := if old.isEmpty then between count whole else Text.pieces old count whole
  let isKept := old == new && old.length < 2 && old.all (· < 256) || pieces.length < 2
  (if isKept then keepPoints v else givePoints) (new.intercalate pieces)
where
  /-- The single code points, with an empty piece in front. -/
  between (count : Nat) (whole : List Nat) : List (List Nat) :=
    let singles := (whole.take (count - 1)).map fun p => [p]
    let rest := whole.drop (count - 1)
    if count = 0 then [whole] else [] :: singles ++ (if count ≤ whole.length then [rest] else [[]])

/-- Texts with a text between them. A single one stays what it is. -/
def joinTexts (between : String) (items : List Value) : Act Value := do
  let texts ← items.zipIdx.mapM fun p => do
    match p.1.text? with
    | some t => return t
    | none =>
      fail .kind ("sequence item " ++ toString p.2 ++ ": expected str instance, " ++
        p.1.kind.fullName ++ " found")
  match items with
  | [x] => return x
  | _ => giveText (joined between texts)

/-- The lines of a text, with their ends if these are to be kept. -/
def linesOf (v : Value) (t : String) (args : List Value) : Act Value := do
  let keepsEnds ← (args.head?.map lengthGiven).getD (pure 0)
  giveList (← (if keepsEnds = 0 then Text.lines t else withEnds t.toList).mapM (keepText v))
where
  /-- The lines with their ends, by where each of them stops. -/
  withEnds (cs : List Char) : List String :=
    (cs.splitBy fun c d => !(Text.isBreak c) || c = '\r' && d = '\n').map String.ofList

/-! ### Widths -/

/-- A text without the characters around it that are blank, or among those of another text. -/
def stripped (v : Value) (t : String) (name : String) (what : Value) (atStart atEnd : Bool) : Act Value := do
  let isIn ← match what.content with
    | .null => pure fun p : Nat => Text.isBlank (Char.ofNat p)
    | .text cs => pure fun p : Nat => (Text.points cs).contains p
    | _ => fail .kind (name ++ " arg must be None or str")
  let ps := Text.points t
  let ps := if atStart then ps.dropWhile isIn else ps
  keepPoints v (if atEnd then (ps.reverse.dropWhile isIn).reverse else ps)

/-- A text with characters in front of it and behind it, up to a width. The number of characters in
front is worked out from how many are missing. -/
def padded (v : Value) (whole : List Nat) (args : List Value) (front : (missing width : Nat) → Nat) :
    Act Value := do
  let width ← widthGiven (args.headD Value.null)
  let fill ← match args[1]? with
    | none => pure [0x20]
    | some c => pointsIn "The fill character must be a unicode character, not " c
  if fill.length ≠ 1 then fail .kind "The fill character must be exactly one character long"
  let missing := width.toNat - whole.length
  let before := front missing width.toNat
  let row := fun n => (List.replicate n fill).flatten
  keepPoints v (row before ++ whole ++ row (missing - before))

/-- A text with zeros in front, behind its sign. -/
def zeroFilled (v : Value) (whole : List Nat) (x : Value) : Act Value := do
  let width ← widthGiven x
  let zeros := List.replicate (width.toNat - whole.length) 0x30
  match whole with
  | p :: rest =>
    keepPoints v (if p = 0x2B ∨ p = 0x2D then p :: zeros ++ rest else zeros ++ whole)
  | [] => givePoints zeros

/-- A text with blanks in place of tabulators, up to the next column that is a multiple. -/
def expanded (size : Nat) : (column : Nat) → List Nat → List Nat
  | _, [] => []
  | column, p :: ps =>
    if p = 9 then
      let blanks := if size = 0 then 0 else size - column % size
      List.replicate blanks 0x20 ++ expanded size (column + blanks) ps
    else p :: expanded size (if p = 0xA ∨ p = 0xD then 0 else column + 1) ps

/-! ### All operations -/

/-- What a text is like as a whole. -/
def isLike (whole : List Nat) (name : String) : Option Bool :=
  let every := fun test : Nat → Bool => !whole.isEmpty && whole.all test
  match name with
  | "isalpha" => some (every Text.isLetter)
  | "isalnum" => some (every Text.isLetterOrNumeral)
  | "isascii" => some (whole.all (· < 128))
  | "isdecimal" => some (every (Text.isDigit <| Char.ofNat ·))
  | "isdigit" => some (every Text.isDigitForm)
  | "isnumeric" => some (every Text.isNumeral)
  | "isidentifier" => some (Text.isName whole)
  | "islower" =>
    some (whole.any Text.isSmall && !whole.any fun p => Text.isLarge p || Text.isPair p)
  | "isupper" =>
    some (whole.any Text.isLarge && !whole.any fun p => Text.isSmall p || Text.isPair p)
  | "istitle" => some (Text.isTitled false false whole)
  | "isprintable" =>
    some (whole.all fun p => !Text.isSurrogate p && Text.isPrintable (Char.ofNat p))
  | "isspace" => some (every (Text.isBlank <| Char.ofNat ·))
  | _ => none

/-- The text in another case. -/
def inCase? (whole : List Nat) (name : String) : Option (List Nat) :=
  match name with
  | "upper" => some (whole.flatMap Text.enlarge)
  | "lower" => some (Text.reduced whole)
  | "casefold" => some (whole.flatMap Text.fold)
  | "swapcase" => some (Text.exchanged whole)
  | "title" => some (Text.titled whole)
  | "capitalize" => some (Text.capitalized whole)
  | _ => none

/-- Why a text has no bytes, as a failure. -/
def Failure.ofEncoding (e : Text.EncodingError) : Failure :=
  .plain (if e matches .unencodable .. then .unencodable else .lookup) e.message

/-- A name that is given to an operation in a role; it must not hold a character zero. -/
def nameGiven (role : String) (default : String) (v? : Option Value) : Act String := do
  match v? with
  | none => return default
  | some v => do
    let ps ← argumentIn "encode" (" '" ++ role ++ "'") v
    discard (ofExcept .ofEncoding (Text.encode "utf-8" "strict" ps))
    if ps.contains 0 then fail .value "embedded null character"
    return Text.ofPoints ps

/-- A text as bytes. -/
def encoded (whole : List Nat) (args : List Value) : Act Value := do
  let name ← nameGiven "encoding" "utf-8" args[0]?
  let handler ← nameGiven "errors" "strict" args[1]?
  give (.bytes (← ofExcept .ofEncoding (Text.encode name handler whole)))

/-- An operation of a text. -/
def operateText (v : Value) (t : String) (name : String) (args : List Value) : Act Value := do
  let x := args.headD Value.null
  let whole := Text.points t
  match isLike whole name, inCase? whole name with
  | some b, _ => giveTruth b
  | none, some ps => givePoints ps
  | none, none =>
    match name with
    | "split" => splitText v t args false
    | "rsplit" => splitText v t args true
    | "splitlines" => linesOf v t args
    | "partition" => partition v whole x false
    | "rpartition" => partition v whole x true
    | "strip" => stripped v t name x true true
    | "lstrip" => stripped v t name x true false
    | "rstrip" => stripped v t name x false true
    | "count" => do
      let inside? ← window whole args
      let part ← partIn x
      giveInteger ((inside?.map fun w => countPart w.2 part).getD 0)
    | "find" => locate whole args findPart (giveInteger (-1))
    | "index" => locate whole args findPart (fail .value "substring not found")
    | "rfind" => locate whole args findLastPart (giveInteger (-1))
    | "rindex" => locate whole args findLastPart (fail .value "substring not found")
    | "startswith" => hasAffix whole args name (·.isPrefixOf ·)
    | "endswith" => hasAffix whole args name (·.isSuffixOf ·)
    | "removeprefix" => do
      let part ← argumentIn "removeprefix" "" x
      keepPoints v (if part.isPrefixOf whole then whole.drop part.length else whole)
    | "removesuffix" => do
      let part ← argumentIn "removesuffix" "" x
      keepPoints v (if part.isSuffixOf whole then whole.take (whole.length - part.length) else whole)
    | "replace" => replaceParts v whole args
    | "ljust" => padded v whole args fun _ _ => 0
    | "rjust" => padded v whole args fun missing _ => missing
    | "center" => padded v whole args fun missing width => missing / 2 + (missing % 2) * (width % 2)
    | "zfill" => zeroFilled v whole x
    | "expandtabs" => do
      let size ← (args.head?.map lengthGiven).getD (pure 8)
      (if whole.contains 9 then givePoints else keepPoints v) (expanded size.toNat 0 whole)
    | "format" => fillPlaces v t ⟨some args, none⟩
    | "format_map" => fillPlaces v t ⟨none, some x⟩
    | "encode" => encoded whole args
    | "__getnewargs__" => do give (.tuple [.mk 0 (.text t)])
    | "join" => do
      match (← get).walk x with
      | .ok items => joinTexts t items
      | .error _ => fail .kind "can only join an iterable"
    | _ => return Value.null

end Milp.Session
