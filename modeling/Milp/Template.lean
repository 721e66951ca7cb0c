import Milp.Name

/-!
# Templates

A source is text with operands in it: a first segment, and after every operand another segment. As
a format string it has the placeholder of an opening and a closing brace where an operand stands.
-/

namespace Milp

/-- Text with operands in it. -/
structure Template (ω : Type) where
  first : String
  rest : List (ω × String)

/-- The number of segments is not one more than that of the operands. -/
structure SegmentCount where
  operands : Nat
  segments : Nat
  deriving DecidableEq, Repr

def SegmentCount.message (e : SegmentCount) : String :=
  "Expected " ++ toString (e.operands + 1) ++ " segments for " ++ toString e.operands ++
    " operands, got " ++ toString e.segments

namespace Template

variable {ω : Type}

/-- The pieces of text, in order. -/
def segments (t : Template ω) : List String := t.first :: t.rest.map Prod.snd

/-- The operands, in order. -/
def operands (t : Template ω) : List ω := t.rest.map Prod.fst

/-- Puts segments and operands together. -/
def ofParts? (segments : List String) (operands : List ω) : Except SegmentCount (Template ω) :=
  match segments with
  | first :: rest =>
    if rest.length = operands.length then .ok ⟨first, operands.zip rest⟩
    else .error ⟨operands.length, rest.length + 1⟩
  | [] => .error ⟨operands.length, 0⟩

def map (f : ω → ω') (t : Template ω) : Template ω' := ⟨t.first, t.rest.map fun p => (f p.1, p.2)⟩

/-- The same segments with the same operands, in the sense of `same`. -/
def agrees (same : ω → ω → Bool) (s t : Template ω) : Bool :=
  s.segments == t.segments && s.operands.length == t.operands.length &&
    (s.operands.zip t.operands).all fun p => same p.1 p.2

/-- The source with every operand written out. The pieces are written before they are joined. -/
def substituted (write : ω → Except NameError Piece) (t : Template ω) : Except NameError String := do
  let pieces ← t.rest.mapM fun p => do return [← write p.1, .text p.2.toList]
  String.ofList <$> Piece.join 0 (.text t.first.toList :: pieces.flatten)

/-! ### Format strings -/

/-- What stands in a format string for an operand. -/
def placeholder : String := "\x7b\x7d"

/-- The pieces of a text between its placeholders, found from left to right. The characters of the
piece at hand are held in reverse. -/
def splitPieces : (piece : List Char) → List Char → List (List Char)
  | piece, [] => [piece.reverse]
  | piece, '\x7b' :: '\x7d' :: cs => piece.reverse :: splitPieces [] cs
  | piece, c :: cs => splitPieces (c :: piece) cs

/-- The segments of a format string. -/
def splitFormat (source : String) : List String :=
  (splitPieces [] source.toList).map String.ofList

/-- Pairs a format string with its operands. -/
def ofFormat? (source : String) (operands : List ω) : Except SegmentCount (Template ω) :=
  ofParts? (splitFormat source) operands

theorem operands_ofParts? {segments : List String} {operands : List ω} {t : Template ω}
    (h : ofParts? segments operands = .ok t) : t.operands = operands := by
  match segments with
  | [] => simp [ofParts?] at h
  | first :: rest =>
    simp only [ofParts?] at h
    split at h
    · next hl =>
      obtain rfl := Except.ok.inj h
      simp [Template.operands, List.map_fst_zip, hl]
    · simp at h

theorem segments_ofParts? {segments : List String} {operands : List ω} {t : Template ω}
    (h : ofParts? segments operands = .ok t) : t.segments = segments := by
  match segments with
  | [] => simp [ofParts?] at h
  | first :: rest =>
    simp only [ofParts?] at h
    split at h
    · next hl =>
      obtain rfl := Except.ok.inj h
      simp [Template.segments, List.map_snd_zip, hl]
    · simp at h

end Template

end Milp
