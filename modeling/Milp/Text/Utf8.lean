import Milp.Text.Quoted

/-!
# UTF-8

Bytes as text. A sequence that is not UTF-8 is refused at its first byte that no character starts
with, or at the byte that breaks off a character; the error tells how many bytes belong to it.
-/

namespace Milp.Text

inductive Utf8Fault where
  | start
  | continuation
  | ending
  deriving DecidableEq, Repr

/-- The bytes of a broken character: the first one, its position, and how many there are. -/
structure Utf8Error where
  fault : Utf8Fault
  byte : Nat
  index : Nat
  count : Nat
  deriving DecidableEq, Repr

def Utf8Error.message (e : Utf8Error) : String :=
  let place := if e.count = 1 then
      "byte 0x" ++ String.ofList (hexDigits e.byte 2) ++ " in position " ++ toString e.index
    else "bytes in position " ++ toString e.index ++ "-" ++ toString (e.index + e.count - 1)
  let reason := match e.fault with
    | .start => "invalid start byte"
    | .continuation => "invalid continuation byte"
    | .ending => "unexpected end of data"
  "'utf-8' codec can't decode " ++ place ++ ": " ++ reason

/-- How many bytes follow a first byte, and between what the next one must lie. -/
def tails? (a : Nat) : Option (Nat × Nat × Nat) :=
  if a < 0x80 then some (0, 0, 0)
  else if 0xC2 ≤ a ∧ a ≤ 0xDF then some (1, 0x80, 0xBF)
  else if a = 0xE0 then some (2, 0xA0, 0xBF)
  else if a = 0xED then some (2, 0x80, 0x9F)
  else if 0xE1 ≤ a ∧ a ≤ 0xEF then some (2, 0x80, 0xBF)
  else if a = 0xF0 then some (3, 0x90, 0xBF)
  else if 0xF1 ≤ a ∧ a ≤ 0xF3 then some (3, 0x80, 0xBF)
  else if a = 0xF4 then some (3, 0x80, 0x8F)
  else none

/-- The bits that a first byte with so many bytes after it gives to the code point. -/
def leadBits (a tails : Nat) : Nat :=
  if tails = 0 then a else a % Nat.pow 2 (6 - tails)

/-- Takes `tails` bytes, the first one between `low` and `high`. An error is the fault and the
number of bytes that were right. -/
def readTails : (tails low high value taken : Nat) → List Nat → Except (Utf8Fault × Nat) Nat
  | 0, _, _, value, _, _ => .ok value
  | _ + 1, _, _, _, taken, [] => .error (.ending, taken)
  | tails + 1, low, high, value, taken, b :: bs =>
    if low ≤ b ∧ b ≤ high then
      readTails tails 0x80 0xBF (value * 64 + b % 64) (taken + 1) bs
    else .error (.continuation, taken)

/-- The characters of a sequence of bytes; `skip` bytes still belong to the character before. -/
def decodeFrom : (skip index : Nat) → List Nat → Except Utf8Error (List Char)
  | _, _, [] => .ok []
  | skip + 1, i, _ :: bs => decodeFrom skip (i + 1) bs
  | 0, i, a :: bs =>
    match tails? a with
    | none => .error ⟨.start, a, i, 1⟩
    | some (tails, low, high) =>
      match readTails tails low high (leadBits a tails) 0 bs with
      | .error (fault, taken) => .error ⟨fault, a, i, taken + 1⟩
      | .ok n => (Char.ofNat n :: ·) <$> decodeFrom tails (i + 1) bs

/-- The bytes of a code point. -/
def bytesOf (p : Nat) : List Nat :=
  if p < 0x80 then [p]
  else if p < 0x800 then [0xC0 + p / 0x40, 0x80 + p % 0x40]
  else if p < 0x10000 then [0xE0 + p / 0x1000, 0x80 + p / 0x40 % 0x40, 0x80 + p % 0x40]
  else [0xF0 + p / 0x40000, 0x80 + p / 0x1000 % 0x40, 0x80 + p / 0x40 % 0x40, 0x80 + p % 0x40]

/-- The bytes of a text. -/
def encodeUtf8 (s : String) : List Nat := (points s).flatMap bytesOf

/-- The text of a sequence of bytes. -/
def decodeUtf8 (bytes : List Nat) : Except Utf8Error (List Char) := decodeFrom 0 0 bytes

end Milp.Text
