import Milp.Text.Printable
import Milp.Text.Point

/-!
# Quoted text

How a message shows a text that it is about: between single quotes, or between double quotes when
the text holds a single quote and no double one. The quote in use and the backslash are escaped by
a backslash, the characters that do not print by their code point.
-/

namespace Milp.Text

/-- The low `width` hexadecimal digits of a number, the highest one first. -/
def hexDigits (n width : Nat) : List Char :=
  (List.range width).reverse.map fun i => Nat.digitChar (n / Nat.pow 16 i % 16)

/-- The single quote. -/
def singleMark : Char := '\x27'

/-- The double quote. -/
def doubleMark : Char := '\x22'

/-- A text shows between double quotes when it holds single ones only. -/
def quoteFor (cs : List Char) : Char :=
  if cs.contains singleMark && !cs.contains doubleMark then doubleMark else singleMark

/-- A code point as it shows between two `quote` characters. -/
def escaped (quote : Char) (p : Nat) : List Char :=
  let c := Char.ofNat p
  if c = quote ∨ c = '\\' then ['\\', c]
  else if c = '\t' then ['\\', 't']
  else if c = '\n' then ['\\', 'n']
  else if c = '\r' then ['\\', 'r']
  else if isPrintable c && !isSurrogate p then [c]
  else if p < 0x100 then ['\\', 'x'] ++ hexDigits p 2
  else if p < 0x10000 then ['\\', 'u'] ++ hexDigits p 4
  else ['\\', 'U'] ++ hexDigits p 8

/-- A byte as it shows between two `quote` characters. -/
def escapedAsByte (quote : Char) (p : Nat) : List Char :=
  if p < 0x7F then escaped quote p else ['\\', 'x'] ++ hexDigits p 2

/-- Bytes between quotes. -/
def quotedBytes (bytes : List Nat) : String :=
  let quote := quoteFor (bytes.map Char.ofNat)
  String.ofList ('b' :: quote :: bytes.flatMap (escapedAsByte quote) ++ [quote])

/-- A text between quotes. -/
def quoted (s : String) : String :=
  let quote := quoteFor s.toList
  String.ofList (quote :: (points s).flatMap (escaped quote) ++ [quote])

end Milp.Text
