import Milp.Number.Power
import Milp.Text.Digit

/-!
# Points in time

A point in time is written as a date, `2020-02-29`, of which the day and the month may be missing,
and a time of day after it, `T23:59:30.25`, of which all but the hours may be missing. An offset
from universal time may follow the time of day. Times are counted in a unit from the start of the
year 1970 on; what is less than a unit is cut off downwards. Years and counts of units are machine
words, which wrap around, and the least of all words stands for no time.
-/

namespace Milp.Numeric

open Text

/-! ### Days -/

/-- The number of a day, counted from the start of 1970. Years follow the Gregorian rule at all
times, and March is taken as the first month of a year, so that a leap day is the last day. -/
def dayNumber (year month day : Int) : Int :=
  let y := if month ≤ 2 then year - 1 else year
  let era := Int.fdiv y 400
  let yearOfEra := y - era * 400
  let dayOfYear := (153 * (month + if 2 < month then -3 else 9) + 2) / 5 + day - 1
  era * 146097 + (yearOfEra * 365 + yearOfEra / 4 - yearOfEra / 100 + dayOfYear) - 719468

/-- The year and the month of a day. -/
def monthOfDay (n : Int) : Int × Int :=
  let z := n + 719468
  let era := Int.fdiv z 146097
  let dayOfEra := z - era * 146097
  let yearOfEra := (dayOfEra - dayOfEra / 1460 + dayOfEra / 36524 - dayOfEra / 146096) / 365
  let dayOfYear := dayOfEra - (365 * yearOfEra + yearOfEra / 4 - yearOfEra / 100)
  let shifted := (5 * dayOfYear + 2) / 153
  let month := shifted + if shifted < 10 then 3 else -9
  (yearOfEra + era * 400 + if month ≤ 2 then 1 else 0, month)

/-- The number of days of a month. -/
def daysOfMonth (year month : Int) : Int :=
  dayNumber (if month = 12 then year + 1 else year) (if month = 12 then 1 else month + 1) 1 -
    dayNumber year month 1

/-! ### Units -/

/-- The units of time, from the longest one to the shortest one. -/
def timeUnits : List String :=
  ["Y", "M", "W", "D", "h", "m", "s", "ms", "us", "ns", "ps", "fs", "as"]

/-- A unit of a fixed length, in attoseconds. -/
def attosecondsOf (unit : String) : Nat :=
  let second := tenPow 18
  match unit with
  | "W" => 7 * 86400 * second
  | "D" => 86400 * second
  | "h" => 3600 * second
  | "m" => 60 * second
  | "s" => second
  | "ms" => tenPow 15
  | "us" => tenPow 12
  | "ns" => tenPow 9
  | "ps" => tenPow 6
  | "fs" => tenPow 3
  | _ => 1

/-- Shorter units of which a whole number makes up a unit, with that number. -/
def shorterUnits (unit : String) : List (Nat × String) :=
  match unit with
  | "Y" => [(12, "M"), (52, "W"), (365, "D")]
  | "M" => [(4, "W"), (30, "D"), (720, "h")]
  | "W" => [(7, "D"), (168, "h"), (10080, "m"), (604800, "s")]
  | "D" => [(24, "h"), (1440, "m"), (86400, "s")]
  | "h" => [(60, "m"), (3600, "s")]
  | "m" => [(60, "s"), (60000, "ms")]
  | unit =>
    let rest := (timeUnits.dropWhile (· ≠ unit)).drop 1
    [1000, 1000000].zip rest

/-- A part of a unit as a number of a shorter one. -/
def unitPart? (unit : String) (divisor : Int) : Option (Int × String) :=
  (shorterUnits unit).findSome? fun p =>
    if (p.1 : Int) % divisor = 0 then some (Int.tdiv p.1 divisor, p.2) else none

/-- An integer as a machine word. -/
def wrapped (n : Int) : Int := n.bmod (twoPow 64)

/-- The word that stands for no time. -/
def noTime : Int := -twoPow 63

/-- A point in time, in attoseconds from the start of 1970 on, with the unit to which it was told.
-/
structure Moment where
  attoseconds : Int
  unit : String
  deriving DecidableEq, Repr

/-- The time in a unit. -/
def Moment.ticks (t : Moment) (unit : String) : Int :=
  let day := Int.fdiv t.attoseconds (attosecondsOf "D")
  let (year, month) := monthOfDay day
  match unit with
  | "Y" => wrapped (year - 1970)
  | "M" => wrapped (12 * (year - 1970) + month - 1)
  | "W" => Int.fdiv (wrapped day) 7
  | unit => wrapped (Int.fdiv t.attoseconds (attosecondsOf unit))

/-! ### Reading -/

/-- Why a text does not tell a point in time. -/
inductive TimeError where
  /-- The text cannot go on as it does; this many characters were left. -/
  | malformed (left : Nat)
  /-- The part of the time is too large or too small. -/
  | outOfRange (part : String)
  deriving DecidableEq, Repr

namespace Moment

/-- A reader of parts of a time. -/
abbrev Reader := StateT (List Char) (Except TimeError)

/-- The text cannot go on as it does. -/
def refuse {τ : Type} : Reader τ := do throw (.malformed (← get).length)

/-- Skips a character, if it comes next. -/
def skip (c : Char) : Reader Bool := do
  match ← get with
  | d :: rest =>
    if d = c then do
      set rest
      return true
    else return false
  | [] => return false

/-- Nothing is left. -/
def isAtEnd : Reader Bool := do return (← get).isEmpty

/-- The digits that come next, at most so many. -/
def digits (most : Nat) : Reader (List Char) := do
  let cs ← get
  let ds := (cs.take most).takeWhile Char.isDigit
  set (cs.drop ds.length)
  return ds

/-- Two digits, with a value in a range. -/
def pair (part : String) (least most : Int) : Reader Int := do
  let cs ← get
  match cs with
  | a :: b :: rest =>
    if !(a.isDigit && b.isDigit) then refuse
    else
      let n : Int := digitsValue [a, b]
      if n < least ∨ most < n then throw (.outOfRange part)
      set rest
      return n
  | _ => refuse

/-- Goes on after a separator, which must not be the end of the text. Nothing is the result if the
text does not go on like that. -/
def after (c : Char) (read : Reader Int) : Reader (Option Int) := do
  if !(← skip c) then return none
  if ← isAtEnd then refuse
  some <$> read

/-- Blanks between the parts. -/
def skipBlanks : Reader Unit :=
  modify (·.dropWhile ([' ', '\t', '\n', '\x0b', '\x0c', '\r'].contains ·))

/-- The offset from universal time, in minutes. -/
def offset : Reader Int := do
  let minutes ← do
    if ← skip 'Z' then pure 0
    else
      let negative ← skip '-'
      if negative || (← skip '+') then
        let hours ← pair "Timezone hours offset" 0 23
        let rest ← if ← isAtEnd then pure 0 else do
          discard (skip ':')
          pair "Timezone minutes offset" 0 59
        let n := 60 * hours + rest
        pure (if negative then -n else n)
      else pure 0
  skipBlanks
  if ← isAtEnd then return minutes else refuse

/-- The fraction of a second, in attoseconds, and the unit that its digits make necessary. -/
def fraction : Reader (Int × String) := do
  let ds ← digits 18
  let unit := match (ds.length + 2) / 3 with
    | 0 | 1 => "ms"
    | 2 => "us"
    | 3 => "ns"
    | 4 => "ps"
    | 5 => "fs"
    | _ => "as"
  return ((digitsValue ds * tenPow (18 - ds.length) : Nat), unit)

/-- The time of day in attoseconds, and the last unit that is told. -/
def timeOfDay : Reader (Int × String) := do
  let hours ← pair "Hours" 0 23
  let some minutes ← after ':' (pair "Minutes" 0 59)
    | return (hours * attosecondsOf "h", "h")
  let seconds ← after ':' (pair "Seconds" 0 59)
  let start := hours * attosecondsOf "h" + minutes * attosecondsOf "m"
  match seconds with
  | none => return (start, "m")
  | some seconds =>
    let start := start + seconds * attosecondsOf "s"
    if ← skip '.' then
      let (rest, unit) ← fraction
      return (start + rest, unit)
    else return (start, "s")

/-- A point in time, and whether its year stands for no time. The sign of the year counts if it is
the first character of all. -/
def read : Reader (Moment × Bool) := do
  let isNegative := (← get).head? = some '-'
  skipBlanks
  if !(← skip '-') then discard (skip '+')
  if ← isAtEnd then refuse
  let n := wrapped (digitsValue (← digits (← get).length))
  let year := if isNegative then wrapped (-n) else n
  let told := fun (month day : Int) (unit : String) =>
    ((⟨dayNumber year month day * attosecondsOf "D", unit⟩ : Moment), decide (year = noTime))
  if ← isAtEnd then return told 1 1 "Y"
  let some month ← after '-' (pair "Month" 1 12) | refuse
  if ← isAtEnd then return told month 1 "M"
  let some day ← after '-' (pair "Day" 1 (daysOfMonth year month)) | refuse
  if ← isAtEnd then return told month day "D"
  if !(← skip 'T') then
    if !(← skip ' ') then refuse
  let (time, unit) ← timeOfDay
  let offset ← offset
  let (start, isNone) := told month day unit
  let attoseconds := start.attoseconds + time - offset * attosecondsOf "m"
  return ({ start with attoseconds }, isNone)

/-- Reads a text as a point in time. -/
def ofText (text : String) : Except TimeError (Moment × Bool) := do
  return (← read.run text.toList).1

end Moment

/-- The error in writing, which shows the text up to the first zero character. -/
def TimeError.message (text : String) (e : TimeError) : String :=
  let shown := "\"" ++ String.ofList (text.toList.takeWhile (· ≠ '\x00')) ++ "\""
  match e with
  | .malformed left =>
    "Error parsing datetime string " ++ shown ++ " at position " ++ toString (text.length - left)
  | .outOfRange part => part ++ " out of range in datetime string " ++ shown

end Milp.Numeric
