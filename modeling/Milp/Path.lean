import Milp.Name
import Milp.Text.Point
import Milp.Text.Utf8

/-!
# Paths of files

A path is written as its parts with slashes between them, and with one or two slashes in front if it
starts at the root. The last part is the name of a file, and the end of the name from its last point
on is the suffix.
-/

namespace Milp.Path

/-- The root of a path, as it is written. Exactly two slashes in front stay two. -/
def root (path : String) : String :=
  if path.startsWith "///" then "/" else if path.startsWith "//" then "//"
  else if path.startsWith "/" then "/" else ""

/-- The parts of a path after its root, without empty ones and those that mean the place itself. -/
def steps (path : String) : List String :=
  (path.splitOn "/").filter fun p => p ≠ "" ∧ p ≠ "."

/-- A path by its root and its parts. -/
def ofSteps (root : String) (steps : List String) : String :=
  if root = "" ∧ steps.isEmpty then "." else root ++ "/".intercalate steps

/-- A path without empty parts and parts that mean the place itself. -/
def normal (path : String) : String := ofSteps (root path) (steps path)

/-- The parts of a path, of which the root is one. -/
def parts (path : String) : List String :=
  if root path = "" then steps path else root path :: steps path

/-- The path that leads on from another one; a path from the root does not need another one. -/
def join (base path : String) : String :=
  if root path = "" then ofSteps (root base) (steps base ++ steps path) else normal path

/-- The path without its last part. -/
def parent (path : String) : String := ofSteps (root path) (steps path).dropLast

/-! ### Names -/

/-- The last part of a path. -/
def name (path : String) : String := (steps path).getLastD ""

/-- The end of the name from its last point on. A point at the start or at the end of the name does
not count. -/
def suffix (path : String) : String :=
  let cs := (name path).toList
  let last := (cs.reverse.takeWhile (· ≠ '.')).reverse
  if cs.length < last.length + 2 ∨ last.isEmpty then "" else "." ++ String.ofList last

/-- The name without its suffix. -/
def stem (path : String) : String := ((name path).dropEnd (suffix path).length).toString

/-- All parts of the name that start with a point. -/
def suffixes (path : String) : List String :=
  let cs := (name path).toList
  if cs.getLast? = some '.' then []
  else ((String.ofList (cs.dropWhile (· = '.'))).splitOn ".").tail.map ("." ++ ·)

/-- The path with another name. A name is a single part; the empty one and the place itself are
none. -/
def withName? (path name : String) : Option String :=
  if root name = "" ∧ steps name = [name] then
    some (ofSteps (root path) ((steps path).dropLast ++ [name]))
  else none

/-- The text can be the suffix of a name. -/
def isSuffix (suffix : String) : Bool :=
  suffix = "" || suffix.startsWith "." && suffix ≠ "." && !suffix.contains '/'

/-! ### Ways from a place to another -/

/-- The paths above a path, the nearest one first. -/
def above (path : String) : List String :=
  (List.range (steps path).length).map fun n =>
    ofSteps (root path) ((steps path).take ((steps path).length - n - 1))

/-- The way to a path from another one that it starts with. -/
def relativeTo? (path start : String) : Option String :=
  if root path = root start ∧ (steps start).isPrefixOf (steps path) then
    some (ofSteps "" ((steps path).drop (steps start).length))
  else none

/-! ### Places -/

/-- The names that stand at the root of every system. -/
def rootNames : List String := [
  "bin", "dev", "etc", "home", "lib", "media", "mnt", "opt", "proc", "root", "run", "sbin", "srv",
  "sys", "tmp", "usr", "var"]

/-- The path leads to a place that is there in any case: the place itself and all those above it, and
the first places below the root. -/
def isEverywhere (path : String) : Bool :=
  let steps := (steps path).dropWhile (· = "..")
  match steps with
  | [] => true
  | [name] => root path ≠ "" && rootNames.contains name
  | _ => false

/-! ### Length -/

/-- The most bytes that the name of a file can have. -/
def maxNameBytes : Nat := 255

/-- The most bytes that a path can have. -/
def maxBytes : Nat := 4095

/-- A path that no file can have: it is too long as a whole, or in its first name. A path with a
character that cannot stand in any is not looked at. -/
def isTooLong (path : String) : Bool :=
  let bytes := fun s : String => (Text.encodeUtf8 s).length
  let first := ((path.splitOn "/").find? fun p => p ≠ "" ∧ p ≠ "..").getD ""
  let isReadable := (Text.points path).all fun p => p ≠ 0 && !Text.isSurrogate p
  isReadable && (maxBytes < bytes path || maxNameBytes < bytes first)

end Milp.Path
