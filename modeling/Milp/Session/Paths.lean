import Milp.Session.Property

/-!
# Operations of paths

What the operations of paths do when they are called by their names, as far as they need not look at
files. Operations on paths that cannot be carried out tell so with the paths in writing.
-/

namespace Milp.Session

/-- A path in a form that tells the kind. -/
def pathText (path : String) : String := "PosixPath(" ++ Text.quoted path ++ ")"

/-- A value as a path. -/
def pathOf (v : Value) : Act String := do
  match v.content with
  | .text t | .path t => return t
  | c =>
    fail .kind ("expected str, bytes or os.PathLike object, not " ++ c.kind.name)

/-- Several values as one path. -/
def joinedPath (values : List Value) : Act String := do
  return Path.normal ((← values.mapM pathOf).foldl Path.join "")

/-- A text that is given to an operation of a path. -/
def pieceOf (v : Value) : Act String := do
  match v.text? with
  | some t => return t
  | none => fail .kind ("'" ++ v.kind.fullName ++ "' object is not subscriptable")

/-- A path with another name. -/
def renamed (path name : String) : Act Value := do
  if Path.name path = "" then fail .value (pathText path ++ " has an empty name")
  match Path.withName? path name with
  | some path => give (.path path)
  | none => fail .value ("Invalid name " ++ Text.quoted name)

/-- A path with another suffix. -/
def withSuffix (path suffix : String) : Act Value := do
  if !Path.isSuffix suffix then fail .value ("Invalid suffix " ++ Text.quoted suffix)
  renamed path (Path.stem path ++ suffix)

/-- The way to a path from another one, of which the parts are given. -/
def wayFrom (path : String) (start : List Value) : Act Value := do
  if start.isEmpty then fail .kind "need at least one argument"
  let start ← joinedPath start
  match Path.relativeTo? path start with
  | some way => give (.path way)
  | none =>
    fail .value (Text.quoted path ++ " is not in the subpath of " ++ Text.quoted start ++
      " OR one path is relative and the other is absolute.")

/-- An operation of a path. -/
def operatePath (path name : String) (args : List Value) : Act Value := do
  let x := args.headD Value.null
  let joined := fun first second : Value =>
    match first.content, second.content with
    | .text s, .path t | .path s, .text t | .path s, .path t => give (.path (Path.join s t))
    | _, _ => give (.sealed "NotImplementedType")
  match name with
  | "as_posix" | "__fspath__" => giveText path
  | "__bytes__" => give (.bytes (Text.encodeUtf8 path))
  | "is_absolute" => giveTruth (Path.root path ≠ "")
  | "is_reserved" => giveTruth false
  | "joinpath" => do give (.path (← joinedPath (.mk 0 (.path path) :: args)))
  | "__truediv__" => joined (.mk 0 (.path path)) x
  | "__rtruediv__" => joined x (.mk 0 (.path path))
  | "with_name" => do renamed path (← pieceOf x)
  | "with_stem" => do renamed path ((← pieceOf x) ++ Path.suffix path)
  | "with_suffix" => do withSuffix path (← pieceOf x)
  | "relative_to" => wayFrom path args
  | "is_relative_to" => do
    tryCatch (do
      discard (wayFrom path args)
      giveTruth true) fun f => if f.errorClass = .value then giveTruth false else throw f
  | _ => return Value.null

end Milp.Session
