import Milp.Json.Printer
import Milp.Json.Reader
import Milp.Path
import Milp.Text.Utf8

/-!
# Solver libraries

A compiled solver library is opened from a file and stays loaded until it is closed, or until
nothing refers to it any more. It is sent JSON text and replies with bytes that have to be given
back to it, or with nothing.
-/

namespace Milp

/-- A library that was opened; its handle is its place among all of them. -/
structure Library where
  path : String
  isOpen : Bool
  deriving DecidableEq, Repr

/-- A library in writing; one that is closed does not show its path. -/
def libraryText (path? : Option String) : String :=
  "<knorpelsolve.NativeLibrary " ++ path?.getD "(closed)" ++ ">"

/-- The handle of a library. -/
abbrev Handle := Nat

/-- Bytes, or nothing. -/
abbrev Reply := Option (List Nat)

/-- All libraries that were opened and what has passed between them and the program. -/
structure Host where
  /-- The paths of the files that are libraries. -/
  files : List String
  libraries : List Library
  /-- The replies that are still to come. -/
  replies : List Reply
  sent : List String
  /-- How many replies were not empty. By their order they have numbers. -/
  received : Nat
  /-- The numbers of the replies that have been given back, in order. -/
  returned : List Nat
  /-- The handles that have been unloaded, in order. -/
  unloaded : List Handle

/-- Why a library gives no answer. -/
inductive LibraryError where
  | notFound (path : String)
  /-- A name in the path is too long for any file. -/
  | tooLong (path : String)
  | closed
  /-- The library counts as open, but it has been unloaded; what was asked of it is given. -/
  | unloaded (property : String)
  | noReply
  | unwritable (e : Json.Unwritable)
  | encoding (e : Text.Utf8Error)
  | json (e : Json.ReadError) (text : List Char)
  /-- There are no more replies to come. -/
  | exhausted
  deriving DecidableEq, Repr

def LibraryError.message : LibraryError → String
  | .notFound path => "Solver library not found: " ++ path
  | .tooLong path => "[Errno 36] File name too long: " ++ Text.quoted path
  | .closed => "Cannot solve: library has been closed"
  | .unloaded property => "'NoneType' object has no attribute '" ++ property ++ "'"
  | .noReply => "Solver library returned no answer, see its stderr output"
  | .unwritable e => e.message
  | .encoding e => e.message
  | .json e text => e.message text
  | .exhausted => "pop from empty list"

def LibraryError.errorClass : LibraryError → ErrorClass
  | .notFound _ => .missingFile
  | .tooLong _ => .system
  | .closed => .closed
  | .unloaded _ => .property
  | .noReply => .solver
  | .unwritable e => e.errorClass
  | .encoding _ => .encoding
  | .json e _ => if e.digits?.isSome then .value else .json
  | .exhausted => .place

namespace Host

/-- Nothing has been opened yet. -/
def empty (files : List String) : Host := ⟨files, [], [], [], 0, [], []⟩

/-- How many replies have been given back. -/
def freed (s : Host) : Nat := s.returned.length

/-- The library is loaded. -/
def isOpen (s : Host) (h : Handle) : Bool := (s.libraries[h]?).any Library.isOpen

/-! ### Opening and closing -/

/-- There is something at a path. -/
def isPresent (s : Host) (path : String) : Bool :=
  s.files.contains path || Path.isEverywhere path

/-- Opens the library at a path. Whatever is there counts as one. -/
def openLibrary (path : String) (s : Host) :
    Except LibraryError (Handle × Host) :=
  let path := Path.normal path
  if Path.isTooLong path then .error (.tooLong path)
  else if s.isPresent path then
    .ok (s.libraries.length, { s with libraries := s.libraries ++ [⟨path, true⟩] })
  else .error (.notFound path)

/-- Closes a library; one that is closed already stays so. -/
def close (h : Handle) (s : Host) : Host :=
  if s.isOpen h then
    { s with
      libraries := s.libraries.modify h fun l => { l with isOpen := false }
      unloaded := s.unloaded ++ [h] }
  else s

/-- Closes libraries one after the other. -/
def closeAll (hs : List Handle) (s : Host) : Host := hs.foldl (fun s h => s.close h) s

/-- Some library is loaded. -/
def anyOpen (s : Host) : Bool := s.libraries.any Library.isOpen

/-! ### Asking a library -/

/-- What passes between the program and its libraries: it changes the state, and it has a result or
an error. -/
abbrev Exchange := EStateM LibraryError Host

/-- Sends a text to a library. A reply that is not empty comes with its number. -/
def send (text : String) : Exchange (Nat × List Nat) := do
  let s ← get
  let s := { s with sent := s.sent ++ [text] }
  match s.replies with
  | [] =>
    set s
    throw .exhausted
  | none :: replies =>
    set { s with replies }
    throw .noReply
  | some bytes :: replies =>
    set { s with replies, received := s.received + 1 }
    return (s.received, bytes)

/-- Gives a reply back. -/
def giveBack (reply : Nat) : Exchange Unit :=
  modify fun s => { s with returned := s.returned ++ [reply] }

/-- The text that bytes are; a zero byte ends them. -/
def copyText (bytes : List Nat) : Exchange (List Char) :=
  match Text.decodeUtf8 (bytes.takeWhile (· ≠ 0)) with
  | .ok text => return text
  | .error e => throw (.encoding e)

/-- Sends a text to a library and copies the reply. It is given back then, also if it cannot be
copied. -/
def exchange (text : String) : Exchange (List Char) := do
  let (reply, bytes) ← send text
  try copyText bytes finally giveBack reply

/-- Sends a message to a library, if it can be written, and reads the copy of its reply. -/
def converse (h : Handle) (message : Except Json.Unwritable (Datum Number)) :
    Exchange (Datum Number) := do
  unless (← get).isOpen h do throw .closed
  match message.bind Json.text with
  | .error e => throw (.unwritable e)
  | .ok text =>
    let reply ← exchange text
    match Json.read reply with
    | .ok d => return d
    | .error e => throw (.json e reply)

/-- What a library says to a message, and the state after it. -/
def ask (h : Handle) (message : Except Json.Unwritable (Datum Number)) (s : Host) :
    Except LibraryError (Datum Number) × Host :=
  match (converse h message).run s with
  | .ok d s => (.ok d, s)
  | .error e s => (.error e, s)

/-- The path of the file that a library was opened from. -/
def path (h : Handle) (s : Host) : String := ((s.libraries[h]?).map Library.path).getD ""

end Host

end Milp
