/-!
# Classes of errors

Every error falls into one class. Some classes belong to the expression language, to the algebra and
to problems; the others say what is wrong with a value that was given from outside.
-/

namespace Milp

inductive ErrorClass where
  /-- A character at which no lexeme starts. -/
  | lexical
  | endOfInput
  | unexpectedToken
  | unmatchedParenthesis
  | missingComparator
  | chainedComparator
  | trailingTokens
  | nonLinearProduct
  | nonConstantDivisor
  | duplicateVariable
  /-- A solver that could not decide. -/
  | solver
  /-- A value of the right kind that cannot be accepted. -/
  | value
  /-- A value of a wrong kind. -/
  | kind
  /-- An array operation that has no form for the types of its elements. -/
  | loop
  /-- A name under which there is nothing. -/
  | key
  /-- A place at which there is nothing. -/
  | place
  /-- A name that nothing is known by. -/
  | lookup
  /-- A property that the value does not have. -/
  | property
  /-- A change of something that never changes. -/
  | immutable
  /-- A number that its type cannot hold. -/
  | overflow
  /-- A division by zero. -/
  | division
  /-- There is no next item. -/
  | exhausted
  /-- A value that there is no room for. -/
  | memory
  /-- The use of something that has been closed. -/
  | closed
  | missingFile
  /-- Something that the file system refuses to look for. -/
  | system
  /-- Bytes that are no text. -/
  | encoding
  /-- A text that cannot be written in bytes. -/
  | unencodable
  /-- Code that cannot be read. -/
  | grammar
  /-- Text that is no JSON. -/
  | json
  deriving DecidableEq, Repr

end Milp
