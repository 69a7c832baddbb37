import Unmask.IL.Token

/-!
# Errors

The causes for which an operation fails, and their wording. Where another program or a reader of a
foreign format says why, its text is not kept.
-/

namespace Unmask

inductive Error where
  /-- A text or value that is not the JSON asked for. -/
  | json
  | base64
  /-- Reading or writing failed. -/
  | stream (message : String)
  /-- An executable image that cannot be read. -/
  | image
  /-- An executable image that is not a managed one. -/
  | malformed (message : String)
  | outOfBounds
  | empty
  | other (message : String)
  | bridge (message : String)
  | oracleUnavailable (message : String)
  | invocation (method message : String)
  | unexpectedValue (expected found : String)
  | tokenNotFound (token : Token)
  deriving DecidableEq, Repr, Inhabited

/-- The wording of an error. That of an image that is not a managed one is the reason alone, without
the mark "Malformed" and the place in the reader where it was noticed, which are printed before
it. -/
def Error.message : Error → String
  | .json => "malformed JSON"
  | .base64 => "malformed base64"
  | .stream message => message
  | .image => "malformed executable image"
  | .malformed message => message
  | .outOfBounds => "Out of Bound read would have occurred!"
  | .empty => "Provided input was empty"
  | .other message => message
  | .bridge message => "Host bridge - " ++ message
  | .oracleUnavailable message => "Oracle unavailable - " ++ message
  | .invocation method message => "Invocation of " ++ method ++ " failed - " ++ message
  | .unexpectedValue expected found => "Expected a " ++ expected ++ " value, got " ++ found
  | .tokenNotFound token => "No entity with token " ++ token.display ++ " in module"

end Unmask
