import Mathlib.Data.Option.Basic

/-!
# Ids in requests

A text of a request that should hold a UUID, as `uuid.UUID` reads it.
-/

namespace ColabPlatform.Common

/-- `missing` is also the empty text, `malformed` one that `uuid.UUID` refuses. -/
inductive IdField where
  | missing
  | malformed (text : String)
  | uuid (id : String)
  deriving DecidableEq, Repr

namespace IdField

/-- `first or second` -/
def or : IdField → IdField → IdField
  | missing, second => second
  | first, _ => first

def id? : IdField → Option String
  | uuid id => some id
  | missing | malformed _ => none

end IdField

end ColabPlatform.Common
