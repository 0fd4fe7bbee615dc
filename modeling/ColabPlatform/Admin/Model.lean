import ColabPlatform.Common.Ids
import ColabPlatform.Common.Text
import ColabPlatform.Foundation.OrderedDict
import Mathlib.Algebra.Order.Ring.Rat

/-!
# Requests to the admin service

What every endpoint reads first: the headers that name the admin and the admin's roles, and
the permission that the enforcer gives to one of the roles.  The rules of the enforcer are rows
that can be edited, and so they are a parameter.
-/

namespace ColabPlatform.Admin

open Foundation Common

/-- `X-Admin-User-Id` and `X-Admin-Roles` -/
structure AdminHeaders where
  adminUserId : IdField
  roles : String := ""
  deriving DecidableEq, Repr

/-- Whether the policy gives a role an action on an object. -/
abbrev Enforcer := String → String → String → Bool

inductive AdminRefusal where
  | forbidden (obj act : String)
  | identityMissing
  /-- `uuid.UUID` raises -/
  | identityMalformed
  deriving DecidableEq, Repr

namespace AdminRefusal

def status : AdminRefusal → Nat
  | forbidden _ _ => 403
  | identityMissing => 401
  | identityMalformed => 500

def detail : AdminRefusal → String
  | forbidden obj act => "Forbidden: " ++ obj ++ ":" ++ act ++ " requires elevated role."
  | identityMissing => "Admin identity missing."
  | identityMalformed => "Internal Server Error"

end AdminRefusal

namespace AdminHeaders

def getAdminRoles (headers : AdminHeaders) : List String :=
  ((split ',' headers.roles).map strip).filter (· ≠ "")

def requiresPermission (headers : AdminHeaders) (enforce : Enforcer) (obj act : String) : Bool :=
  headers.getAdminRoles.any fun role => enforce role obj act

/-- The dependencies of an endpoint and its first line. -/
def admission (headers : AdminHeaders) (enforce : Enforcer) (obj act : String) :
    Except AdminRefusal String :=
  if headers.requiresPermission enforce obj act then
    match headers.adminUserId with
    | .missing => .error .identityMissing
    | .malformed _ => .error .identityMalformed
    | .uuid id => .ok id
  else .error (.forbidden obj act)

theorem admission_eq_ok {headers : AdminHeaders} {enforce : Enforcer} {obj act id : String} :
    headers.admission enforce obj act = .ok id ↔
      headers.requiresPermission enforce obj act = true ∧ headers.adminUserId = .uuid id := by
  unfold admission
  split
  · cases headers.adminUserId <;> simp_all
  · simp_all

/-- The name of a role is a part of the header. -/
theorem isSubstring_of_mem_getAdminRoles {headers : AdminHeaders} {role : String}
    (mem : role ∈ headers.getAdminRoles) : isSubstring role headers.roles = true := by
  obtain ⟨part, isPart, rfl⟩ := List.mem_map.1 (List.mem_filter.1 mem).1
  exact decide_eq_true ((isInfix_strip part).trans (isInfix_split isPart))

end AdminHeaders

/-! ## Bodies -/

/-- A value of a body, with arrays and objects as their texts. -/
inductive JsonValue where
  | null
  | bool (value : Bool)
  | number (value : ℚ)
  | nan
  | infinity (negative : Bool)
  | text (value : String)
  | array (source : String)
  | object (source : String)
  deriving DecidableEq, Repr

/-- The members of a JSON object, in the order of the text. -/
abbrev JsonBody := List (String × JsonValue)

namespace JsonValue

/-- What a comparison with a number reads. -/
def number? : JsonValue → Option ℚ
  | number value => some value
  | bool value => some (if value then 1 else 0)
  | null | nan | infinity _ | text _ | array _ | object _ => none

/-- `value > cap`, which raises for what is not a number. -/
def exceeds (cap : ℚ) : JsonValue → Option Bool
  | number value => some (cap < value)
  | bool value => some (cap < if value then 1 else 0)
  | nan => some false
  | infinity negative => some !negative
  | null | text _ | array _ | object _ => none

/-- `json.dumps(value, allow_nan=False)` does not raise. -/
def isEncodable : JsonValue → Bool
  | nan | infinity _ => false
  | null | bool _ | number _ | text _ | array _ | object _ => true

theorem exceeds_eq_false {cap : ℚ} {value : JsonValue} (encodable : value.isEncodable = true) :
    value.exceeds cap = some false ↔ ∃ q, value.number? = some q ∧ q ≤ cap := by
  cases value <;> simp_all [exceeds, number?, isEncodable, not_lt]

end JsonValue

/-- `body.get(key, default)` -/
def JsonBody.get (body : JsonBody) (key : String) (default : JsonValue) : JsonValue :=
  (OrderedDict.lastValue body key).getD default

end ColabPlatform.Admin
