import ColabPlatform.Common.Text

/-!
# Token verification shared by the services

`decodeToken` and `extractUser` are the verifier that the gateway and every
service use.  The signature check belongs to the JWT library and is the field
`payload` of `Jwt`: the claims of a token whose signature verifies under the
configured key, and nothing for any other token.  Times are seconds.
-/

namespace ColabPlatform.Common

/-- `roles` may be a JSON list or a single value. -/
inductive RolesClaim where
  | list (roles : List String)
  | single (role : String)
  deriving DecidableEq, Repr

structure Claims where
  iss : Option String
  sub : Option String
  aud : Option (List String)
  jti : Option String
  sid : Option String
  typ : Option String
  email : Option String
  roles : Option RolesClaim
  tier : Option String
  emailVerified : Option Bool
  identityVerified : Option Bool
  scope : Option (List String)
  iat : Option Int
  nbf : Option Int
  exp : Option Int
  deriving DecidableEq, Repr

/-- SHA-256, hexadecimal, taken to be injective. -/
structure Digest where
  hex : String → String
  injective : Function.Injective hex

/-- `refusal` is the library's text about a token whose signature fails. -/
structure Jwt where
  payload : String → Option Claims
  refusal : String → String

inductive AuthError where
  | required
  | headerRequired
  | expired
  | invalidToken (reason : String)
  | missingSub
  deriving DecidableEq, Repr

def AuthError.message : AuthError → String
  | required => "Authorization required."
  | headerRequired => "Authorization header required."
  | expired => "Token has expired."
  | invalidToken reason => "Invalid token: " ++ reason
  | missingSub => "Token missing 'sub' claim."

/-- `AuthUser` -/
structure AuthUser where
  userId : String
  email : String
  roles : List String
  tier : String
  rawClaims : Claims
  deriving DecidableEq, Repr

/-- The library's time checks: not issued or valid in the future, not expired. -/
def checkTimes (claims : Claims) (now : Int) : Except AuthError Claims :=
  if claims.iat.any (now < ·) then
    .error (.invalidToken "The token is not yet valid (iat)")
  else if claims.nbf.any (now < ·) then
    .error (.invalidToken "The token is not yet valid (nbf)")
  else if claims.exp.any (· ≤ now) then .error .expired
  else .ok claims

/-- `_decode_token` -/
def decodeToken (jwt : Jwt) (now : Int) (token : String) :
    Except AuthError Claims :=
  match jwt.payload token with
  | none => .error (.invalidToken (jwt.refusal token))
  | some claims => checkTimes claims now

/-- `_extract_user` -/
def extractUser (claims : Claims) : Except AuthError AuthUser :=
  let userId := claims.sub.getD ""
  if userId = "" then .error .missingSub
  else .ok
    { userId, email := claims.email.getD "",
      roles := match claims.roles with
        | some (.list roles) => roles
        | some (.single role) => [role]
        | none => [],
      tier := claims.tier.getD "free", rawClaims := claims }

/-- The two steps with which a token is turned into a user. -/
def authenticate (jwt : Jwt) (now : Int) (token : String) :
    Except AuthError AuthUser := do
  extractUser (← decodeToken jwt now token)

/-! ## What verification accepts -/

@[simp] theorem mapError_eq_ok {ε ε' α : Type*} {x : Except ε α} {f : ε → ε'}
    {value : α} : x.mapError f = .ok value ↔ x = .ok value := by
  cases x <;> simp [Except.mapError]

theorem bind_eq_ok {ε α β : Type} {x : Except ε α} {f : α → Except ε β} {b : β} :
    x >>= f = .ok b ↔ ∃ a, x = .ok a ∧ f a = .ok b := by
  cases x <;> simp [bind, Except.bind]

/-- The times at which claims are accepted. -/
def Claims.current (claims : Claims) (now : Int) : Bool :=
  claims.iat.all (· ≤ now) && claims.nbf.all (· ≤ now) && claims.exp.all (now < ·)

theorem checkTimes_eq_ok_iff {claims checked : Claims} {now : Int} :
    checkTimes claims now = .ok checked ↔
      claims.current now ∧ checked = claims := by
  have later (time : Option Int) : time.any (now < ·) = !time.all (· ≤ now) := by
    cases time <;>
      simp only [Option.any_none, Option.all_none, Bool.not_true, Option.any_some,
        Option.all_some, ← decide_not, Int.not_le]
  have past (time : Option Int) : time.any (· ≤ now) = !time.all (now < ·) := by
    cases time <;>
      simp only [Option.any_none, Option.all_none, Bool.not_true, Option.any_some,
        Option.all_some, ← decide_not, Int.not_lt]
  unfold checkTimes Claims.current
  rw [later, later, past]
  cases claims.iat.all (· ≤ now) <;> cases claims.nbf.all (· ≤ now) <;>
    cases claims.exp.all (now < ·) <;> simp [eq_comm]

theorem decodeToken_eq_ok_iff {jwt : Jwt} {now : Int} {token : String}
    {claims : Claims} :
    decodeToken jwt now token = .ok claims ↔
      jwt.payload token = some claims ∧ claims.current now := by
  unfold decodeToken
  cases jwt.payload token with
  | none => simp
  | some found =>
      simp only [checkTimes_eq_ok_iff, Option.some.injEq]
      constructor
      · rintro ⟨current, rfl⟩
        exact ⟨rfl, current⟩
      · rintro ⟨rfl, current⟩
        exact ⟨current, rfl⟩

/-- `require_user`: the user the middleware stored, else that of the token. -/
def requireUser (jwt : Jwt) (now : Int) (stored : Option AuthUser)
    (token : Option String) : Except AuthError AuthUser :=
  match stored with
  | some user => .ok user
  | none =>
      match token.filter (· ≠ "") with
      | some token => authenticate jwt now token
      | none => .error .headerRequired

end ColabPlatform.Common
