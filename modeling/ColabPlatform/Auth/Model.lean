import ColabPlatform.Common.Auth
import ColabPlatform.Foundation.KeyStore
import ColabPlatform.Foundation.Table

/-!
# Auth service: sessions, revocation keys and tokens

A session is a row with the hash of its current refresh token.  Revocation is
recorded twice: in the row, and in keys of Redis that outlive a rollback.  Row
identifiers are the texts of their UUIDs.
-/

namespace ColabPlatform.Auth

open Foundation Common

structure User where
  id : String
  isActive : Bool
  emailVerifiedAt : Option Int
  deriving DecidableEq, Repr

structure SessionRow where
  id : String
  userId : String
  refreshTokenHash : String
  refreshJti : String
  userAgent : String
  ip : String
  lastSeenAt : Int
  createdAt : Int
  revokedAt : Option Int
  deriving DecidableEq, Repr

/-- `revoked:jti:…` and `revoked:session:…` -/
inductive RevokedKey where
  | jti (jti : String)
  | session (sessionId : String)
  deriving DecidableEq, Repr

/-- `drawn` counts the UUIDs drawn so far. -/
structure AuthState where
  sessions : Table SessionRow SessionRow.id (noAlt SessionRow)
  revoked : KeyStore RevokedKey Unit
  drawn : Nat

def AuthState.initial : AuthState := ⟨.empty, .empty, 0⟩

/--
The libraries and settings of the service.  Tokens signed by the service decode
to the claims that were signed, and no UUID is drawn twice.
-/
structure TokenService where
  jwt : Jwt
  /-- The verification in `colab_common.auth`. -/
  sharedJwt : Jwt
  encode : Claims → String
  encode_injective : Function.Injective encode
  decode_encode : ∀ claims verified,
    jwt.payload (encode claims) = some verified → verified = claims
  sha256 : Digest
  uuid : Nat → String
  uuid_injective : Function.Injective uuid
  accessTtlSeconds : Int
  refreshTtlSeconds : Int

/-- What an endpoint raises, with the message it puts into the error. -/
inductive CallError where
  | auth (message : String)
  | forbidden (message : String)
  | notFound (resource : String)
  | rateLimit
  | integrity
  | unavailable
  deriving DecidableEq, Repr

structure TokenPair where
  userId : String
  accessToken : String
  refreshToken : String
  deriving DecidableEq, Repr

abbrev Handler (α : Type) := AuthState → Except CallError α × AuthState

/--
`get_session`: what a call wrote to the database is committed when it returns
and rolled back when it raises.  Redis keys stay as they were written.
-/
def getSession {α : Type} (handler : Handler α) : Handler α := fun s =>
  match handler s with
  | (.ok value, s') => (.ok value, s')
  | (.error e, s') => (.error e, { s' with sessions := s.sessions })

/-! ## Minting -/

section Mint

variable (svc : TokenService)

/-- The claims signed by `_mint_access_token_sync`. -/
def accessClaims (now : Int) (userId sessionId jti : String)
    (emailVerified identityVerified : Bool) (scope : List String) : Claims where
  iss := some "auth.colab"
  aud := some ["api.colab"]
  sub := some userId
  jti := some jti
  iat := some now
  nbf := some now
  exp := some (now + svc.accessTtlSeconds)
  sid := some sessionId
  emailVerified := some emailVerified
  identityVerified := some identityVerified
  scope := some (if scope = [] then ["user"] else scope)
  typ := some "access"
  email := none
  roles := none
  tier := none

/-- The claims signed by `_mint_refresh_token_sync`. -/
def refreshClaims (now : Int) (userId sessionId jti : String) : Claims where
  iss := some "auth.colab"
  aud := none
  sub := some userId
  jti := some jti
  iat := some now
  nbf := some now
  exp := some (now + svc.refreshTtlSeconds)
  sid := some sessionId
  emailVerified := none
  identityVerified := none
  scope := none
  typ := some "refresh"
  email := none
  roles := none
  tier := none

/-- `str(uuid.uuid4())` -/
def drawUuid (s : AuthState) : String × AuthState :=
  (svc.uuid s.drawn, { s with drawn := s.drawn + 1 })

/-- `mint_refresh_token`: the token and its `jti`. -/
def mintRefreshToken (now : Int) (userId sessionId : String) (s : AuthState) :
    (String × String) × AuthState :=
  let (jti, s) := drawUuid svc s
  ((svc.encode (refreshClaims svc now userId sessionId jti), jti), s)

def mintAccessToken (now : Int) (userId sessionId : String) (emailVerified : Bool)
    (s : AuthState) : String × AuthState :=
  let (jti, s) := drawUuid svc s
  (svc.encode (accessClaims svc now userId sessionId jti emailVerified false []), s)

/-- `hash_token_str` -/
def hashTokenStr (token : String) : String := svc.sha256.hex token

end Mint

/-! ## Verification -/

/-- The audience check of the library, made for access tokens only. -/
def checkAudience (claims : Claims) : Except AuthError Claims :=
  match claims.aud with
  | none => .error (.invalidToken "Token is missing the \"aud\" claim")
  | some aud =>
      if "api.colab" ∈ aud then .ok claims
      else .error (.invalidToken "Audience doesn't match")

/-- `_decode_token_sync` -/
def decodeTokenSync (svc : TokenService) (now : Int) (token expectedType : String) :
    Except AuthError Claims := do
  let claims ← decodeToken svc.jwt now token
  let claims ← if expectedType = "access" then checkAudience claims else .ok claims
  if claims.typ = some expectedType then .ok claims
  else .error (.invalidToken ("Expected token type '" ++ expectedType ++ "'"))

def decodeRefreshToken (svc : TokenService) (now : Int) (token : String) :
    Except CallError Claims :=
  (decodeTokenSync svc now token "refresh").mapError fun
    | .invalidToken reason => .auth ("Invalid refresh token: " ++ reason)
    | _ => .auth "Refresh token has expired. Please log in again."

/-! ## Revocation keys -/

namespace AuthState

def markJtiRevoked (s : AuthState) (now : Int) (jti : String) (ttl : Int) :
    AuthState :=
  { s with revoked := s.revoked.setEx now ttl (.jti jti) () }

def isJtiRevoked (s : AuthState) (now : Int) (jti : String) : Bool :=
  s.revoked.exists? now (.jti jti)

def markSessionRevoked (s : AuthState) (now : Int) (sessionId : String) :
    AuthState :=
  { s with revoked := s.revoked.setEx now 2592000 (.session sessionId) () }

def isSessionRevoked (s : AuthState) (now : Int) (sessionId : String) : Bool :=
  s.revoked.exists? now (.session sessionId)

/-- `db_session.revoked_at = now` -/
def setRevokedAt (s : AuthState) (now : Int) (sessionId : String) : AuthState :=
  { s with
    sessions := s.sessions.modify sessionId fun row =>
      { row with revokedAt := some now } }

/-- The session row with this refresh token hash. -/
def sessionOfHash (s : AuthState) (hash : String) : Option SessionRow :=
  s.sessions.rows.find? fun row => row.refreshTokenHash = hash

/-- The same among the rows that are not revoked. -/
def liveSessionOfHash (s : AuthState) (hash : String) : Option SessionRow :=
  s.sessions.rows.find? fun row =>
    row.refreshTokenHash = hash && row.revokedAt.isNone

end AuthState

end ColabPlatform.Auth
