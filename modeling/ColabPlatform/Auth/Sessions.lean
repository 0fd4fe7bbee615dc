import ColabPlatform.Auth.Model

/-!
# Auth service: login, refresh, logout and revocation

The endpoints as they run on a session that `get_session` commits or rolls
back.  What a login route checks before it issues tokens, and the users table,
are part of the call.
-/

namespace ColabPlatform.Auth

open Foundation Common

/-- What flushing a new row raises or stores. -/
def addSession (row : SessionRow) : Handler Unit := fun s =>
  let taken := s.sessions.rows.any fun other =>
    other.refreshTokenHash = row.refreshTokenHash || other.refreshJti = row.refreshJti
  match s.sessions.insert? row with
  | some sessions =>
      if taken then (.error .integrity, s) else (.ok (), { s with sessions })
  | none => (.error .integrity, s)

/-- What flushing the new token of a row raises or stores. -/
def updateSession (now : Int) (sessionId hash jti : String) : Handler Unit := fun s =>
  let taken := s.sessions.rows.any fun other =>
    other.id ≠ sessionId && (other.refreshTokenHash = hash || other.refreshJti = jti)
  if taken then (.error .integrity, s)
  else
    (.ok (), { s with
      sessions := s.sessions.modify sessionId fun row =>
        { row with refreshTokenHash := hash, refreshJti := jti, lastSeenAt := now } })

/-- All that storing a new row can do. -/
theorem addSession_spec {row : SessionRow} {s : AuthState}
    {outcome : Except CallError Unit × AuthState} (ran : addSession row s = outcome) :
    outcome = (.error .integrity, s) ∨
      ∃ sessions, sessions.rows = row :: s.sessions.rows ∧
        outcome = (.ok (), { s with sessions }) := by
  subst ran
  unfold addSession
  cases inserted : s.sessions.insert? row with
  | none => exact Or.inl rfl
  | some sessions =>
      dsimp only
      split
      · exact Or.inl rfl
      · exact Or.inr ⟨sessions, (Table.insert?_eq_some inserted).2, rfl⟩

/-- All that storing the new token of a row can do. -/
theorem updateSession_spec {now : Int} {sessionId hash jti : String} {s : AuthState}
    {outcome : Except CallError Unit × AuthState}
    (ran : updateSession now sessionId hash jti s = outcome) :
    outcome = (.error .integrity, s) ∨
      ∃ sessions, (sessions.rows = s.sessions.rows.map fun row =>
        if row.id = sessionId then
          { row with refreshTokenHash := hash, refreshJti := jti, lastSeenAt := now }
        else row) ∧ outcome = (.ok (), { s with sessions }) := by
  subst ran
  unfold updateSession
  dsimp only
  split
  · exact Or.inl rfl
  · exact Or.inr ⟨_, rfl, rfl⟩

section Endpoints

variable (svc : TokenService) (now : Int)

/-- `_issue_token_pair` -/
def issueTokenPair (user : User) (ip userAgent : String) : Handler TokenPair := fun s =>
  let (sessionId, s) := drawUuid svc s
  let ((refreshToken, refreshJti), s) :=
    mintRefreshToken svc now user.id sessionId s
  let (accessToken, s) :=
    mintAccessToken svc now user.id sessionId user.emailVerifiedAt.isSome s
  match addSession
      { id := sessionId, userId := user.id,
        refreshTokenHash := hashTokenStr svc refreshToken, refreshJti, userAgent, ip,
        lastSeenAt := now, createdAt := now, revokedAt := none } s with
  | (.ok _, s) => (.ok { userId := user.id, accessToken, refreshToken }, s)
  | (.error e, s) => (.error e, s)

def login (account : Except CallError User) (ip userAgent : String) :
    Handler TokenPair := fun s =>
  match account with
  | .ok user => issueTokenPair svc now user ip userAgent s
  | .error e => (.error e, s)

def replayMessage : String :=
  "Token has already been used. Session revoked for security."

/-- The rotation itself: revoke the old token, mint new ones, update the row. -/
def rotate (claims : Claims) (row : SessionRow) (user : User) :
    Handler TokenPair := fun s =>
  let userId := claims.sub.getD ""
  let sessionId := claims.sid.getD ""
  let s := s.markJtiRevoked now (claims.jti.getD "") svc.refreshTtlSeconds
  let ((newRefresh, newJti), s) := mintRefreshToken svc now userId sessionId s
  let (newAccess, s) :=
    mintAccessToken svc now userId sessionId user.emailVerifiedAt.isSome s
  match updateSession now row.id (hashTokenStr svc newRefresh) newJti s with
  | (.ok _, s) =>
      (.ok { userId := user.id, accessToken := newAccess,
             refreshToken := newRefresh }, s)
  | (.error e, s) => (.error e, s)

/-- The session and user a token that is not revoked may be exchanged for. -/
def findExchange (users : String → Option User) (token : String) (claims : Claims)
    (s : AuthState) : Except CallError (SessionRow × User) :=
  match s.liveSessionOfHash (hashTokenStr svc token) with
  | none => .error (.auth "Session not found or revoked.")
  | some row =>
      match users (claims.sub.getD "") with
      | none => .error (.auth "User not found or deactivated.")
      | some user =>
          if user.isActive then .ok (row, user)
          else .error (.auth "User not found or deactivated.")

def refreshToken (allowed : Bool) (users : String → Option User) (token : String) :
    Handler TokenPair := fun s =>
  if allowed then
    match decodeRefreshToken svc now token with
    | .error e => (.error e, s)
    | .ok claims =>
        if s.isJtiRevoked now (claims.jti.getD "") then
          -- Both records are written, then the error undoes the row's.
          let sessionId := claims.sid.getD ""
          (.error (.auth replayMessage),
            (s.markSessionRevoked now sessionId).setRevokedAt now sessionId)
        else
          match findExchange svc users token claims s with
          | .error e => (.error e, s)
          | .ok (row, user) => rotate svc now claims row user s
  else (.error .rateLimit, s)

/-- A token that does not decode is answered like one that does. -/
def logout (token : String) : Handler Unit := fun s =>
  match decodeRefreshToken svc now token with
  | .error _ => (.ok (), s)
  | .ok claims =>
      match s.sessionOfHash (hashTokenStr svc token) with
      | none => (.ok (), s)
      | some row =>
          if row.revokedAt.isSome then (.ok (), s)
          else
            (.ok (), ((s.setRevokedAt now row.id).markSessionRevoked now
              (claims.sid.getD "")).markJtiRevoked now (claims.jti.getD "") 2592000)

/-- `require_user`, on a service that has no middleware before it. -/
def currentUser (token : Option String) : Except CallError AuthUser :=
  (requireUser svc.sharedJwt now none token).mapError fun e => .auth e.message

/-- Both records of the revocation of one session. -/
def revoke (sessionId : String) (s : AuthState) : AuthState :=
  (s.setRevokedAt now sessionId).markSessionRevoked now sessionId

def logoutAll (token : Option String) : Handler Unit := fun s =>
  match currentUser svc now token with
  | .error e => (.error e, s)
  | .ok user =>
      let live := s.sessions.rows.filter fun row =>
        row.userId = user.userId && row.revokedAt.isNone
      (.ok (), live.foldl (fun s row => revoke now row.id s) s)

structure SessionOut where
  id : String
  userAgent : String
  ip : String
  lastSeenAt : Int
  createdAt : Int
  isCurrent : Bool
  deriving DecidableEq, Repr

def listSessions (user : AuthUser) (s : AuthState) : List SessionOut :=
  let live := s.sessions.rows.filter fun row =>
    row.userId = user.userId && row.revokedAt.isNone
  live.map fun row =>
    { id := row.id, userAgent := row.userAgent, ip := row.ip,
      lastSeenAt := row.lastSeenAt, createdAt := row.createdAt,
      isCurrent := row.id = user.rawClaims.sid.getD "" }

def revokeSession (token : Option String) (sessionId : String) :
    Handler (List SessionOut) := fun s =>
  match currentUser svc now token with
  | .error e => (.error e, s)
  | .ok user =>
      match s.sessions.lookup sessionId with
      | none => (.error (.notFound "Session"), s)
      | some row =>
          if row.userId = user.userId then
            let s := revoke now sessionId s
            (.ok (listSessions user s), s)
          else
            (.error (.forbidden "You cannot revoke another user's session."), s)

end Endpoints

/-! ## Calls -/

inductive Endpoint where
  | login (account : Except CallError User) (ip userAgent : String)
  | refresh (allowed : Bool) (users : String → Option User) (token : String)
  | logout (token : String)
  | logoutAll (token : Option String)
  | revokeSession (token : Option String) (sessionId : String)

structure Call where
  now : Int
  endpoint : Endpoint

/-- The token pair a call returns, if it returns one. -/
def respond (svc : TokenService) (c : Call) (s : AuthState) :
    Except CallError (Option TokenPair) × AuthState :=
  match c.endpoint with
  | .login account ip userAgent =>
      let (result, s) := getSession (login svc c.now account ip userAgent) s
      (result.map some, s)
  | .refresh allowed users token =>
      let (result, s) := getSession (refreshToken svc c.now allowed users token) s
      (result.map some, s)
  | .logout token =>
      let (result, s) := getSession (logout svc c.now token) s
      (result.map fun _ => none, s)
  | .logoutAll token =>
      let (result, s) := getSession (logoutAll svc c.now token) s
      (result.map fun _ => none, s)
  | .revokeSession token sessionId =>
      let (result, s) := getSession (revokeSession svc c.now token sessionId) s
      (result.map fun _ => none, s)

def step (svc : TokenService) (s : AuthState) (c : Call) : AuthState :=
  (respond svc c s).2

end ColabPlatform.Auth
