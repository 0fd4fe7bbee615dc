import ColabPlatform.Auth.Revocation
import ColabPlatform.Foundation.Interleaving

/-!
# Auth service: concurrent rotations

A refresh request is cut into the steps between its calls to Redis and the
database: the check of the revocation key, the lookup of the session and its
user, the revocation of the presented token, the minting, the update of the
row and the commit.  Steps of any number of requests interleave; what a request
wrote to the row is seen by others from its commit on.
-/

namespace ColabPlatform.Auth

open Foundation Common

/-! ## One request, step by step -/

/-- What the lookup of a request has found. -/
structure Exchange where
  claims : Claims
  row : SessionRow
  user : User
  deriving DecidableEq, Repr

structure MintedPair where
  refreshToken : String
  refreshJti : String
  accessToken : String
  deriving DecidableEq, Repr

inductive Phase where
  | received
  | unused (claims : Claims)
  | found (exchange : Exchange)
  | revoked (exchange : Exchange)
  | minted (exchange : Exchange) (tokens : MintedPair)
  | updated (exchange : Exchange) (tokens : MintedPair) (seen : Int)
  | done (result : Except CallError TokenPair)

namespace Phase

/-- The session a request has loaded and not yet let go of. -/
def exchange? : Phase → Option Exchange
  | found x | revoked x | minted x _ | updated x _ _ => some x
  | received | unused _ | done _ => none

/-- The tokens a request has minted and not yet stored. -/
def minted? : Phase → Option MintedPair
  | minted _ tokens | updated _ tokens _ => some tokens
  | _ => none

end Phase

/-- One step of a refresh request for `token`. -/
def advance (svc : TokenService) (now : Int) (users : String → Option User)
    (token : String) (phase : Phase) (s : AuthState) : Phase × AuthState :=
  match phase with
  | .received =>
      match decodeRefreshToken svc now token with
      | .error e => (.done (.error e), s)
      | .ok claims =>
          if s.isJtiRevoked now (claims.jti.getD "") then
            (.done (.error (.auth replayMessage)),
              s.markSessionRevoked now (claims.sid.getD ""))
          else (.unused claims, s)
  | .unused claims =>
      match findExchange svc users token claims s with
      | .error e => (.done (.error e), s)
      | .ok (row, user) => (.found ⟨claims, row, user⟩, s)
  | .found x =>
      (.revoked x,
        s.markJtiRevoked now (x.claims.jti.getD "") svc.refreshTtlSeconds)
  | .revoked x =>
      let userId := x.claims.sub.getD ""
      let sessionId := x.claims.sid.getD ""
      let ((refreshToken, refreshJti), s) :=
        mintRefreshToken svc now userId sessionId s
      let (accessToken, s) :=
        mintAccessToken svc now userId sessionId x.user.emailVerifiedAt.isSome s
      (.minted x { refreshToken, refreshJti, accessToken }, s)
  | .minted x tokens => (.updated x tokens now, s)
  | .updated x tokens seen =>
      match updateSession seen x.row.id (hashTokenStr svc tokens.refreshToken)
          tokens.refreshJti s with
      | (.ok _, s) =>
          (.done (.ok { userId := x.user.id, accessToken := tokens.accessToken,
                        refreshToken := tokens.refreshToken }), s)
      | (.error e, s) => (.done (.error e), s)
  | .done result => (.done result, s)

/-- Several steps of one request that nothing interrupts. -/
def advanceMany (svc : TokenService) (now : Int) (users : String → Option User)
    (token : String) : Nat → Phase × AuthState → Phase × AuthState
  | 0, at_ => at_
  | n + 1, at_ => advanceMany svc now users token n
      (advance svc now users token at_.1 at_.2)

theorem advanceMany_done (svc : TokenService) (now : Int)
    (users : String → Option User) (token : String) (n : Nat)
    (result : Except CallError TokenPair) (s : AuthState) :
    advanceMany svc now users token n (.done result, s) = (.done result, s) := by
  induction n with
  | zero => rfl
  | succ n ih => exact ih

/-- Uninterrupted, the steps are the refresh endpoint. -/
theorem advanceMany_eq_refreshToken (svc : TokenService) (now : Int)
    (users : String → Option User) (token : String) (s : AuthState) :
    advanceMany svc now users token 6 (.received, s) =
      (.done (getSession (refreshToken svc now true users token) s).1,
        (getSession (refreshToken svc now true users token) s).2) := by
  rw [advanceMany]
  unfold refreshToken getSession
  simp only [advance, if_true]
  cases decoded : decodeRefreshToken svc now token with
  | error e => simp [advanceMany_done]
  | ok claims =>
      by_cases used : s.isJtiRevoked now (claims.jti.getD "")
      · simp [used, advanceMany_done, AuthState.setRevokedAt,
          AuthState.markSessionRevoked]
      · simp only [used, Bool.false_eq_true, if_false]
        rw [advanceMany]
        simp only [advance]
        cases found : findExchange svc users token claims s with
        | error e => simp only [advanceMany_done]
        | ok exchange =>
            simp only [advanceMany, advance, rotate]
            generalize stored : updateSession _ _ _ _ _ = outcome
            obtain rfl | ⟨sessions, -, rfl⟩ := updateSession_spec stored <;> rfl

/-! ## Requests in flight -/

structure InFlight where
  token : String
  phase : Phase

/-- `exchanged` lists the tokens for which pairs were returned, last first. -/
structure Service where
  auth : AuthState
  requests : List InFlight
  exchanged : List String

/-- A request between its lookup and its end. -/
structure Holder where
  token : String
  exchange : Exchange
  minted : Option MintedPair
  deriving DecidableEq, Repr

def InFlight.holder (r : InFlight) : Option Holder :=
  r.phase.exchange?.map fun exchange => ⟨r.token, exchange, r.phase.minted?⟩

namespace Service

def initial : Service := ⟨.initial, [], []⟩

def holder (s : Service) (index : Nat) : Option Holder :=
  s.requests[index]?.bind InFlight.holder

inductive Event where
  | login (now : Int) (user : User) (ip userAgent : String)
  | receive (token : String)
  | advance (index : Nat) (now : Int) (users : String → Option User)
  | abort (index : Nat)

/-- The token that a step has answered with a pair. -/
def answered (before after : Phase) (token : String) : List String :=
  match before, after with
  | .updated _ _ _, .done (.ok _) => [token]
  | _, _ => []

/-- What a request becomes when something raises under it. -/
def aborted (phase : Phase) : Phase :=
  match phase with
  | .done result => .done result
  | _ => .done (.error .unavailable)

def step (svc : TokenService) (s : Service) : Event → Service
  | .login now user ip userAgent =>
      { s with auth := (getSession (login svc now (.ok user) ip userAgent) s.auth).2 }
  | .receive token => { s with requests := s.requests ++ [⟨token, .received⟩] }
  | .advance index now users =>
      match s.requests[index]? with
      | none => s
      | some r =>
          let (phase, auth) := Auth.advance svc now users r.token r.phase s.auth
          { auth, requests := s.requests.set index { r with phase },
            exchanged := answered r.phase phase r.token ++ s.exchanged }
  | .abort index =>
      match s.requests[index]? with
      | none => s
      | some r => { s with
          requests := s.requests.set index { r with phase := aborted r.phase } }

/--
A request looks its session up only while no other request for the same token
is between its own lookup and its end.
-/
def Exclusive (s : Service) : Event → Prop
  | .advance index _ _ =>
      match s.requests[index]? with
      | some ⟨token, .unused _⟩ =>
          ∀ r ∈ s.requests, r.token = token → r.holder = none
      | _ => True
  | _ => True

/-- A token that could still be exchanged: it is current, or under way. -/
def Exchangeable (svc : TokenService) (s : Service) (sessionId token : String) :
    Prop :=
  (∃ row ∈ s.auth.sessions.rows, row.id = sessionId ∧ row.revokedAt = none ∧
    row.refreshTokenHash = hashTokenStr svc token) ∨
  ∃ index holder, s.holder index = some holder ∧ holder.token = token ∧
    holder.exchange.row.id = sessionId

/-! ## The invariant -/

/-- A refresh token of the session, with a `jti` that has been drawn. -/
def Signed (svc : TokenService) (s : AuthState) (sessionId token : String) : Prop :=
  ∃ claims index, token = svc.encode claims ∧ claims.sid = some sessionId ∧
    claims.jti = some (svc.uuid index) ∧ index < s.drawn

/-- No row holds the hash of this token. -/
def Unstored (svc : TokenService) (s : AuthState) (token : String) : Prop :=
  ∀ row ∈ s.sessions.rows, row.refreshTokenHash ≠ hashTokenStr svc token

structure Inv (svc : TokenService) (s : Service) : Prop where
  rows : ∀ row ∈ s.auth.sessions.rows, ∃ token,
    row.refreshTokenHash = hashTokenStr svc token ∧ Signed svc s.auth row.id token
  checked : ∀ r ∈ s.requests, ∀ claims, r.phase = .unused claims →
    svc.jwt.payload r.token = some claims
  holds : ∀ index holder, s.holder index = some holder →
    holder.exchange.claims.sid = some holder.exchange.row.id ∧
      ∃ row ∈ s.auth.sessions.rows, row.id = holder.exchange.row.id ∧
        row.refreshTokenHash = hashTokenStr svc holder.token
  apart : ∀ index index' holder holder', s.holder index = some holder →
    s.holder index' = some holder' → holder.token = holder'.token → index = index'
  minted : ∀ index holder, s.holder index = some holder → ∀ tokens ∈ holder.minted,
    Signed svc s.auth holder.exchange.row.id tokens.refreshToken ∧
      Unstored svc s.auth tokens.refreshToken ∧ tokens.refreshToken ∉ s.exchanged
  mintedApart : ∀ index index' holder holder', s.holder index = some holder →
    s.holder index' = some holder' → ∀ tokens ∈ holder.minted,
      ∀ tokens' ∈ holder'.minted, tokens.refreshToken = tokens'.refreshToken →
        index = index'
  spent : ∀ token ∈ s.exchanged,
    (∃ sessionId, Signed svc s.auth sessionId token) ∧ Unstored svc s.auth token
  nodup : s.exchanged.Nodup

variable {svc : TokenService} {s : Service}

theorem Signed.mono {a a' : AuthState} {sessionId token : String}
    (more : a.drawn ≤ a'.drawn) (signed : Signed svc a sessionId token) :
    Signed svc a' sessionId token := by
  obtain ⟨claims, index, text, sid, jti, drawn⟩ := signed
  exact ⟨claims, index, text, sid, jti, Nat.lt_of_lt_of_le drawn more⟩

/-- A token belongs to one session. -/
theorem Signed.unique {a a' : AuthState} {sessionId sessionId' token : String}
    (signed : Signed svc a sessionId token) (signed' : Signed svc a' sessionId' token) :
    sessionId = sessionId' := by
  obtain ⟨claims, -, text, sid, -⟩ := signed
  obtain ⟨claims', -, text', sid', -⟩ := signed'
  obtain rfl := svc.encode_injective (text.symm.trans text')
  exact Option.some.inj (sid.symm.trans sid')

/-- A token with a `jti` that is drawn now differs from all signed before. -/
theorem Signed.ne_of_fresh {a : AuthState} {sessionId token : String} {claims : Claims}
    {fresh : Nat} (signed : Signed svc a sessionId token) (new : a.drawn ≤ fresh)
    (jti : claims.jti = some (svc.uuid fresh)) : token ≠ svc.encode claims := by
  rintro rfl
  obtain ⟨claims', index, text, -, jti', drawn⟩ := signed
  obtain rfl := svc.encode_injective text
  have same := svc.uuid_injective (Option.some.inj (jti.symm.trans jti'))
  omega

theorem holder_set {index index' : Nat} {r r' : InFlight} {auth : AuthState}
    {exchanged : List String} (at_ : s.requests[index]? = some r) :
    (⟨auth, s.requests.set index r', exchanged⟩ : Service).holder index' =
      if index' = index then r'.holder else s.holder index' := by
  have bound : index < s.requests.length := (List.getElem?_eq_some_iff.1 at_).1
  unfold holder
  rw [List.getElem?_set]
  by_cases same : index = index'
  · subst same
    simp [bound]
  · simp [same, Ne.symm same]

/-- A step that only lets go of sessions keeps the invariant. -/
theorem Inv.shrink {s' : Service} (inv : Inv svc s)
    (sessions : s'.auth.sessions = s.auth.sessions)
    (drawn : s.auth.drawn ≤ s'.auth.drawn) (exchanged : s'.exchanged = s.exchanged)
    (checked : ∀ r ∈ s'.requests, ∀ claims, r.phase = .unused claims →
      svc.jwt.payload r.token = some claims)
    (fewer : ∀ index holder, s'.holder index = some holder →
      s.holder index = some holder) : Inv svc s' where
  rows := by
    intro row mem
    rw [sessions] at mem
    obtain ⟨token, hash, signed⟩ := inv.rows row mem
    exact ⟨token, hash, signed.mono drawn⟩
  checked := checked
  holds index holder held := by
    rw [sessions]
    exact inv.holds index holder (fewer index holder held)
  apart index index' holder holder' held held' :=
    inv.apart index index' holder holder' (fewer _ _ held) (fewer _ _ held')
  minted index holder held tokens mem := by
    obtain ⟨signed, unstored, unspent⟩ := inv.minted index holder (fewer _ _ held) tokens mem
    refine ⟨signed.mono drawn, ?_, exchanged ▸ unspent⟩
    unfold Unstored
    rwa [sessions]
  mintedApart index index' holder holder' held held' :=
    inv.mintedApart index index' holder holder' (fewer _ _ held) (fewer _ _ held')
  spent token mem := by
    rw [exchanged] at mem
    obtain ⟨⟨sessionId, signed⟩, unstored⟩ := inv.spent token mem
    refine ⟨⟨sessionId, signed.mono drawn⟩, ?_⟩
    unfold Unstored
    rwa [sessions]
  nodup := exchanged ▸ inv.nodup

theorem hash_ne {token token' : String} (other : token ≠ token') :
    hashTokenStr svc token ≠ hashTokenStr svc token' :=
  fun same => other (svc.sha256.injective same)

/-- A new row with a new token leaves everything under way as it is. -/
theorem Inv.insert {auth : AuthState} {row : SessionRow} {claims : Claims}
    {fresh : Nat} (inv : Inv svc s)
    (rows : auth.sessions.rows = row :: s.auth.sessions.rows)
    (hash : row.refreshTokenHash = hashTokenStr svc (svc.encode claims))
    (sid : claims.sid = some row.id) (jti : claims.jti = some (svc.uuid fresh))
    (new : s.auth.drawn ≤ fresh) (drawn : fresh < auth.drawn) :
    Inv svc { s with auth } := by
  have more : s.auth.drawn ≤ auth.drawn := by omega
  have stays {sessionId token : String} (signed : Signed svc s.auth sessionId token)
      (unstored : Unstored svc s.auth token) : Unstored svc auth token := by
    intro other mem
    rw [rows] at mem
    rcases List.mem_cons.1 mem with rfl | old
    · rw [hash]
      exact (hash_ne (signed.ne_of_fresh new jti)).symm
    · exact unstored other old
  constructor
  · intro other mem
    rw [rows] at mem
    rcases List.mem_cons.1 mem with rfl | old
    · exact ⟨svc.encode claims, hash, claims, fresh, rfl, sid, jti, drawn⟩
    · obtain ⟨token, same, signed⟩ := inv.rows other old
      exact ⟨token, same, signed.mono more⟩
  · exact inv.checked
  · intro index holder held
    obtain ⟨own, other, mem, rest⟩ := inv.holds index holder held
    exact ⟨own, other, by simp [rows, mem], rest⟩
  · exact inv.apart
  · intro index holder held tokens mem
    obtain ⟨signed, unstored, unspent⟩ := inv.minted index holder held tokens mem
    exact ⟨signed.mono more, stays signed unstored, unspent⟩
  · exact inv.mintedApart
  · intro token mem
    obtain ⟨⟨sessionId, signed⟩, unstored⟩ := inv.spent token mem
    exact ⟨⟨sessionId, signed.mono more⟩, stays signed unstored⟩
  · exact inv.nodup

theorem Inv.login (inv : Inv svc s) (now : Int) (user : User) (ip userAgent : String) :
    Inv svc (step svc s (.login now user ip userAgent)) := by
  simp only [step, getSession, Auth.login, issueTokenPair, mintRefreshToken,
    mintAccessToken, drawUuid]
  generalize stored : addSession _ _ = outcome
  obtain rfl | ⟨sessions, rows, rfl⟩ := addSession_spec stored
  · exact inv.shrink rfl (by dsimp only; omega) rfl inv.checked fun _ _ held => held
  · exact inv.insert rows rfl rfl rfl (Nat.le_succ _) (by simp)

section Advance

variable {index : Nat} {r : InFlight}

/-- A step that finds nothing, stores nothing and mints nothing. -/
theorem Inv.quiet (inv : Inv svc s) {auth : AuthState} {phase : Phase}
    (at_ : s.requests[index]? = some r) (sessions : auth.sessions = s.auth.sessions)
    (drawn : auth.drawn = s.auth.drawn)
    (checked : ∀ claims, phase = .unused claims → svc.jwt.payload r.token = some claims)
    (fewer : ∀ holder, ({ r with phase } : InFlight).holder = some holder →
      r.holder = some holder) :
    Inv svc ⟨auth, s.requests.set index { r with phase }, s.exchanged⟩ := by
  refine inv.shrink sessions drawn.ge rfl (forall_mem_set checked inv.checked) ?_
  intro index' holder held
  rw [holder_set at_] at held
  split at held
  · rename_i same
    have own : s.holder index' = r.holder := by
      rw [same, Service.holder, at_, Option.bind_some]
    rw [own]
    exact fewer holder held
  · exact held

theorem Inv.lookup (inv : Inv svc s) {users : String → Option User} {claims : Claims}
    {row : SessionRow} {user : User} (at_ : s.requests[index]? = some r)
    (phase : r.phase = .unused claims)
    (alone : ∀ r' ∈ s.requests, r'.token = r.token → r'.holder = none)
    (exchange : findExchange svc users r.token claims s.auth = .ok (row, user)) :
    Inv svc ⟨s.auth,
      s.requests.set index { r with phase := .found ⟨claims, row, user⟩ },
      s.exchanged⟩ := by
  obtain ⟨mem, hash, -⟩ := findExchange_eq_ok exchange
  have own : claims.sid = some row.id := by
    obtain ⟨token, same, signed⟩ := inv.rows row mem
    obtain ⟨signedClaims, -, text, sid, -⟩ := signed
    have token_eq : token = r.token := svc.sha256.injective (same.symm.trans hash)
    have verified := inv.checked r (List.mem_of_getElem? at_) claims phase
    rw [← token_eq, text] at verified
    rw [svc.decode_encode signedClaims claims verified, sid]
  have other {index' : Nat} {holder : Holder} (held : s.holder index' = some holder) :
      holder.token ≠ r.token := by
    intro same
    obtain ⟨r', at', held'⟩ := Option.bind_eq_some_iff.1 held
    obtain ⟨x, -, rfl⟩ := Option.map_eq_some_iff.1 held'
    have none_held := alone r' (List.mem_of_getElem? at') same
    rw [none_held] at held'
    cases held'
  constructor
  · exact inv.rows
  · exact forall_mem_set (fun _ h => nomatch h) inv.checked
  · intro index' holder held
    rw [holder_set at_] at held
    split at held
    · obtain rfl := Option.some.inj held
      exact ⟨own, row, mem, rfl, hash⟩
    · exact inv.holds index' holder held
  · intro i j h h' held held' same
    rw [holder_set at_] at held held'
    split at held <;> split at held'
    · omega
    · obtain rfl := Option.some.inj held
      exact absurd same.symm (other held')
    · obtain rfl := Option.some.inj held'
      exact absurd same (other held)
    · exact inv.apart i j h h' held held' same
  · intro index' holder held tokens minted
    rw [holder_set at_] at held
    split at held
    · obtain rfl := Option.some.inj held
      cases minted
    · exact inv.minted index' holder held tokens minted
  · intro i j h h' held held' tokens minted tokens' minted' same
    rw [holder_set at_] at held held'
    split at held <;> split at held'
    · omega
    · obtain rfl := Option.some.inj held
      cases minted
    · obtain rfl := Option.some.inj held'
      cases minted'
    · exact inv.mintedApart i j h h' held held' tokens minted tokens' minted' same
  · exact inv.spent
  · exact inv.nodup

theorem holder_of_phase {x : Exchange} (at_ : s.requests[index]? = some r)
    (phase : r.phase.exchange? = some x) :
    s.holder index = some ⟨r.token, x, r.phase.minted?⟩ := by
  simp [Service.holder, InFlight.holder, at_, phase]

theorem Inv.mint (inv : Inv svc s) {auth : AuthState} {x : Exchange} {claims : Claims}
    {tokens : MintedPair} (at_ : s.requests[index]? = some r)
    (phase : r.phase = .revoked x) (sessions : auth.sessions = s.auth.sessions)
    (drawn : s.auth.drawn < auth.drawn)
    (text : tokens.refreshToken = svc.encode claims)
    (sid : claims.sid = some (x.claims.sid.getD ""))
    (jti : claims.jti = some (svc.uuid s.auth.drawn)) :
    Inv svc ⟨auth, s.requests.set index { r with phase := .minted x tokens },
      s.exchanged⟩ := by
  have more : s.auth.drawn ≤ auth.drawn := drawn.le
  have held_before : s.holder index = some ⟨r.token, x, none⟩ := by
    rw [holder_of_phase at_ (by rw [phase]; rfl), phase]
    rfl
  obtain ⟨own, stored⟩ := inv.holds index _ held_before
  have signed : Signed svc auth x.row.id tokens.refreshToken :=
    ⟨claims, s.auth.drawn, text, by rw [sid, own]; rfl, jti, drawn⟩
  -- Whatever was signed before has an earlier `jti`.
  have fresh {sessionId token : String} (old : Signed svc s.auth sessionId token) :
      token ≠ tokens.refreshToken := by
    rw [text]
    exact old.ne_of_fresh le_rfl jti
  have keep {token : String} (unstored : Unstored svc s.auth token) :
      Unstored svc auth token := by
    unfold Unstored
    rwa [sessions]
  constructor
  · intro row mem
    rw [sessions] at mem
    obtain ⟨token, hash, old⟩ := inv.rows row mem
    exact ⟨token, hash, old.mono more⟩
  · exact forall_mem_set (fun _ h => nomatch h) inv.checked
  · intro index' holder held
    rw [holder_set at_] at held
    rw [sessions]
    split at held
    · obtain rfl := Option.some.inj held
      exact ⟨own, stored⟩
    · exact inv.holds index' holder held
  · intro i j h h' held held' same
    rw [holder_set at_] at held held'
    split at held <;> split at held'
    · omega
    · obtain rfl := Option.some.inj held
      have := inv.apart index j _ h' held_before held' same
      omega
    · obtain rfl := Option.some.inj held'
      have := inv.apart i index h _ held held_before same
      omega
    · exact inv.apart i j h h' held held' same
  · intro index' holder held tokens' minted
    rw [holder_set at_] at held
    split at held
    · obtain rfl := Option.some.inj held
      obtain rfl : tokens = tokens' := Option.some.inj minted
      refine ⟨signed, ?_, fun spent => ?_⟩
      · refine keep fun row mem same => ?_
        obtain ⟨token, hash, old⟩ := inv.rows row mem
        exact hash_ne (fresh old) (hash.symm.trans same)
      · obtain ⟨⟨sessionId, old⟩, -⟩ := inv.spent _ spent
        exact fresh old rfl
    · obtain ⟨old, unstored, unspent⟩ := inv.minted index' holder held tokens' minted
      exact ⟨old.mono more, keep unstored, unspent⟩
  · intro i j h h' held held' tokens₁ minted₁ tokens₂ minted₂ same
    rw [holder_set at_] at held held'
    split at held <;> split at held'
    · omega
    · obtain rfl := Option.some.inj held
      obtain rfl : tokens = tokens₁ := Option.some.inj minted₁
      exact absurd same.symm (fresh (inv.minted j h' held' tokens₂ minted₂).1)
    · obtain rfl := Option.some.inj held'
      obtain rfl : tokens = tokens₂ := Option.some.inj minted₂
      exact absurd same (fresh (inv.minted i h held tokens₁ minted₁).1)
    · exact inv.mintedApart i j h h' held held' tokens₁ minted₁ tokens₂ minted₂ same
  · intro token mem
    obtain ⟨⟨sessionId, old⟩, unstored⟩ := inv.spent token mem
    exact ⟨⟨sessionId, old.mono more⟩, keep unstored⟩
  · exact inv.nodup

theorem Inv.commit (inv : Inv svc s) {auth : AuthState} {x : Exchange}
    {tokens : MintedPair} {seen : Int} {jti : String} {result : TokenPair}
    (at_ : s.requests[index]? = some r) (phase : r.phase = .updated x tokens seen)
    (drawn : auth.drawn = s.auth.drawn)
    (rows : auth.sessions.rows = s.auth.sessions.rows.map fun row =>
      if row.id = x.row.id then
        { row with
          refreshTokenHash := hashTokenStr svc tokens.refreshToken
          refreshJti := jti, lastSeenAt := seen }
      else row) :
    Inv svc ⟨auth, s.requests.set index { r with phase := .done (.ok result) },
      r.token :: s.exchanged⟩ := by
  have held_before : s.holder index = some ⟨r.token, x, some tokens⟩ := by
    rw [holder_of_phase at_ (by rw [phase]; rfl), phase]
    rfl
  obtain ⟨own, current, currentMem, currentId, currentHash⟩ :=
    inv.holds index _ held_before
  obtain ⟨newSigned, newUnstored, newUnspent⟩ :=
    inv.minted index _ held_before tokens rfl
  obtain ⟨old, oldHash, oldSigned⟩ := inv.rows current currentMem
  obtain rfl : old = r.token := svc.sha256.injective (oldHash.symm.trans currentHash)
  have other_holder {index' : Nat} {holder : Holder}
      (held : (⟨auth, s.requests.set index { r with phase := .done (.ok result) },
        r.token :: s.exchanged⟩ : Service).holder index' = some holder) :
      index' ≠ index ∧ s.holder index' = some holder := by
    rw [holder_set at_] at held
    split at held
    · cases held
    · exact ⟨‹_›, held⟩
  have other_row {row : SessionRow} (mem : row ∈ auth.sessions.rows) :
      row.refreshTokenHash = hashTokenStr svc tokens.refreshToken ∧ row.id = x.row.id ∨
        row ∈ s.auth.sessions.rows ∧ row.id ≠ x.row.id := by
    rw [rows] at mem
    obtain ⟨before, beforeMem, rfl⟩ := List.mem_map.1 mem
    by_cases hit : before.id = x.row.id
    · exact Or.inl (by simp [hit])
    · exact Or.inr (by simpa [hit] using beforeMem)
  have keep {token : String} (unstored : Unstored svc s.auth token)
      (different : token ≠ tokens.refreshToken) : Unstored svc auth token := by
    intro row mem
    rcases other_row mem with ⟨hash, -⟩ | ⟨before, -⟩
    · rw [hash]
      exact (hash_ne different).symm
    · exact unstored row before
  have same_session (token sessionId : String) :
      Signed svc s.auth sessionId token → Signed svc auth sessionId token :=
    Signed.mono drawn.ge
  constructor
  · intro row mem
    rcases other_row mem with ⟨hash, id⟩ | ⟨before, -⟩
    · exact ⟨tokens.refreshToken, hash, id ▸ same_session _ _ newSigned⟩
    · obtain ⟨token, hash, signed⟩ := inv.rows row before
      exact ⟨token, hash, same_session _ _ signed⟩
  · exact forall_mem_set (fun _ h => nomatch h) inv.checked
  · intro index' holder held
    obtain ⟨different, before⟩ := other_holder held
    obtain ⟨sid, row, mem, id, hash⟩ := inv.holds index' holder before
    have elsewhere : row.id ≠ x.row.id := by
      intro same
      obtain rfl : row = current :=
        Table.eq_of_key_eq mem currentMem (same.trans currentId.symm)
      exact different (inv.apart index' index holder _ before held_before
        (svc.sha256.injective (hash.symm.trans currentHash)))
    refine ⟨sid, row, ?_, id, hash⟩
    rw [rows]
    exact List.mem_map.2 ⟨row, mem, by simp [elsewhere]⟩
  · intro i j h h' held held'
    exact inv.apart i j h h' (other_holder held).2 (other_holder held').2
  · intro index' holder held tokens' minted
    obtain ⟨different, before⟩ := other_holder held
    obtain ⟨signed, unstored, unspent⟩ := inv.minted index' holder before tokens' minted
    refine ⟨same_session _ _ signed, keep unstored fun same => ?_, ?_⟩
    · exact different (inv.mintedApart index' index holder _ before held_before
        tokens' minted tokens rfl same)
    · refine List.not_mem_cons_of_ne_of_not_mem (fun same => ?_) unspent
      exact unstored current currentMem (same ▸ currentHash)
  · intro i j h h' held held'
    exact inv.mintedApart i j h h' (other_holder held).2 (other_holder held').2
  · intro token mem
    rcases List.mem_cons.1 mem with rfl | before
    · refine ⟨⟨_, same_session _ _ oldSigned⟩, fun row rowMem same => ?_⟩
      rcases other_row rowMem with ⟨hash, -⟩ | ⟨oldRow, elsewhere⟩
      · have equal : r.token = tokens.refreshToken :=
          svc.sha256.injective (same.symm.trans hash)
        exact newUnstored current currentMem (equal ▸ currentHash)
      · obtain ⟨token, hash, signed⟩ := inv.rows row oldRow
        obtain rfl : token = r.token := svc.sha256.injective (hash.symm.trans same)
        exact elsewhere ((signed.unique oldSigned).trans currentId)
    · obtain ⟨⟨sessionId, signed⟩, unstored⟩ := inv.spent token before
      exact ⟨⟨sessionId, same_session _ _ signed⟩,
        keep unstored fun same => newUnspent (same ▸ before)⟩
  · refine List.nodup_cons.2 ⟨fun spent => ?_, inv.nodup⟩
    exact (inv.spent r.token spent).2 current currentMem currentHash

end Advance

theorem Inv.advance {index : Nat} {r : InFlight} (inv : Inv svc s) (now : Int)
    (users : String → Option User) (at_ : s.requests[index]? = some r)
    (exclusive : Exclusive s (.advance index now users)) :
    Inv svc (step svc s (.advance index now users)) := by
  have present := at_
  simp only [step, at_]
  obtain ⟨token, phase⟩ := r
  cases phase with
  | received =>
      simp only [Auth.advance]
      cases decoded : decodeRefreshToken svc now token with
      | error e => exact inv.quiet at_ rfl rfl (fun _ h => nomatch h) fun _ h => nomatch h
      | ok claims =>
          dsimp only
          split
          · exact inv.quiet at_ rfl rfl (fun _ h => nomatch h) fun _ h => nomatch h
          · refine inv.quiet at_ rfl rfl (fun found same => ?_) fun _ h => nomatch h
            obtain rfl := Phase.unused.inj same
            exact (decodeRefreshToken_eq_ok_iff.1 decoded).1
  | unused claims =>
      simp only [Exclusive, at_] at exclusive
      simp only [Auth.advance]
      cases exchange : findExchange svc users token claims s.auth with
      | error e => exact inv.quiet at_ rfl rfl (fun _ h => nomatch h) fun _ h => nomatch h
      | ok found => exact inv.lookup at_ rfl exclusive exchange
  | found x =>
      exact inv.quiet at_ rfl rfl (fun _ h => nomatch h) fun _ held => held
  | revoked x =>
      exact inv.mint at_ rfl rfl ((Nat.lt_succ_self _).trans (Nat.lt_succ_self _))
        rfl rfl rfl
  | minted x tokens =>
      exact inv.quiet at_ rfl rfl (fun _ h => nomatch h) fun _ held => held
  | updated x tokens seen =>
      simp only [Auth.advance]
      generalize stored : updateSession _ _ _ _ _ = outcome
      obtain rfl | ⟨sessions, rows, rfl⟩ := updateSession_spec stored
      · exact inv.quiet at_ rfl rfl (fun _ h => nomatch h) fun _ h => nomatch h
      · exact inv.commit at_ rfl rfl rows
  | done result =>
      exact inv.quiet at_ rfl rfl (fun _ h => nomatch h) fun _ h => nomatch h

theorem Inv.step (inv : Inv svc s) (e : Event) (exclusive : Exclusive s e) :
    Inv svc (step svc s e) := by
  cases e with
  | login now user ip userAgent => exact inv.login now user ip userAgent
  | receive token =>
      refine inv.shrink rfl le_rfl rfl ?_ ?_
      · intro r mem claims phase
        rcases List.mem_append.1 mem with old | new
        · exact inv.checked r old claims phase
        · obtain rfl := List.mem_singleton.1 new
          cases phase
      · intro index holder held
        obtain ⟨r, at_, held'⟩ := Option.bind_eq_some_iff.1 held
        simp only [Service.step, List.getElem?_append] at at_
        split at at_
        · exact Option.bind_eq_some_iff.2 ⟨r, at_, held'⟩
        · obtain rfl := List.mem_singleton.1 (List.mem_of_getElem? at_)
          cases held'
  | advance index now users =>
      cases at_ : s.requests[index]? with
      | none => simpa [Service.step, at_] using inv
      | some r => exact inv.advance now users at_ exclusive
  | abort index =>
      cases at_ : s.requests[index]? with
      | none => simpa [Service.step, at_] using inv
      | some r =>
          simp only [Service.step, at_]
          refine inv.quiet at_ rfl rfl ?_ ?_
          · intro claims phase
            unfold aborted at phase
            split at phase <;> cases phase
          · intro holder held
            have gone : (aborted r.phase).exchange? = none := by
              unfold aborted
              split <;> rfl
            simp [InFlight.holder, gone] at held

theorem Inv.initial (svc : TokenService) : Inv svc .initial := by
  constructor <;> simp [Service.initial, AuthState.initial, holder]

/-- Only the current token of a session can be exchanged. -/
theorem Inv.exchangeable (inv : Inv svc s) {sessionId token : String}
    (can : Exchangeable svc s sessionId token) :
    ∃ row ∈ s.auth.sessions.rows, row.id = sessionId ∧
      row.refreshTokenHash = hashTokenStr svc token := by
  rcases can with ⟨row, mem, id, -, hash⟩ | ⟨index, holder, held, rfl, rfl⟩
  · exact ⟨row, mem, id, hash⟩
  · exact (inv.holds index holder held).2

/--
Over every interleaving in which a request looks its session up only while no
other request for the same token is under way, every token is exchanged at most
once, and at any moment at most one token of a session can still be.
-/
theorem rotation_single_use (svc : TokenService) (events : List Event)
    (guarded : Guarded (step svc) Exclusive .initial events) :
    (runFrom (step svc) .initial events).exchanged.Nodup ∧
      ∀ sessionId token token',
        Exchangeable svc (runFrom (step svc) .initial events) sessionId token →
        Exchangeable svc (runFrom (step svc) .initial events) sessionId token' →
        token = token' := by
  have inv : Inv svc (runFrom (step svc) .initial events) :=
    runFrom_invariant_of_guarded (fun _ e exclusive inv => inv.step e exclusive)
      (Inv.initial svc) guarded
  refine ⟨inv.nodup, fun sessionId token token' can can' => ?_⟩
  obtain ⟨row, mem, id, hash⟩ := inv.exchangeable can
  obtain ⟨row', mem', id', hash'⟩ := inv.exchangeable can'
  obtain rfl : row = row' := Table.eq_of_key_eq mem mem' (id.trans id'.symm)
  exact svc.sha256.injective (hash.symm.trans hash')

/-! ## Two requests for one token -/

def advanceEvent (index : Nat) : Event := .advance index 1 sampleUsers

/-- Both requests pass the check before either revokes the token. -/
def racingEvents : List Event :=
  [.login 0 aliceAccount "10.0.0.1" "browser", .receive loginToken,
    .receive loginToken] ++
    (List.range 6).flatMap fun _ => [advanceEvent 0, advanceEvent 1]

/-- One token is exchanged for two pairs. -/
theorem token_exchanged_twice :
    (runFrom (step sampleService) .initial racingEvents).exchanged =
      [loginToken, loginToken] ∧
    ¬ (runFrom (step sampleService) .initial racingEvents).exchanged.Nodup := by
  have twice : (runFrom (step sampleService) .initial racingEvents).exchanged =
      [loginToken, loginToken] := by
    decide +kernel
  refine ⟨twice, ?_⟩
  rw [twice]
  simp

/-- One request after the other. -/
def orderedEvents : List Event :=
  [.login 0 aliceAccount "10.0.0.1" "browser", .receive loginToken,
    .receive loginToken] ++ List.replicate 6 (advanceEvent 0) ++ [advanceEvent 1]

instance (s : Service) (e : Event) : Decidable (Exclusive s e) := by
  unfold Exclusive
  split
  · split <;> infer_instance
  · infer_instance

theorem rotation_single_use_ordered :
    (runFrom (step sampleService) .initial orderedEvents).exchanged.Nodup ∧
      ∀ sessionId token token',
        Exchangeable sampleService
          (runFrom (step sampleService) .initial orderedEvents) sessionId token →
        Exchangeable sampleService
          (runFrom (step sampleService) .initial orderedEvents) sessionId token' →
        token = token' :=
  rotation_single_use sampleService orderedEvents (by decide +kernel)

end Service

end ColabPlatform.Auth
