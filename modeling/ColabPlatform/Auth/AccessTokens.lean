import ColabPlatform.Auth.IdealTokens
import ColabPlatform.Gateway.Identity

/-!
# Which tokens authenticate

The gateway and `require_user` check the signature, the times and that there is
a subject.  The type of a token and the keys of revoked sessions, which the
auth service maintains, are not looked at.
-/

namespace ColabPlatform.Auth

open Foundation Common Gateway

/-- A call of `_mint_access_token_sync` or `_mint_refresh_token_sync`. -/
inductive Minting where
  | access (now : Int) (userId sessionId jti : String)
      (emailVerified identityVerified : Bool) (scope : List String)
  | refresh (now : Int) (userId sessionId jti : String)
  deriving DecidableEq, Repr

namespace Minting

def claims (svc : TokenService) : Minting → Claims
  | access now userId sessionId jti emailVerified identityVerified scope =>
      accessClaims svc now userId sessionId jti emailVerified identityVerified scope
  | refresh now userId sessionId jti => refreshClaims svc now userId sessionId jti

def userId : Minting → String
  | access _ userId _ _ _ _ _ | refresh _ userId _ _ => userId

def sessionId : Minting → String
  | access _ _ sessionId _ _ _ _ | refresh _ _ sessionId _ => sessionId

def isAccess : Minting → Bool
  | access _ _ _ _ _ _ _ => true
  | refresh _ _ _ _ => false

variable (svc : TokenService) (m : Minting)

theorem claims_sub : (m.claims svc).sub = some m.userId := by
  cases m <;> rfl

theorem claims_sid : (m.claims svc).sid = some m.sessionId := by
  cases m <;> rfl

theorem claims_typ :
    (m.claims svc).typ = some (if m.isAccess then "access" else "refresh") := by
  cases m <;> rfl

end Minting

/--
The gateway verifies with the key that the auth service signs with, and what
verifies has been minted.
-/
structure IdealSignatures (svc : TokenService) (env : Env) (history : List Minting) :
    Prop where
  shared : env.jwt.payload = svc.jwt.payload
  minted : ∀ token claims, svc.jwt.payload token = some claims ↔
    ∃ m ∈ history, token = svc.encode (m.claims svc) ∧ claims = m.claims svc

/--
`AuthMiddleware` or `require_user` takes the request for one of this user.  A
user that the middleware has stored is returned by `require_user` as it is.
-/
def Accepts (env : Env) (now : Int) (r : Request) (user : AuthUser) : Prop :=
  authDispatch env now r = .ok (some user) ∨
    requireUser env.jwt now none (rawToken env r) = .ok user

/-- The token is a minted access token of the user, in date and not revoked. -/
def LiveAccessToken (svc : TokenService) (history : List Minting)
    (revoked : KeyStore RevokedKey Unit) (now : Int) (token : String)
    (user : AuthUser) : Prop :=
  ∃ m ∈ history, token = svc.encode (m.claims svc) ∧ m.isAccess ∧
    m.userId = user.userId ∧ (m.claims svc).current now ∧
    revoked.exists? now (.session m.sessionId) = false

instance (svc : TokenService) (history : List Minting)
    (revoked : KeyStore RevokedKey Unit) (now : Int) (token : String)
    (user : AuthUser) : Decidable (LiveAccessToken svc history revoked now token user) :=
  inferInstanceAs (Decidable (∃ m ∈ history, _))

section Verifiers

variable {svc : TokenService} {env : Env} {history : List Minting} {now : Int}
  {r : Request} {user : AuthUser}

theorem authenticate_eq_ok_iff {jwt : Jwt} {token : String} :
    authenticate jwt now token = .ok user ↔
      ∃ claims, jwt.payload token = some claims ∧ claims.current now ∧
        extractUser claims = .ok user := by
  unfold authenticate
  rw [bind_eq_ok]
  simp only [decodeToken_eq_ok_iff, and_assoc]

theorem rawToken_ne_empty {token : String} (presented : rawToken env r = some token) :
    token ≠ "" := by
  have kept := (Option.filter_eq_some_iff.1 presented).2
  simpa using kept

/-- Both verifiers accept exactly the tokens that `authenticate` accepts. -/
theorem accepts_iff : Accepts env now r user ↔
    ∃ token, rawToken env r = some token ∧
      authenticate env.jwt now token = .ok user := by
  unfold Accepts
  rw [authDispatch_eq_user_iff]
  constructor
  · rintro (⟨-, token, presented, verified⟩ | accepted)
    · exact ⟨token, presented, verified⟩
    · unfold requireUser at accepted
      cases presented : rawToken env r with
      | none => simp [presented] at accepted
      | some token =>
          have full := rawToken_ne_empty presented
          simp only [presented, Option.filter_some, ne_eq, full, not_false_eq_true,
            decide_true, if_true] at accepted
          exact ⟨token, rfl, accepted⟩
  · rintro ⟨token, presented, verified⟩
    have full := rawToken_ne_empty presented
    refine Or.inr ?_
    simpa only [requireUser, presented, Option.filter_some, ne_eq, full,
      not_false_eq_true, decide_true, if_true] using verified

theorem extractUser_claims (svc : TokenService) {m : Minting} (named : m.userId ≠ "") :
    ∃ user, extractUser (m.claims svc) = .ok user ∧ user.userId = m.userId := by
  simp [extractUser, Minting.claims_sub, named]

theorem userId_of_extractUser {claims : Claims}
    (extracted : extractUser claims = .ok user) :
    claims.sub.getD "" = user.userId ∧ user.userId ≠ "" := by
  unfold extractUser at extracted
  dsimp only at extracted
  split at extracted
  · cases extracted
  · rename_i named
    obtain rfl := Except.ok.inj extracted
    exact ⟨rfl, named⟩

end Verifiers

/--
Accepted requests carry live access tokens exactly when no minted token that
verifies in date is a refresh token or belongs to a revoked session.
-/
theorem accepts_only_live_iff (svc : TokenService) (env : Env)
    (history : List Minting) (revoked : KeyStore RevokedKey Unit) (now : Int)
    (r : Request) (ideal : IdealSignatures svc env history) :
    (∀ user, Accepts env now r user → ∃ token, rawToken env r = some token ∧
      LiveAccessToken svc history revoked now token user) ↔
    ∀ m ∈ history, rawToken env r = some (svc.encode (m.claims svc)) →
      (m.claims svc).current now → m.userId ≠ "" →
        m.isAccess ∧ revoked.exists? now (.session m.sessionId) = false := by
  constructor
  · intro live m mem presented current named
    obtain ⟨user, extracted, same⟩ := extractUser_claims svc named
    have verified : env.jwt.payload (svc.encode (m.claims svc)) =
        some (m.claims svc) := by
      rw [ideal.shared]
      exact (ideal.minted _ _).2 ⟨m, mem, rfl, rfl⟩
    obtain ⟨token, found, m', -, text, access, -, -, unrevoked⟩ :=
      live user (accepts_iff.2 ⟨_, presented,
        authenticate_eq_ok_iff.2 ⟨_, verified, current, extracted⟩⟩)
    have claims_eq : m.claims svc = m'.claims svc :=
      svc.encode_injective (Option.some.inj (presented.symm.trans
        (found.trans (congrArg some text))))
    have session : m.sessionId = m'.sessionId := Option.some.inj
      ((Minting.claims_sid svc m).symm.trans
        ((congrArg Claims.sid claims_eq).trans (Minting.claims_sid svc m')))
    refine ⟨?_, session ▸ unrevoked⟩
    have typ := congrArg Claims.typ claims_eq
    rw [Minting.claims_typ, Minting.claims_typ, access] at typ
    by_contra refresh
    simp [refresh] at typ
  · intro clean user accepted
    obtain ⟨token, presented, verified⟩ := accepts_iff.1 accepted
    obtain ⟨claims, payload, current, extracted⟩ := authenticate_eq_ok_iff.1 verified
    rw [ideal.shared] at payload
    obtain ⟨m, mem, rfl, rfl⟩ := (ideal.minted _ _).1 payload
    obtain ⟨sub, named⟩ := userId_of_extractUser extracted
    have same : m.userId = user.userId := by
      simpa [Minting.claims_sub] using sub
    obtain ⟨access, unrevoked⟩ := clean m mem presented current (same ▸ named)
    exact ⟨_, presented, m, mem, rfl, access, same, current, unrevoked⟩

/-! ## A refresh token and a revoked session that authenticate -/

/-- The service whose tokens verify exactly when they are in the history. -/
def mintedService (history : List Minting) : TokenService :=
  idealService fun claims => claims ∈ history.map (Minting.claims sampleService)

def mintedEnv (history : List Minting) : Env :=
  { sampleEnv with jwt := (mintedService history).jwt }

theorem mintedService_ideal (history : List Minting) :
    IdealSignatures (mintedService history) (mintedEnv history) history where
  shared := rfl
  minted token claims := by
    refine idealJwt_payload_iff.trans ?_
    constructor
    · rintro ⟨rfl, accepted⟩
      obtain ⟨m, mem, rfl⟩ := List.mem_map.1 (of_decide_eq_true accepted)
      exact ⟨m, mem, rfl, rfl⟩
    · rintro ⟨m, mem, rfl, rfl⟩
      exact ⟨rfl, decide_eq_true (List.mem_map.2 ⟨m, mem, rfl⟩)⟩

def sampleHistory : List Minting :=
  [.refresh 0 "alice" "s1" "j1", .access 0 "alice" "s1" "j2" false false []]

def mintedToken (m : Minting) : String :=
  (mintedService sampleHistory).encode (m.claims (mintedService sampleHistory))

def bearerRequest (token : String) : Request :=
  (sampleArrival "GET" "/v1/profile/me" [("authorization", "Bearer " ++ token)]
    "").request

def revokedS1 : KeyStore RevokedKey Unit :=
  KeyStore.empty.setEx 0 2592000 (.session "s1") ()

def sampleUser (m : Minting) : AuthUser where
  userId := "alice"
  email := ""
  roles := []
  tier := "free"
  rawClaims := m.claims (mintedService sampleHistory)

theorem accepts_minted {m : Minting} (mem : m ∈ sampleHistory)
    (presented : rawToken (mintedEnv sampleHistory) (bearerRequest (mintedToken m)) =
      some (mintedToken m)) :
    Accepts (mintedEnv sampleHistory) 1 (bearerRequest (mintedToken m))
      (sampleUser m) := by
  have payload := ((mintedService_ideal sampleHistory).minted _ _).2 ⟨m, mem, rfl, rfl⟩
  refine accepts_iff.2 ⟨_, presented, authenticate_eq_ok_iff.2 ⟨_, payload, ?_⟩⟩
  simp only [sampleHistory, List.mem_cons, List.not_mem_nil, or_false] at mem
  rcases mem with rfl | rfl <;> exact ⟨by decide, rfl⟩

/--
With no session revoked, the refresh token authenticates; with its session
revoked, the access token does.
-/
theorem dead_tokens_accepted :
    (∃ m, Accepts (mintedEnv sampleHistory) 1 (bearerRequest (mintedToken m))
        (sampleUser m) ∧
      ¬ LiveAccessToken (mintedService sampleHistory) sampleHistory .empty 1
        (mintedToken m) (sampleUser m)) ∧
    ∃ m, m.isAccess ∧
      Accepts (mintedEnv sampleHistory) 1 (bearerRequest (mintedToken m))
        (sampleUser m) ∧
      ¬ LiveAccessToken (mintedService sampleHistory) sampleHistory revokedS1 1
        (mintedToken m) (sampleUser m) := by
  refine ⟨⟨.refresh 0 "alice" "s1" "j1", accepts_minted (by decide) ?_, ?_⟩,
    .access 0 "alice" "s1" "j2" false false [], rfl, accepts_minted (by decide) ?_, ?_⟩
  all_goals decide +kernel

theorem accepts_only_live_sample :
    (∀ user, Accepts (mintedEnv sampleHistory) 1
        (bearerRequest (mintedToken (.access 0 "alice" "s1" "j2" false false []))) user →
      ∃ token, rawToken (mintedEnv sampleHistory) (bearerRequest
          (mintedToken (.access 0 "alice" "s1" "j2" false false []))) = some token ∧
        LiveAccessToken (mintedService sampleHistory) sampleHistory .empty 1 token
          user) ↔
    ∀ m ∈ sampleHistory,
      rawToken (mintedEnv sampleHistory) (bearerRequest
          (mintedToken (.access 0 "alice" "s1" "j2" false false []))) =
        some ((mintedService sampleHistory).encode
          (m.claims (mintedService sampleHistory))) →
      (m.claims (mintedService sampleHistory)).current 1 → m.userId ≠ "" →
        m.isAccess ∧ (KeyStore.empty : KeyStore RevokedKey Unit).exists? 1
          (.session m.sessionId) = false :=
  accepts_only_live_iff (mintedService sampleHistory) (mintedEnv sampleHistory)
    sampleHistory .empty 1 _ (mintedService_ideal sampleHistory)

end ColabPlatform.Auth
