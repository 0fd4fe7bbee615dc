import ColabPlatform.Auth.IdealTokens
import ColabPlatform.Foundation.Run

/-!
# Auth service: is the end of a session final?

A session row that is marked revoked stays so and answers no refresh.  Two
calls end a session in words only: the replay of a rotated token, whose write
to the row is rolled back by its own error, and a logout with a rotated token,
which finds no row.
-/

namespace ColabPlatform.Auth

open Foundation Common

/-! ## What calls do to the sessions -/

/-- A session whose row is not revoked. -/
def Live (s : AuthState) (sessionId : String) : Prop :=
  ∃ row ∈ s.sessions.rows, row.id = sessionId ∧ row.revokedAt = none

/-- A session whose row is revoked. -/
def Dead (s : AuthState) (sessionId : String) : Prop :=
  ∃ row ∈ s.sessions.rows, row.id = sessionId ∧ row.revokedAt.isSome

instance (s : AuthState) (sessionId : String) : Decidable (Live s sessionId) :=
  inferInstanceAs (Decidable (∃ row ∈ s.sessions.rows, _))

/-- Every row holds the hash of a refresh token of its own session. -/
def Owned (svc : TokenService) (s : AuthState) : Prop :=
  ∀ row ∈ s.sessions.rows, ∃ claims,
    row.refreshTokenHash = hashTokenStr svc (svc.encode claims) ∧
      claims.sid = some row.id

/-- What every call keeps. -/
structure Advances (svc : TokenService) (s s' : AuthState) : Prop where
  dead : ∀ sessionId, Dead s sessionId → Dead s' sessionId
  owned : Owned svc s → Owned svc s'

namespace Advances

variable {svc : TokenService} {s s' s'' : AuthState}

theorem of_sessions_eq (same : s'.sessions = s.sessions) : Advances svc s s' where
  dead sessionId dead := by
    unfold Dead
    rwa [same]
  owned owned := by
    unfold Owned
    rwa [same]

theorem refl (s : AuthState) : Advances svc s s := of_sessions_eq rfl

theorem trans (first : Advances svc s s') (second : Advances svc s' s'') :
    Advances svc s s'' where
  dead sessionId dead := second.dead sessionId (first.dead sessionId dead)
  owned owned := second.owned (first.owned owned)

theorem setRevokedAt (s : AuthState) (now : Int) (sessionId : String) :
    Advances svc s (s.setRevokedAt now sessionId) where
  dead other := by
    rintro ⟨row, mem, rfl, revoked⟩
    refine ⟨_, List.mem_map_of_mem mem, ?_, ?_⟩ <;>
      by_cases same : row.id = sessionId <;> simp [same, revoked]
  owned owned row mem := by
    obtain ⟨old, oldMem, rfl⟩ := List.mem_map.1 mem
    by_cases hit : old.id = sessionId <;> simpa [hit] using owned old oldMem

theorem addSession {row : SessionRow} {claims : Claims}
    (hash : row.refreshTokenHash = hashTokenStr svc (svc.encode claims))
    (own : claims.sid = some row.id)
    (stored : Auth.addSession row s = (.ok (), s')) : Advances svc s s' := by
  obtain failed | ⟨sessions, rows, same⟩ := addSession_spec stored
  · cases failed
  · obtain rfl := (Prod.mk.inj same).2
    constructor
    · rintro other ⟨old, mem, id, revoked⟩
      exact ⟨old, by simp [rows, mem], id, revoked⟩
    · intro owned new mem
      rw [rows] at mem
      rcases List.mem_cons.1 mem with rfl | old
      · exact ⟨claims, hash, own⟩
      · exact owned new old

theorem updateSession {now : Int} {sessionId hash jti : String} {claims : Claims}
    (same : hash = hashTokenStr svc (svc.encode claims))
    (own : claims.sid = some sessionId)
    (stored : Auth.updateSession now sessionId hash jti s = (.ok (), s')) :
    Advances svc s s' := by
  obtain failed | ⟨sessions, rows, result⟩ := updateSession_spec stored
  · cases failed
  · obtain rfl := (Prod.mk.inj result).2
    constructor
    · rintro other ⟨row, mem, rfl, revoked⟩
      refine ⟨_, by simpa only [rows] using List.mem_map_of_mem mem, ?_, ?_⟩ <;>
        by_cases hit : row.id = sessionId <;> simp [hit, revoked]
    · intro owned row mem
      rw [rows] at mem
      obtain ⟨old, oldMem, rfl⟩ := List.mem_map.1 mem
      by_cases hit : old.id = sessionId
      · exact ⟨claims, by simp [hit, same], by simpa [hit] using own⟩
      · simpa [hit] using owned old oldMem

/-- A call that raises leaves the sessions as they were. -/
theorem getSession {α : Type} {handler : Handler α}
    (ok : ∀ value s', handler s = (.ok value, s') → Advances svc s s') :
    Advances svc s (Auth.getSession handler s).2 := by
  unfold Auth.getSession
  rcases ran : handler s with ⟨result, s'⟩
  cases result with
  | ok value => exact ok value s' ran
  | error e => exact of_sessions_eq rfl

end Advances

/-! ## The endpoints -/

section Endpoints

variable {svc : TokenService} {now : Int} {s s' : AuthState}

theorem decodeRefreshToken_eq_ok_iff {token : String} {claims : Claims} :
    decodeRefreshToken svc now token = .ok claims ↔
      svc.jwt.payload token = some claims ∧ claims.current now ∧
        claims.typ = some "refresh" := by
  unfold decodeRefreshToken
  rw [mapError_eq_ok]
  constructor
  · intro decoded
    obtain ⟨found, decodes, rest⟩ := bind_eq_ok.1 decoded
    obtain ⟨same, checked, typed⟩ := bind_eq_ok.1 rest
    obtain rfl := Except.ok.inj checked
    dsimp only at typed
    by_cases typ : found.typ = some "refresh"
    · rw [if_pos typ] at typed
      obtain rfl := Except.ok.inj typed
      exact ⟨(decodeToken_eq_ok_iff.1 decodes).1,
        (decodeToken_eq_ok_iff.1 decodes).2, typ⟩
    · rw [if_neg typ] at typed
      cases typed
  · rintro ⟨verified, current, typ⟩
    refine bind_eq_ok.2 ⟨claims, decodeToken_eq_ok_iff.2 ⟨verified, current⟩, ?_⟩
    exact bind_eq_ok.2 ⟨claims, rfl, if_pos typ⟩

/-- Only the current token of a row has the row's hash. -/
theorem sid_of_hash {row : SessionRow} {token : String} {claims : Claims}
    (owned : Owned svc s) (mem : row ∈ s.sessions.rows)
    (hash : row.refreshTokenHash = hashTokenStr svc token)
    (verified : svc.jwt.payload token = some claims) : claims.sid = some row.id := by
  obtain ⟨signed, own, sid⟩ := owned row mem
  have text : token = svc.encode signed :=
    svc.sha256.injective (hash.symm.trans own)
  rw [text] at verified
  rw [svc.decode_encode signed claims verified, sid]

theorem advances_login {account : Except CallError User} {ip userAgent : String}
    {pair : TokenPair}
    (ran : login svc now account ip userAgent s = (.ok pair, s')) :
    Advances svc s s' := by
  unfold login at ran
  cases account with
  | error e => cases ran
  | ok user =>
      simp only [issueTokenPair, mintRefreshToken, mintAccessToken, drawUuid] at ran
      split at ran
      · rename_i stored
        obtain rfl := (Prod.mk.inj ran).2
        refine Advances.trans (.of_sessions_eq ?_) (.addSession rfl ?_ stored)
        all_goals rfl
      · cases ran

theorem findExchange_eq_ok {users : String → Option User} {token : String}
    {claims : Claims} {row : SessionRow} {user : User}
    (found : findExchange svc users token claims s = .ok (row, user)) :
    row ∈ s.sessions.rows ∧ row.refreshTokenHash = hashTokenStr svc token ∧
      row.revokedAt = none := by
  unfold findExchange at found
  cases live : s.liveSessionOfHash (hashTokenStr svc token) with
  | none => simp [live] at found
  | some row' =>
      have hit := List.find?_some live
      have mem := List.mem_of_find?_eq_some live
      simp only [live] at found
      split at found
      · cases found
      · split at found
        · obtain ⟨rfl, -⟩ := Prod.mk.inj (Except.ok.inj found)
          simp_all
        · cases found

/-- Everything a successful refresh has found. -/
theorem refreshToken_eq_ok {allowed : Bool} {users : String → Option User}
    {token : String} {pair : TokenPair}
    (ran : refreshToken svc now allowed users token s = (.ok pair, s')) :
    ∃ claims row user, decodeRefreshToken svc now token = .ok claims ∧
      findExchange svc users token claims s = .ok (row, user) ∧
      rotate svc now claims row user s = (.ok pair, s') := by
  unfold refreshToken at ran
  split at ran
  · cases decoded : decodeRefreshToken svc now token with
    | error e => simp [decoded] at ran
    | ok claims =>
        simp only [decoded] at ran
        split at ran
        · cases ran
        · cases found : findExchange svc users token claims s with
          | error e => simp [found] at ran
          | ok exchange =>
              simp only [found] at ran
              exact ⟨claims, exchange.1, exchange.2, rfl, found, ran⟩
  · cases ran

theorem advances_rotate {claims : Claims} {row : SessionRow} {user : User}
    {pair : TokenPair} (own : claims.sid = some row.id)
    (ran : rotate svc now claims row user s = (.ok pair, s')) :
    Advances svc s s' := by
  simp only [rotate, mintRefreshToken, mintAccessToken, drawUuid] at ran
  split at ran
  · rename_i stored
    obtain rfl := (Prod.mk.inj ran).2
    refine Advances.trans (.of_sessions_eq ?_) (.updateSession rfl ?_ stored)
    · rfl
    · simp [refreshClaims, own]
  · cases ran

theorem advances_refreshToken {allowed : Bool} {users : String → Option User}
    {token : String} {pair : TokenPair} (owned : Owned svc s)
    (ran : refreshToken svc now allowed users token s = (.ok pair, s')) :
    Advances svc s s' := by
  obtain ⟨claims, row, user, decoded, found, rotated⟩ := refreshToken_eq_ok ran
  obtain ⟨mem, hash, -⟩ := findExchange_eq_ok found
  exact advances_rotate
    (sid_of_hash owned mem hash (decodeRefreshToken_eq_ok_iff.1 decoded).1) rotated

theorem advances_logout (svc : TokenService) (now : Int) (token : String)
    (s : AuthState) : Advances svc s (logout svc now token s).2 := by
  unfold logout
  split
  · exact .refl s
  · split
    · exact .refl s
    · split
      · exact .refl s
      · exact (Advances.setRevokedAt s now _).trans (.of_sessions_eq rfl)

theorem advances_revoke (svc : TokenService) (now : Int) (sessionId : String)
    (s : AuthState) :
    Advances svc s (revoke now sessionId s) :=
  (Advances.setRevokedAt s now sessionId).trans (.of_sessions_eq rfl)

theorem advances_revokeAll (svc : TokenService) (now : Int) (rows : List SessionRow)
    (s : AuthState) :
    Advances svc s (rows.foldl (fun s row => revoke now row.id s) s) := by
  induction rows generalizing s with
  | nil => exact .refl s
  | cons row rows ih => exact (advances_revoke svc now row.id s).trans (ih _)

theorem advances_logoutAll (svc : TokenService) (now : Int) (token : Option String)
    (s : AuthState) : Advances svc s (logoutAll svc now token s).2 := by
  unfold logoutAll
  split
  · exact .refl s
  · exact advances_revokeAll svc now _ s

theorem advances_revokeSession (svc : TokenService) (now : Int)
    (token : Option String) (sessionId : String) (s : AuthState) :
    Advances svc s (revokeSession svc now token sessionId s).2 := by
  unfold revokeSession
  split
  · exact .refl s
  · split
    · exact .refl s
    · split
      · exact advances_revoke svc now sessionId s
      · exact .refl s

theorem advances_step {c : Call} (owned : Owned svc s) :
    Advances svc s (step svc s c) := by
  unfold step respond
  cases c.endpoint with
  | login account ip userAgent =>
      exact .getSession fun _ _ ran => advances_login ran
  | refresh allowed users token =>
      exact .getSession fun _ _ ran => advances_refreshToken owned ran
  | logout token =>
      exact .getSession fun _ _ ran => by
        have kept := advances_logout svc c.now token s
        rwa [ran] at kept
  | logoutAll token =>
      exact .getSession fun _ _ ran => by
        have kept := advances_logoutAll svc c.now token s
        rwa [ran] at kept
  | revokeSession token sessionId =>
      exact .getSession fun _ _ ran => by
        have kept := advances_revokeSession svc c.now token sessionId s
        rwa [ran] at kept

end Endpoints

/-! ## Ended sessions -/

/-- A refresh call that presents a token whose `jti` is revoked. -/
def IsReplay (svc : TokenService) (now : Int) (allowed : Bool) (token : String)
    (s : AuthState) (sessionId : String) : Prop :=
  allowed ∧ ∃ claims, decodeRefreshToken svc now token = .ok claims ∧
    claims.sid = some sessionId ∧ s.isJtiRevoked now (claims.jti.getD "")

/-- A call after which an existing session is to be over. -/
def EndsSession (svc : TokenService) (s : AuthState) (c : Call) (sessionId : String) :
    Prop :=
  ∃ row ∈ s.sessions.rows, row.id = sessionId ∧
    match c.endpoint with
    | .login _ _ _ => False
    | .refresh allowed _ token => IsReplay svc c.now allowed token s sessionId
    | .logout token => ∃ claims, decodeRefreshToken svc c.now token = .ok claims ∧
        claims.sid = some sessionId
    | .logoutAll token => ∃ user, currentUser svc c.now token = .ok user ∧
        row.userId = user.userId
    | .revokeSession token target => target = sessionId ∧
        ∃ user, currentUser svc c.now token = .ok user ∧ row.userId = user.userId

/-- A token that verifies as one of this session. -/
def TokenOf (svc : TokenService) (token sessionId : String) : Prop :=
  ∃ claims, svc.jwt.payload token = some claims ∧ claims.sid = some sessionId

/--
No rotated token of a live session is replayed, and a logout presents the
current token of its session.
-/
def Orderly (svc : TokenService) (s : AuthState) (c : Call) : Prop :=
  match c.endpoint with
  | .refresh allowed _ token =>
      match decodeRefreshToken svc c.now token with
      | .ok claims => allowed ∧ s.isJtiRevoked c.now (claims.jti.getD "") →
          ¬ Live s (claims.sid.getD "")
      | .error _ => True
  | .logout token =>
      match decodeRefreshToken svc c.now token with
      | .ok claims => (s.sessionOfHash (hashTokenStr svc token)).isSome ∨
          ¬ Live s (claims.sid.getD "")
      | .error _ => True
  | _ => True

instance (svc : TokenService) (s : AuthState) (c : Call) :
    Decidable (Orderly svc s c) := by
  unfold Orderly
  split
  · split <;> infer_instance
  · split <;> infer_instance
  · infer_instance

section Final

variable {svc : TokenService} {s : AuthState}

theorem dead_of_not_live {row : SessionRow} (mem : row ∈ s.sessions.rows)
    (ended : ¬ Live s row.id) : Dead s row.id := by
  refine ⟨row, mem, rfl, ?_⟩
  cases revoked : row.revokedAt with
  | none => exact absurd ⟨row, mem, rfl, revoked⟩ ended
  | some time => rfl

theorem dead_setRevokedAt {now : Int} {sessionId : String}
    (stored : ∃ row ∈ s.sessions.rows, row.id = sessionId) :
    Dead (s.setRevokedAt now sessionId) sessionId := by
  obtain ⟨row, mem, rfl⟩ := stored
  exact ⟨_, List.mem_map_of_mem mem, by simp, by simp⟩

theorem dead_revokeAll (svc : TokenService) {now : Int} {rows : List SessionRow} {sessionId : String}
    (stored : ∃ row ∈ s.sessions.rows, row.id = sessionId)
    (listed : ∃ row ∈ rows, row.id = sessionId) :
    Dead (rows.foldl (fun s row => revoke now row.id s) s) sessionId := by
  induction rows generalizing s with
  | nil => simp at listed
  | cons first rows ih =>
      rw [List.foldl_cons]
      by_cases same : first.id = sessionId
      · have dead : Dead (revoke now first.id s) sessionId :=
          same ▸ dead_setRevokedAt (by simpa [same] using stored)
        exact (advances_revokeAll svc now rows _).dead sessionId dead
      · refine ih ?_ (by simpa [same] using listed)
        obtain ⟨row, mem, rfl⟩ := stored
        refine ⟨_, List.mem_map_of_mem mem, ?_⟩
        by_cases hit : row.id = first.id <;> simp [hit]

/-- A call that ends a session in an orderly way leaves its row revoked. -/
theorem dead_of_endsSession {c : Call} {sessionId : String} (owned : Owned svc s)
    (orderly : Orderly svc s c) (ended : EndsSession svc s c sessionId) :
    Dead (step svc s c) sessionId := by
  obtain ⟨row, mem, rfl, ends⟩ := ended
  have keep : Dead s row.id → Dead (step svc s c) row.id :=
    (advances_step owned).dead row.id
  by_cases live : Live s row.id
  case neg => exact keep (dead_of_not_live mem live)
  obtain ⟨now, endpoint⟩ := c
  cases endpoint with
  | login account ip userAgent => exact ends.elim
  | refresh allowed users token =>
      obtain ⟨open_, claims, decoded, sid, revoked⟩ := ends
      simp only [Orderly, decoded, sid, Option.getD_some] at orderly
      exact absurd live (orderly ⟨open_, revoked⟩)
  | logout token =>
      obtain ⟨claims, decoded, sid⟩ := ends
      simp only [Orderly, decoded, sid, Option.getD_some, live, not_true, or_false]
        at orderly
      obtain ⟨found, present⟩ := Option.isSome_iff_exists.1 orderly
      have own := sid_of_hash owned (List.mem_of_find?_eq_some present)
        (by simpa using List.find?_some present)
        (decodeRefreshToken_eq_ok_iff.1 decoded).1
      obtain rfl : found = row := Table.eq_of_key_eq
        (List.mem_of_find?_eq_some present) mem (by simpa [sid] using own.symm)
      by_cases revoked : found.revokedAt.isSome
      · exact keep ⟨found, mem, rfl, revoked⟩
      · have out : step svc s ⟨now, .logout token⟩ =
            ((s.setRevokedAt now found.id).markSessionRevoked now
              (claims.sid.getD "")).markJtiRevoked now (claims.jti.getD "") 2592000 := by
          simp [step, respond, getSession, logout, decoded, present, revoked]
        rw [out]
        exact dead_setRevokedAt ⟨found, mem, rfl⟩
  | logoutAll token =>
      obtain ⟨user, known, same⟩ := ends
      by_cases revoked : row.revokedAt.isSome
      · exact keep ⟨row, mem, rfl, revoked⟩
      · have out : step svc s ⟨now, .logoutAll token⟩ =
            (s.sessions.rows.filter fun row =>
              row.userId = user.userId && row.revokedAt.isNone).foldl
                (fun s row => revoke now row.id s) s := by
          simp [step, respond, getSession, logoutAll, known]
        rw [out]
        exact dead_revokeAll svc ⟨row, mem, rfl⟩
          ⟨row, List.mem_filter.2 ⟨mem, by simpa [same] using revoked⟩, rfl⟩
  | revokeSession token target =>
      obtain ⟨rfl, user, known, same⟩ := ends
      have found := Table.lookup_of_mem mem
      have out : step svc s ⟨now, .revokeSession token row.id⟩ =
          revoke now row.id s := by
        simp [step, respond, getSession, revokeSession, known, found, same]
      rw [out]
      exact dead_setRevokedAt ⟨row, mem, rfl⟩

theorem refresh_of_dead {now : Int} {allowed : Bool} {users : String → Option User}
    {token sessionId : String} (owned : Owned svc s) (dead : Dead s sessionId)
    (presented : TokenOf svc token sessionId) (pair : TokenPair) (s' : AuthState) :
    refreshToken svc now allowed users token s ≠ (.ok pair, s') := by
  intro ran
  obtain ⟨claims, row, user, decoded, found, -⟩ := refreshToken_eq_ok ran
  obtain ⟨mem, hash, live⟩ := findExchange_eq_ok found
  have verified := (decodeRefreshToken_eq_ok_iff.1 decoded).1
  obtain ⟨claims', verified', sid⟩ := presented
  obtain rfl : claims' = claims := by simpa [verified] using verified'.symm
  have own := sid_of_hash owned mem hash verified
  obtain ⟨other, otherMem, id, revoked⟩ := dead
  have same : other = row :=
    Table.eq_of_key_eq otherMem mem (id.trans (by simpa [sid] using own))
  rw [same, live] at revoked
  cases revoked

end Final

theorem owned_run (svc : TokenService) (calls : List Call) :
    Owned svc (runFrom (step svc) .initial calls) := by
  have preserved (s : AuthState) (c : Call) (owned : Owned svc s) :
      Owned svc (step svc s c) := (advances_step owned).owned owned
  have start : Owned svc .initial := fun row mem => nomatch mem
  exact runFrom_invariant preserved start calls

/--
Over every run of orderly calls, a session that has been logged out, revoked or
hit by a replay answers no later refresh with a token pair.
-/
theorem ended_session_not_refreshed (svc : TokenService) (before after : List Call)
    (c : Call) (sessionId : String) (now : Int) (allowed : Bool)
    (users : String → Option User) (token : String)
    (guarded : Guarded (step svc) (Orderly svc) .initial (before ++ c :: after))
    (ended : EndsSession svc (runFrom (step svc) .initial before) c sessionId)
    (presented : TokenOf svc token sessionId) :
    ∃ e, (respond svc ⟨now, .refresh allowed users token⟩
      (runFrom (step svc) .initial (before ++ c :: after))).1 = .error e := by
  have orderly := guarded.suffix.1
  have atEnd := dead_of_endsSession (owned_run svc before) orderly ended
  have dead : Dead (runFrom (step svc) .initial (before ++ c :: after)) sessionId := by
    rw [runFrom_append, runFrom_cons]
    have preserved (s : AuthState) (c : Call)
        (h : Owned svc s ∧ Dead s sessionId) :
        Owned svc (step svc s c) ∧ Dead (step svc s c) sessionId :=
      ⟨(advances_step h.1).owned h.1, (advances_step h.1).dead sessionId h.2⟩
    have owned := (advances_step (c := c) (owned_run svc before)).owned
      (owned_run svc before)
    exact (runFrom_invariant preserved ⟨owned, atEnd⟩ after).2
  simp only [respond, getSession]
  split
  · rename_i pair s' ran
    exact absurd ran (refresh_of_dead (owned_run svc _) dead presented pair s')
  · exact ⟨_, rfl⟩

/-! ## Two sessions that do not end -/

def rotatedState : AuthState :=
  runFrom (step sampleService) .initial [loginCall, refreshCall 1 loginToken]

theorem loginToken_of_session :
    TokenOf sampleService loginToken (sampleUuid 0) :=
  ⟨_, ideal_payload rfl, rfl⟩

/--
After a rotation, the replay of the first token and a logout with it both end
the session, and the second token is exchanged all the same.
-/
theorem ended_session_refreshed :
    TokenOf sampleService rotatedToken (sampleUuid 0) ∧
    (EndsSession sampleService rotatedState (refreshCall 2 loginToken)
        (sampleUuid 0) ∧
      (respond sampleService (refreshCall 3 rotatedToken)
        (step sampleService rotatedState (refreshCall 2 loginToken))).1.isOk) ∧
    (EndsSession sampleService rotatedState ⟨2, .logout loginToken⟩ (sampleUuid 0) ∧
      (respond sampleService (refreshCall 3 rotatedToken)
        (step sampleService rotatedState ⟨2, .logout loginToken⟩)).1.isOk) := by
  obtain ⟨⟨row, stored, id⟩, used, replayed, loggedOut⟩ :
      (∃ row ∈ rotatedState.sessions.rows, row.id = sampleUuid 0) ∧
      rotatedState.isJtiRevoked 2 (sampleUuid 1) ∧
      (respond sampleService (refreshCall 3 rotatedToken)
        (step sampleService rotatedState (refreshCall 2 loginToken))).1.isOk ∧
      (respond sampleService (refreshCall 3 rotatedToken)
        (step sampleService rotatedState ⟨2, .logout loginToken⟩)).1.isOk := by
    decide +kernel
  have decoded : decodeRefreshToken sampleService 2 loginToken = .ok
      (refreshClaims sampleService 0 "alice" (sampleUuid 0) (sampleUuid 1)) :=
    decodeRefreshToken_eq_ok_iff.2 ⟨ideal_payload rfl, by decide, rfl⟩
  refine ⟨⟨_, ideal_payload rfl, rfl⟩, ⟨?_, replayed⟩, ?_, loggedOut⟩
  · exact ⟨row, stored, id, rfl, _, decoded, rfl, used⟩
  · exact ⟨row, stored, id, _, decoded, rfl⟩

theorem ended_session_not_refreshed_logout :
    ∃ e, (respond sampleService (refreshCall 2 loginToken)
      (runFrom (step sampleService) .initial
        ([loginCall] ++ [⟨1, .logout loginToken⟩]))).1 = .error e := by
  obtain ⟨row, stored, id⟩ : ∃ row ∈ (runFrom (step sampleService) .initial
      [loginCall]).sessions.rows, row.id = sampleUuid 0 := by
    decide +kernel
  have decoded : decodeRefreshToken sampleService 1 loginToken = .ok
      (refreshClaims sampleService 0 "alice" (sampleUuid 0) (sampleUuid 1)) :=
    decodeRefreshToken_eq_ok_iff.2 ⟨ideal_payload rfl, by decide, rfl⟩
  exact ended_session_not_refreshed sampleService [loginCall] []
    ⟨1, .logout loginToken⟩ (sampleUuid 0) 2 true sampleUsers loginToken
    (by decide +kernel) ⟨row, stored, id, _, decoded, rfl⟩ loginToken_of_session

end ColabPlatform.Auth
