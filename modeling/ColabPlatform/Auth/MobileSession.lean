import ColabPlatform.Auth.Rotation

/-!
# The session of a device

The mobile app keeps the refresh token of its session and exchanges it when it starts.  The
service has rotated the token by the time that it answers, so that an answer that does not
arrive leaves the app with a token that is spent.
-/

namespace ColabPlatform.Auth

open Foundation Common Service

/-! ## The app -/

structure MobileStore where
  /-- in the secure store -/
  refreshToken : Option String
  /-- in memory -/
  accessToken : Option String
  isAuthenticated : Bool
  deriving DecidableEq, Repr

inductive Delivery where
  /-- the request does not reach the service -/
  | unsent
  /-- the answer does not reach the app, cannot be read or cannot be stored -/
  | lost
  /-- `readable` says that the claims of the access token can be read -/
  | arrived (readable : Bool)
  deriving DecidableEq, Repr

structure Device where
  auth : AuthState
  store : MobileStore

inductive DeviceEvent where
  | hydrate (now : Int) (allowed : Bool) (users : String → Option User) (delivery : Delivery)
  | signIn (now : Int) (account : Except CallError User) (ip userAgent : String)
      (delivery : Delivery)
  | clearTokens
  /-- a call of the service by anybody -/
  | elsewhere (c : Call)

/-- The event answers a login of the device. -/
def DeviceEvent.signsIn : DeviceEvent → Bool
  | signIn _ _ _ _ (.arrived _) => true
  | signIn _ _ _ _ .unsent | signIn _ _ _ _ .lost | hydrate _ _ _ _ | clearTokens
  | elsewhere _ => false

namespace MobileStore

def empty : MobileStore := ⟨none, none, false⟩

/-- What `set({ isAuthenticated: false })` leaves. -/
def off (store : MobileStore) : MobileStore := { store with isAuthenticated := false }

/-- The store after an answer to `hydrate`. -/
def rotated (store : MobileStore) (readable : Bool) :
    Except CallError (Option TokenPair) → MobileStore
  | .ok (some pair) => ⟨some pair.refreshToken, some pair.accessToken, readable⟩
  | .ok none | .error _ => { store.off with refreshToken := none }

/-- The store after an answer to a login. -/
def signedIn (store : MobileStore) : Except CallError (Option TokenPair) → MobileStore
  | .ok (some pair) => ⟨some pair.refreshToken, some pair.accessToken, true⟩
  | .ok none | .error _ => store

theorem rotated_of_refused {store : MobileStore} {readable : Bool}
    {answer : Except CallError (Option TokenPair)} (refused : ∀ pair, answer ≠ .ok (some pair)) :
    store.rotated readable answer = { store.off with refreshToken := none } := by
  cases answer with
  | error e => rfl
  | ok answer =>
      cases answer with
      | none => rfl
      | some pair => exact absurd rfl (refused pair)

end MobileStore

namespace Device

def start : Device := ⟨.initial, .empty⟩

/-- The token that `hydrate` finds; an empty one is none. -/
def presented (s : Device) : Option String := s.store.refreshToken.filter (· ≠ "")

def hydrate (svc : TokenService) (s : Device) (now : Int) (allowed : Bool)
    (users : String → Option User) (delivery : Delivery) : Device :=
  match s.presented with
  | none => { s with store := s.store.off }
  | some token =>
      let c : Call := ⟨now, .refresh allowed users token⟩
      match delivery with
      | .unsent => { s with store := s.store.off }
      | .lost => ⟨Auth.step svc s.auth c, s.store.off⟩
      | .arrived readable =>
          ⟨Auth.step svc s.auth c, s.store.rotated readable (respond svc c s.auth).1⟩

def step (svc : TokenService) (s : Device) : DeviceEvent → Device
  | .hydrate now allowed users delivery => s.hydrate svc now allowed users delivery
  | .signIn now account ip userAgent delivery =>
      let c : Call := ⟨now, .login account ip userAgent⟩
      match delivery with
      | .unsent => s
      | .lost => { s with auth := Auth.step svc s.auth c }
      | .arrived _ => ⟨Auth.step svc s.auth c, s.store.signedIn (respond svc c s.auth).1⟩
  | .clearTokens => { s with store := .empty }
  | .elsewhere c => { s with auth := Auth.step svc s.auth c }

def run (svc : TokenService) (events : List DeviceEvent) : Device :=
  runFrom (step svc) start events

end Device

/-! ## What a call leaves of the tokens -/

/-- Every row holds the hash of a refresh token that was minted for its session. -/
def AllSigned (svc : TokenService) (a : AuthState) : Prop :=
  ∀ row ∈ a.sessions.rows, ∃ token,
    row.refreshTokenHash = hashTokenStr svc token ∧ Signed svc a row.id token

/-- A row keeps its token or is given one that is minted now. -/
structure Mints (svc : TokenService) (a a' : AuthState) : Prop where
  drawn : a.drawn ≤ a'.drawn
  rows : ∀ row' ∈ a'.sessions.rows,
    (∃ row ∈ a.sessions.rows, row.id = row'.id ∧
      row.refreshTokenHash = row'.refreshTokenHash) ∨
    ∃ claims index, row'.refreshTokenHash = hashTokenStr svc (svc.encode claims) ∧
      claims.sid = some row'.id ∧ claims.jti = some (svc.uuid index) ∧
        a.drawn ≤ index ∧ index < a'.drawn

section Mints

variable {svc : TokenService} {a a' : AuthState}

theorem Mints.of_sessions_eq (same : a'.sessions = a.sessions) (drawn : a.drawn ≤ a'.drawn) :
    Mints svc a a' where
  drawn := drawn
  rows row' mem := by
    rw [same] at mem
    exact Or.inl ⟨row', mem, rfl, rfl⟩

theorem AllSigned.mints (h : AllSigned svc a) (mints : Mints svc a a') : AllSigned svc a' := by
  intro row' mem
  rcases mints.rows row' mem with ⟨row, old, id, hash⟩ | ⟨claims, index, hash, sid, jti, -, lt⟩
  · obtain ⟨token, same, signed⟩ := h row old
    rw [← id, ← hash]
    exact ⟨token, same, signed.mono mints.drawn⟩
  · exact ⟨svc.encode claims, hash, claims, index, rfl, sid, jti, lt⟩

/-- A token that was minted and that no row holds. -/
def Spent (svc : TokenService) (a : AuthState) (token : String) : Prop :=
  (∃ sessionId, Signed svc a sessionId token) ∧ Unstored svc a token

theorem Spent.mints {token : String} (h : Spent svc a token) (mints : Mints svc a a') :
    Spent svc a' token := by
  obtain ⟨⟨sessionId, signed⟩, unstored⟩ := h
  refine ⟨⟨sessionId, signed.mono mints.drawn⟩, ?_⟩
  intro row' mem
  rcases mints.rows row' mem with ⟨row, old, -, hash⟩ | ⟨claims, index, hash, -, jti, le, -⟩
  · rw [← hash]
    exact unstored row old
  · rw [hash]
    exact hash_ne (signed.ne_of_fresh le jti).symm

theorem Mints.refl (svc : TokenService) (a : AuthState) : Mints svc a a :=
  .of_sessions_eq rfl (Nat.le_refl _)

theorem Mints.trans {a'' : AuthState} (first : Mints svc a a') (second : Mints svc a' a'') :
    Mints svc a a'' where
  drawn := Nat.le_trans first.drawn second.drawn
  rows row'' mem := by
    have le := first.drawn
    have le' := second.drawn
    rcases second.rows row'' mem with
      ⟨row', mem', id', hash'⟩ | ⟨claims, index, hash, sid, jti, from_, lt⟩
    · rcases first.rows row' mem' with
        ⟨row, old, id, hash⟩ | ⟨claims, index, hash, sid, jti, from_, lt⟩
      · exact Or.inl ⟨row, old, id.trans id', hash.trans hash'⟩
      · right
        exact ⟨claims, index, hash'.symm.trans hash, id' ▸ sid, jti, from_, by omega⟩
    · right
      exact ⟨claims, index, hash, sid, jti, by omega, lt⟩

theorem Mints.setRevokedAt (svc : TokenService) (a : AuthState) (now : Int) (sessionId : String) :
    Mints svc a (a.setRevokedAt now sessionId) where
  drawn := Nat.le_refl _
  rows row' mem := by
    obtain ⟨row, old, rfl⟩ := List.mem_map.1 mem
    refine Or.inl ⟨row, old, ?_⟩
    by_cases hit : row.id = sessionId <;> simp [hit]

theorem Mints.revoke (svc : TokenService) (a : AuthState) (now : Int) (sessionId : String) :
    Mints svc a (Auth.revoke now sessionId a) :=
  (Mints.setRevokedAt svc a now sessionId).trans (.of_sessions_eq rfl (Nat.le_refl _))

theorem Mints.revokeAll (svc : TokenService) (now : Int) (rows : List SessionRow)
    (a : AuthState) : Mints svc a (rows.foldl (fun a row => Auth.revoke now row.id a) a) := by
  induction rows generalizing a with
  | nil => exact .refl svc a
  | cons row rows ih => exact (Mints.revoke svc a now row.id).trans (ih _)

/-- What a call that raises wrote to the sessions is undone, and what it drew stays drawn. -/
theorem Mints.getSession {α : Type} {handler : Handler α}
    (ok : ∀ value a', handler a = (.ok value, a') → Mints svc a a')
    (error : ∀ e a', handler a = (.error e, a') → a.drawn ≤ a'.drawn) :
    Mints svc a (Auth.getSession handler a).2 := by
  unfold Auth.getSession
  rcases ran : handler a with ⟨result, a'⟩
  cases result with
  | ok value => exact ok value a' ran
  | error e => exact .of_sessions_eq rfl (error e a' ran)

theorem mints_login (svc : TokenService) (now : Int) (account : Except CallError User)
    (ip userAgent : String) (a : AuthState) :
    Mints svc a (getSession (login svc now account ip userAgent) a).2 := by
  apply Mints.getSession
  · intro pair a' ran
    cases account with
    | error e => cases ran
    | ok user =>
        simp only [login, issueTokenPair, mintRefreshToken, mintAccessToken, drawUuid] at ran
        split at ran
        · rename_i stored
          obtain failed | ⟨sessions, rows, result⟩ := addSession_spec stored
          · cases failed
          · obtain rfl := (Prod.mk.inj result).2
            obtain rfl := (Prod.mk.inj ran).2
            refine ⟨by simp only; omega, ?_⟩
            intro row' mem
            rw [rows] at mem
            rcases List.mem_cons.1 mem with rfl | old
            · right
              exact ⟨_, a.drawn + 1, rfl, rfl, rfl, by omega, by simp only; omega⟩
            · exact Or.inl ⟨row', old, rfl, rfl⟩
        · cases ran
  · intro e a' ran
    cases account with
    | error e =>
        obtain rfl := (Prod.mk.inj ran).2
        exact Nat.le_refl _
    | ok user =>
        simp only [login, issueTokenPair, mintRefreshToken, mintAccessToken, drawUuid] at ran
        split at ran
        · cases ran
        · rename_i stored
          obtain failed | ⟨sessions, rows, result⟩ := addSession_spec stored
          · obtain rfl := (Prod.mk.inj failed).2
            obtain rfl := (Prod.mk.inj ran).2
            simp only
            omega
          · cases result

/-- The row of an exchange, and what it holds afterwards. -/
theorem rotate_eq_ok {now : Int} {claims : Claims} {row : SessionRow} {user : User}
    {pair : TokenPair} (ran : rotate svc now claims row user a = (.ok pair, a')) :
    (a'.sessions.rows = a.sessions.rows.map fun old =>
      if old.id = row.id then
        { old with
          refreshTokenHash := hashTokenStr svc pair.refreshToken
          refreshJti := svc.uuid a.drawn
          lastSeenAt := now }
      else old) ∧
    pair.refreshToken = svc.encode (refreshClaims svc now (claims.sub.getD "")
      (claims.sid.getD "") (svc.uuid a.drawn)) ∧ a'.drawn = a.drawn + 2 := by
  simp only [rotate, mintRefreshToken, mintAccessToken, drawUuid] at ran
  split at ran
  · rename_i stored
    obtain failed | ⟨sessions, rows, result⟩ := updateSession_spec stored
    · cases failed
    · obtain rfl := (Prod.mk.inj result).2
      obtain ⟨same, rfl⟩ := Prod.mk.inj ran
      obtain rfl := Except.ok.inj same
      exact ⟨rows, rfl, rfl⟩
  · cases ran

/-- The token that a row is found by was minted for it. -/
theorem signed_of_hash (h : AllSigned svc a) {row : SessionRow} {token : String}
    (mem : row ∈ a.sessions.rows) (hash : row.refreshTokenHash = hashTokenStr svc token) :
    Signed svc a row.id token := by
  obtain ⟨token', same, signed⟩ := h row mem
  rw [svc.sha256.injective (hash.symm.trans same)]
  exact signed

theorem sid_of_signed {sessionId token : String} {claims : Claims}
    (signed : Signed svc a sessionId token) (verified : svc.jwt.payload token = some claims) :
    claims.sid = some sessionId := by
  obtain ⟨minted, index, text, sid, -⟩ := signed
  rw [text] at verified
  rw [svc.decode_encode minted claims verified, sid]

theorem drawn_le_refreshToken {now : Int} {allowed : Bool} {users : String → Option User}
    {token : String} {e : CallError}
    (ran : refreshToken svc now allowed users token a = (.error e, a')) : a.drawn ≤ a'.drawn := by
  unfold refreshToken at ran
  split at ran
  · split at ran
    · obtain rfl := (Prod.mk.inj ran).2
      exact Nat.le_refl _
    · split at ran
      · obtain rfl := (Prod.mk.inj ran).2
        exact Nat.le_refl _
      · split at ran
        · obtain rfl := (Prod.mk.inj ran).2
          exact Nat.le_refl _
        · simp only [rotate, mintRefreshToken, mintAccessToken, drawUuid] at ran
          split at ran
          · cases ran
          · rename_i stored
            obtain failed | ⟨sessions, rows, result⟩ := updateSession_spec stored
            · obtain rfl := (Prod.mk.inj failed).2
              obtain rfl := (Prod.mk.inj ran).2
              simp only [AuthState.markJtiRevoked]
              omega
            · cases result
  · obtain rfl := (Prod.mk.inj ran).2
    exact Nat.le_refl _

theorem mints_refresh (h : AllSigned svc a) (now : Int) (allowed : Bool)
    (users : String → Option User) (token : String) :
    Mints svc a (getSession (refreshToken svc now allowed users token) a).2 := by
  apply Mints.getSession
  · intro pair a' ran
    obtain ⟨claims, row, user, decoded, found, rotated⟩ := refreshToken_eq_ok ran
    obtain ⟨mem, hash, -⟩ := findExchange_eq_ok found
    have own := sid_of_signed (signed_of_hash h mem hash)
      (decodeRefreshToken_eq_ok_iff.1 decoded).1
    obtain ⟨rows, text, drawn⟩ := rotate_eq_ok rotated
    refine ⟨by omega, ?_⟩
    intro row' mem'
    rw [rows] at mem'
    obtain ⟨old, oldMem, rfl⟩ := List.mem_map.1 mem'
    by_cases hit : old.id = row.id
    · right
      refine ⟨refreshClaims svc now (claims.sub.getD "") (claims.sid.getD "") (svc.uuid a.drawn),
        a.drawn, ?_, ?_, rfl, Nat.le_refl _, by omega⟩
      · rw [if_pos hit, text]
      · simp [hit, refreshClaims, own]
    · left
      exact ⟨old, oldMem, by simp [hit], by simp [hit]⟩
  · intro e a' ran
    exact drawn_le_refreshToken ran

theorem mints_step (h : AllSigned svc a) (c : Call) : Mints svc a (Auth.step svc a c) := by
  unfold Auth.step respond
  cases c.endpoint with
  | login account ip userAgent => exact mints_login svc c.now account ip userAgent a
  | refresh allowed users token => exact mints_refresh h c.now allowed users token
  | logout token =>
      have kept : Mints svc a (logout svc c.now token a).2 := by
        unfold logout
        split
        · exact .refl svc a
        · split
          · exact .refl svc a
          · split
            · exact .refl svc a
            · exact (Mints.setRevokedAt svc a c.now _).trans (.of_sessions_eq rfl (Nat.le_refl _))
      exact .getSession (fun _ _ ran => by rwa [ran] at kept)
        (fun _ _ ran => by rw [ran] at kept; exact kept.drawn)
  | logoutAll token =>
      have kept : Mints svc a (logoutAll svc c.now token a).2 := by
        unfold logoutAll
        split
        · exact .refl svc a
        · exact .revokeAll svc c.now _ a
      exact .getSession (fun _ _ ran => by rwa [ran] at kept)
        (fun _ _ ran => by rw [ran] at kept; exact kept.drawn)
  | revokeSession token sessionId =>
      have kept : Mints svc a (revokeSession svc c.now token sessionId a).2 := by
        unfold revokeSession
        split
        · exact .refl svc a
        · split
          · exact .refl svc a
          · split
            · exact .revoke svc a c.now sessionId
            · exact .refl svc a
      exact .getSession (fun _ _ ran => by rwa [ran] at kept)
        (fun _ _ ran => by rw [ran] at kept; exact kept.drawn)

/-! ## A token that was exchanged -/

/-- What a refresh that answers a pair has done. -/
theorem respond_refresh_eq_ok {now : Int} {allowed : Bool} {users : String → Option User}
    {token : String} {pair : TokenPair}
    (exchanged : (respond svc ⟨now, .refresh allowed users token⟩ a).1 = .ok (some pair)) :
    refreshToken svc now allowed users token a =
      (.ok pair, Auth.step svc a ⟨now, .refresh allowed users token⟩) := by
  simp only [Auth.step, respond, getSession] at exchanged ⊢
  rcases ran : refreshToken svc now allowed users token a with ⟨result, a'⟩
  rw [ran] at exchanged
  cases result with
  | error e => simp [Except.map] at exchanged
  | ok value =>
      have same : value = pair := by simpa [Except.map] using exchanged
      rw [same]

/-- An exchange spends the token and leaves the session with the new one. -/
theorem spent_of_exchange (h : AllSigned svc a) {now : Int} {allowed : Bool}
    {users : String → Option User} {token : String} {pair : TokenPair}
    (exchanged : (respond svc ⟨now, .refresh allowed users token⟩ a).1 = .ok (some pair)) :
    Spent svc (Auth.step svc a ⟨now, .refresh allowed users token⟩) token ∧
      ∃ row ∈ (Auth.step svc a ⟨now, .refresh allowed users token⟩).sessions.rows,
        row.revokedAt = none ∧
          row.refreshTokenHash = hashTokenStr svc pair.refreshToken := by
  have ran := respond_refresh_eq_ok exchanged
  generalize Auth.step svc a ⟨now, .refresh allowed users token⟩ = a' at ran ⊢
  obtain ⟨claims, row, user, decoded, found, rotated⟩ := refreshToken_eq_ok ran
  obtain ⟨mem, hash, live⟩ := findExchange_eq_ok found
  obtain ⟨rows, text, drawn⟩ := rotate_eq_ok rotated
  have signed := signed_of_hash h mem hash
  have fresh : token ≠ pair.refreshToken := by
    rw [text]
    exact signed.ne_of_fresh (Nat.le_refl _) rfl
  refine ⟨⟨⟨row.id, signed.mono (by omega)⟩, ?_⟩, ?_⟩
  · intro row' mem'
    rw [rows] at mem'
    obtain ⟨old, oldMem, rfl⟩ := List.mem_map.1 mem'
    by_cases hit : old.id = row.id
    · rw [if_pos hit]
      exact hash_ne fresh.symm
    · rw [if_neg hit]
      intro same
      exact hit ((signed_of_hash h oldMem same).unique signed)
  · refine ⟨_, by rw [rows]; exact List.mem_map_of_mem mem, ?_, ?_⟩
    · simp [live]
    · simp

/-- A spent token is not exchanged. -/
theorem not_exchanged_of_spent {token : String} (spent : Spent svc a token) (now : Int)
    (allowed : Bool) (users : String → Option User) (pair : TokenPair) :
    (respond svc ⟨now, .refresh allowed users token⟩ a).1 ≠ .ok (some pair) := by
  intro exchanged
  obtain ⟨claims, row, user, -, found, -⟩ := refreshToken_eq_ok (respond_refresh_eq_ok exchanged)
  obtain ⟨mem, hash, -⟩ := findExchange_eq_ok found
  exact spent.2 row mem hash

end Mints

/-! ## The device -/

namespace Device

theorem allSigned_step {svc : TokenService} {s : Device} (h : AllSigned svc s.auth)
    (e : DeviceEvent) : AllSigned svc (s.step svc e).auth := by
  have called : ∀ c, AllSigned svc (Auth.step svc s.auth c) := fun c => h.mints (mints_step h c)
  cases e with
  | hydrate now allowed users delivery =>
      simp only [step, hydrate]
      cases s.presented with
      | none => exact h
      | some token =>
          cases delivery with
          | unsent => exact h
          | lost => exact called _
          | arrived readable => exact called _
  | signIn now account ip userAgent delivery =>
      cases delivery with
      | unsent => exact h
      | lost => exact called _
      | arrived readable => exact called _
  | clearTokens => exact h
  | elsewhere c => exact called c

/-- The device is signed off, and the token that it may hold is the spent one. -/
structure Stranded (svc : TokenService) (token : String) (s : Device) : Prop where
  signed : AllSigned svc s.auth
  spent : Spent svc s.auth token
  off : s.store.isAuthenticated = false
  stored : ∀ held ∈ s.store.refreshToken, held = token

theorem presented_eq_some {s : Device} {token : String} (presented : s.presented = some token) :
    token ∈ s.store.refreshToken ∧ token ≠ "" := by
  obtain ⟨stored, nonempty⟩ := Option.filter_eq_some_iff.1 presented
  exact ⟨stored, by simpa using nonempty⟩

theorem Stranded.step {svc : TokenService} {token : String} {s : Device}
    (h : Stranded svc token s) {e : DeviceEvent} (other : e.signsIn = false) :
    Stranded svc token (s.step svc e) := by
  have signed := allSigned_step h.signed e
  have called : ∀ c, Spent svc (Auth.step svc s.auth c) token :=
    fun c => h.spent.mints (mints_step h.signed c)
  cases e with
  | hydrate now allowed users delivery =>
      simp only [Device.step, hydrate] at signed ⊢
      cases presented : s.presented with
      | none => exact ⟨h.signed, h.spent, rfl, h.stored⟩
      | some held =>
          obtain rfl : held = token := h.stored held (presented_eq_some presented).1
          rw [presented] at signed
          cases delivery with
          | unsent => exact ⟨h.signed, h.spent, rfl, h.stored⟩
          | lost => exact ⟨signed, called _, rfl, h.stored⟩
          | arrived readable =>
              have refused := not_exchanged_of_spent h.spent now allowed users
              simp only
              rw [MobileStore.rotated_of_refused refused]
              exact ⟨signed, called _, rfl, by simp⟩
  | signIn now account ip userAgent delivery =>
      cases delivery with
      | unsent => exact h
      | lost => exact ⟨signed, called _, h.off, h.stored⟩
      | arrived readable => simp [DeviceEvent.signsIn] at other
  | clearTokens => exact ⟨h.signed, h.spent, rfl, by simp [Device.step, MobileStore.empty]⟩
  | elsewhere c => exact ⟨signed, called c, h.off, h.stored⟩

/-- A stranded device throws its token away at the next answer. -/
theorem Stranded.hydrate {svc : TokenService} {token : String} {s : Device}
    (h : Stranded svc token s) (nonempty : token ≠ "") (now : Int) (allowed : Bool)
    (users : String → Option User) (readable : Bool) :
    (s.hydrate svc now allowed users (.arrived readable)).store.refreshToken = none := by
  unfold Device.hydrate
  cases presented : s.presented with
  | none =>
      cases stored : s.store.refreshToken with
      | none => exact stored
      | some held =>
          have same : held = token := h.stored held stored
          simp [Device.presented, stored, same, nonempty] at presented
  | some held =>
      obtain rfl : held = token := h.stored held (presented_eq_some presented).1
      have refused := not_exchanged_of_spent h.spent now allowed users
      simp only
      rw [MobileStore.rotated_of_refused refused]

theorem allSigned_run (svc : TokenService) (events : List DeviceEvent) :
    AllSigned svc (run svc events).auth := by
  have kept : ∀ (s : Device) e, AllSigned svc s.auth → AllSigned svc (s.step svc e).auth :=
    fun s e h => allSigned_step h e
  have none : AllSigned svc start.auth := fun row mem => absurd mem List.not_mem_nil
  exact runFrom_invariant kept none events

/-- The login of the device, and the pair that its token is exchanged for at time 1. -/
def phoneLogin : DeviceEvent := .signIn 0 (.ok aliceAccount) "10.0.0.1" "phone" (.arrived true)

def rotatedPair : TokenPair where
  userId := "alice"
  accessToken := sampleService.encode (accessClaims sampleService 1 "alice" (sampleUuid 0)
    (sampleUuid 4) false false [])
  refreshToken := rotatedToken

end Device

end ColabPlatform.Auth
