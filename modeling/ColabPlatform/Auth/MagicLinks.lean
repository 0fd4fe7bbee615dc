import ColabPlatform.Common.Auth
import ColabPlatform.Foundation.Interleaving
import ColabPlatform.Foundation.Run
import ColabPlatform.Foundation.Table

/-!
# Auth service: magic links

A row of `magic_links` holds the hashes of a token and of a six-digit code that
were mailed for one purpose.  The finishes of email verification, password
reset and email change are the steps between their awaits; a row that a request
has loaded is written when the request commits.
-/

namespace ColabPlatform.Auth.MagicLinks

open Foundation Common

inductive Purpose where
  | emailVerify
  | passwordReset
  | emailChange
  | phoneChange
  deriving DecidableEq, Repr

structure MagicLink where
  id : String
  userId : String
  purpose : Purpose
  tokenHash : String
  otpHash : Option String
  newValue : Option String
  expiresAt : Int
  consumedAt : Option Int
  deriving DecidableEq, Repr

abbrev MagicLink.unique (link : MagicLink) : Option String := some link.tokenHash

structure User where
  id : String
  email : Option String
  emailVerifiedAt : Option Int
  passwordHash : Option String
  deriving DecidableEq, Repr

/-- What a request presents. -/
inductive Secret where
  | token (token : String)
  | otp (code : String)
  deriving DecidableEq, Repr

def MagicLink.carries (sha256 : Digest) (link : MagicLink) : Secret → Bool
  | .token token => link.tokenHash = sha256.hex token
  | .otp code => link.otpHash = some (sha256.hex code)

inductive Body where
  | verifyFinish (token code : Option String)
  | resetFinish (token : String)
  | changeFinish (token code : Option String)
  deriving DecidableEq, Repr

/-- `sender` is who sends the request; the code knows it for the email change only. -/
structure Request where
  sender : String
  body : Body
  deriving DecidableEq, Repr

inductive FinishError where
  | validation (message : String)
  | auth (message : String)
  | notFound (resource : String)
  | conflict (message : String)
  | integrity
  | raised
  deriving DecidableEq, Repr

/-- The token if there is one, else the code; an empty text is none. -/
def tokenOrCode (token code : Option String) : Option Secret :=
  match token.filter (· ≠ ""), code.filter (· ≠ "") with
  | some token, _ => some (.token token)
  | none, some code => some (.otp code)
  | none, none => none

namespace Request

def purpose (request : Request) : Purpose :=
  match request.body with
  | .verifyFinish _ _ => .emailVerify
  | .resetFinish _ => .passwordReset
  | .changeFinish _ _ => .emailChange

def secret (request : Request) : Option Secret :=
  match request.body with
  | .verifyFinish token code | .changeFinish token code => tokenOrCode token code
  | .resetFinish token => some (.token token)

/-- The condition of the request's `select`. -/
def selects (sha256 : Digest) (request : Request) (secret : Secret)
    (link : MagicLink) : Bool :=
  link.carries sha256 secret && link.purpose = request.purpose &&
    link.consumedAt.isNone &&
    match request.body with
    | .changeFinish _ _ => link.userId = request.sender
    | _ => true

def invalid (request : Request) : FinishError :=
  match request.body with
  | .verifyFinish _ _ => .auth "Invalid or already used verification token."
  | .resetFinish _ => .auth "Invalid or expired reset token."
  | .changeFinish _ _ => .auth "Invalid or expired token."

def expired (request : Request) : FinishError :=
  match request.body with
  | .verifyFinish _ _ => .auth "Verification link has expired. Request a new one."
  | .resetFinish _ => .auth "Reset link has expired. Request a new one."
  | .changeFinish _ _ => .auth "Token has expired. Start the email change again."

def userMissing (request : Request) : FinishError :=
  match request.body with
  | .verifyFinish _ _ => .notFound "User"
  | .resetFinish _ | .changeFinish _ _ => .auth "User not found."

/-- The user the request loads and writes. -/
def affected (request : Request) (link : MagicLink) : String :=
  match request.body with
  | .changeFinish _ _ => request.sender
  | .verifyFinish _ _ | .resetFinish _ => link.userId

end Request

/-! ## The steps of a request -/

inductive Phase where
  | lookUp
  | loadUser (link : MagicLink) (now : Int)
  | checkEmail (link : MagicLink) (now : Int)
  | hashPassword (link : MagicLink) (now : Int)
  | commit (link : MagicLink) (now : Int) (hash : String)
  | finished (result : Except FinishError Unit)
  deriving DecidableEq, Repr

/-- The row that a request holds. -/
def Phase.link : Phase → Option MagicLink
  | .lookUp | .finished _ => none
  | .loadUser link _ | .checkEmail link _ | .hashPassword link _ | .commit link _ _ =>
      some link

structure Call where
  request : Request
  phase : Phase
  deriving DecidableEq, Repr

/-- A request that returned: the row it consumed and the user it took effect on. -/
structure Effect where
  request : Request
  link : String
  user : String
  deriving DecidableEq, Repr

structure MailState where
  links : Table MagicLink MagicLink.id MagicLink.unique
  users : Table User User.id User.email
  calls : List Call
  effects : List Effect

def MailState.initial (links : Table MagicLink MagicLink.id MagicLink.unique)
    (users : Table User User.id User.email) : MailState :=
  ⟨links, users, [], []⟩

/-- The answer of what is awaited: the id of the row that the database returns
first, or the hash of the new password. -/
inductive Awaited where
  | fails
  | done (answer : String)
  deriving DecidableEq, Repr

/-- `db.scalar`: one of the rows that meet the condition. -/
def firstOf (answer : String) (rows : List MagicLink) : Option MagicLink :=
  (rows.find? fun link => link.id = answer).or rows.head?

/-- The request's write to its user; `none` is the violation of the unique email. -/
def writeUser (request : Request) (link : MagicLink) (now : Int) (hash : String)
    (users : Table User User.id User.email) : Option (Table User User.id User.email) :=
  match request.body with
  | .verifyFinish _ _ =>
      some (users.modify link.userId fun user => { user with emailVerifiedAt := some now })
  | .resetFinish _ =>
      some (users.modify link.userId fun user => { user with passwordHash := some hash })
  | .changeFinish _ _ =>
      users.update? request.sender fun user =>
        { user with email := link.newValue, emailVerifiedAt := some now }

def advance (sha256 : Digest) (now : Int) (awaited : Awaited) (call : Call)
    (s : MailState) : Phase × MailState :=
  let request := call.request
  match call.phase, awaited with
  | .finished result, _ => (.finished result, s)
  | _, .fails => (.finished (.error .raised), s)
  | .lookUp, .done answer =>
      match request.secret with
      | none =>
          (.finished (.error (.validation "Either token or code is required.")), s)
      | some secret =>
          match firstOf answer (s.links.rows.filter (request.selects sha256 secret)) with
          | none => (.finished (.error request.invalid), s)
          | some link =>
              if link.expiresAt < now then (.finished (.error request.expired), s)
              else (.loadUser link now, s)
  | .loadUser link now, .done _ =>
      match s.users.lookup (request.affected link), request.body with
      | none, _ => (.finished (.error request.userMissing), s)
      | some _, .verifyFinish _ _ => (.commit link now "", s)
      | some _, .resetFinish _ => (.hashPassword link now, s)
      | some _, .changeFinish _ _ => (.checkEmail link now, s)
  | .checkEmail link now, .done _ =>
      -- The row is marked as consumed before the raise, which rolls this back.
      if s.users.rows.any fun user => user.email = link.newValue then
        (.finished (.error (.conflict "Email address is no longer available.")), s)
      else (.commit link now "", s)
  | .hashPassword link now, .done hash => (.commit link now hash, s)
  | .commit link now hash, .done _ =>
      match writeUser request link now hash s.users with
      | none => (.finished (.error .integrity), s)
      | some users =>
          (.finished (.ok ()), { s with
            links := s.links.modify link.id fun row => { row with consumedAt := some now }
            users := users
            effects := s.effects ++ [⟨request, link.id, request.affected link⟩] })

inductive Event where
  | arrive (request : Request)
  | advance (index : Nat) (now : Int) (awaited : Awaited)
  deriving DecidableEq, Repr

def step (sha256 : Digest) (s : MailState) : Event → MailState
  | .arrive request => { s with calls := s.calls ++ [⟨request, .lookUp⟩] }
  | .advance index now awaited =>
      match s.calls[index]? with
      | none => s
      | some call =>
          let (phase, s) := MagicLinks.advance sha256 now awaited call s
          { s with calls := s.calls.set index { call with phase } }

/-! ## Bound to the user and consumed once -/

/--
A request takes effect on the user of a row that carries what it presents and
was issued for its purpose; and where what it presents was sent to its sender,
on the sender.
-/
def Effect.Bound (sha256 : Digest) (sent : List MagicLink) (effect : Effect) : Prop :=
  (∃ link ∈ sent, link.id = effect.link ∧ link.userId = effect.user ∧
    link.purpose = effect.request.purpose ∧
    ∃ secret ∈ effect.request.secret, link.carries sha256 secret) ∧
  ∀ own ∈ sent, own.userId = effect.request.sender →
    (∃ secret ∈ effect.request.secret, own.carries sha256 secret) →
    effect.user = effect.request.sender

def BoundToUser (sha256 : Digest) (sent : List MagicLink) (s : MailState) : Prop :=
  ∀ effect ∈ s.effects, effect.Bound sha256 sent

def SingleUse (s : MailState) : Prop := (s.effects.map Effect.link).Nodup

/--
A verification looks up a code that was sent to its sender only while all the
rows that its `select` can return are the sender's, and a request that commits
does so only while the row it has loaded is not consumed.
-/
def Unshared (sha256 : Digest) (s : MailState) : Event → Prop
  | .arrive _ | .advance _ _ .fails => True
  | .advance index _ (.done _) =>
      match s.calls[index]? with
      | some { request := { sender, body := .verifyFinish token code }, phase := .lookUp } =>
          match tokenOrCode token code with
          | some (.otp code) =>
              (∃ own ∈ s.links.rows,
                own.userId = sender ∧ own.carries sha256 (.otp code) = true) →
              ∀ link ∈ s.links.rows, link.carries sha256 (.otp code) = true →
                link.purpose = .emailVerify → link.consumedAt = none →
                link.userId = sender
          | _ => True
      | some { request, phase := .commit link now hash } =>
          (writeUser request link now hash s.users).isSome →
            ∃ row ∈ s.links.rows, row.id = link.id ∧ row.consumedAt = none
      | _ => True

instance (sha256 : Digest) (s : MailState) : DecidablePred (Unshared sha256 s) := fun e => by
  unfold Unshared
  split
  · infer_instance
  · infer_instance
  · split
    · split <;> infer_instance
    · infer_instance
    · infer_instance

/-! ## What a step leaves as it is -/

/-- The row as it was issued. -/
def MagicLink.issued (link : MagicLink) : MagicLink := { link with consumedAt := none }

theorem MagicLink.carries_issued (sha256 : Digest) (link : MagicLink) (secret : Secret) :
    link.issued.carries sha256 secret = link.carries sha256 secret := by
  cases secret <;> rfl

/-- Two tables whose rows were issued alike. -/
theorem exists_issued {rows sent : List MagicLink}
    (same : rows.map MagicLink.issued = sent.map MagicLink.issued) {link : MagicLink}
    (mem : link ∈ rows) : ∃ row ∈ sent, row.issued = link.issued := by
  have image : link.issued ∈ sent.map MagicLink.issued := by
    rw [← same]
    exact List.mem_map_of_mem mem
  exact List.mem_map.1 image

/-- What a request knows of the row it holds. -/
structure Chosen (sha256 : Digest) (sent : List MagicLink) (request : Request)
    (link : MagicLink) : Prop where
  issued : ∃ row ∈ sent, row.issued = link.issued
  purpose : link.purpose = request.purpose
  carried : ∃ secret ∈ request.secret, link.carries sha256 secret
  owned : request.affected link = link.userId
  bound : ∀ own ∈ sent, own.userId = request.sender →
    (∃ secret ∈ request.secret, own.carries sha256 secret) →
    link.userId = request.sender

theorem Chosen.effect {sha256 : Digest} {sent : List MagicLink} {request : Request}
    {link : MagicLink} (h : Chosen sha256 sent request link) :
    Effect.Bound sha256 sent ⟨request, link.id, request.affected link⟩ := by
  constructor
  · obtain ⟨row, mem, same⟩ := h.issued
    obtain ⟨secret, presented, carried⟩ := h.carried
    have id_row : row.issued.id = link.issued.id := congrArg MagicLink.id same
    have user_row : row.issued.userId = link.issued.userId := congrArg MagicLink.userId same
    have purpose_row : row.issued.purpose = link.issued.purpose :=
      congrArg MagicLink.purpose same
    refine ⟨row, mem, id_row, user_row.trans h.owned.symm, purpose_row.trans h.purpose,
      secret, presented, ?_⟩
    rw [← row.carries_issued, same, link.carries_issued]
    exact carried
  · intro own mem sender carried
    exact h.owned.trans (h.bound own mem sender carried)

/--
Requests hold rows that were chosen for them, and a row that a request has
consumed is not outstanding.
-/
structure Kept (sha256 : Digest) (sent : List MagicLink) (s : MailState) : Prop where
  issued : s.links.rows.map MagicLink.issued = sent.map MagicLink.issued
  chosen : ∀ call ∈ s.calls, ∀ link ∈ call.phase.link,
    Chosen sha256 sent call.request link
  bound : BoundToUser sha256 sent s
  spent : ∀ effect ∈ s.effects, ∀ row ∈ s.links.rows, row.id = effect.link →
    row.consumedAt ≠ none
  single : SingleUse s

namespace Kept

variable {sha256 : Digest} {sent : List MagicLink} {s : MailState}

theorem initial (links : Table MagicLink MagicLink.id MagicLink.unique)
    (users : Table User User.id User.email) :
    Kept sha256 links.rows (MailState.initial links users) where
  issued := rfl
  chosen := by simp [MailState.initial]
  bound := by simp [BoundToUser, MailState.initial]
  spent := by simp [MailState.initial]
  single := List.nodup_nil

/-- A request arrives, or one goes on without a write. -/
theorem of_calls (h : Kept sha256 sent s) {calls : List Call}
    (chosen : ∀ call ∈ calls, ∀ link ∈ call.phase.link,
      Chosen sha256 sent call.request link) :
    Kept sha256 sent { s with calls } :=
  ⟨h.issued, chosen, h.bound, h.spent, h.single⟩

theorem setCall (h : Kept sha256 sent s) {index : Nat} {call : Call}
    (chosen : ∀ link ∈ call.phase.link, Chosen sha256 sent call.request link) :
    Kept sha256 sent { s with calls := s.calls.set index call } :=
  h.of_calls (forall_mem_set chosen h.chosen)

/-- A request goes on with the row it already holds. -/
theorem holding (h : Kept sha256 sent s) {index : Nat} {call : Call}
    (found : s.calls[index]? = some call) {phase : Phase}
    (same : ∀ link ∈ phase.link, link ∈ call.phase.link) :
    Kept sha256 sent { s with calls := s.calls.set index { call with phase } } :=
  h.setCall fun link held => h.chosen call (List.mem_of_getElem? found) link (same link held)

theorem commit (h : Kept sha256 sent s) {index : Nat} {request : Request}
    {link : MagicLink} {now : Int} (chosen : Chosen sha256 sent request link)
    (outstanding : ∃ row ∈ s.links.rows, row.id = link.id ∧ row.consumedAt = none)
    (users : Table User User.id User.email) :
    Kept sha256 sent { s with
      links := s.links.modify link.id fun row => { row with consumedAt := some now }
      users := users
      effects := s.effects ++ [⟨request, link.id, request.affected link⟩]
      calls := s.calls.set index ⟨request, .finished (.ok ())⟩ } where
  issued := by
    simp only [Table.rows_modify, List.map_map]
    rw [← h.issued]
    refine List.map_congr_left fun row _ => ?_
    simp only [Function.comp]
    split <;> rfl
  chosen := forall_mem_set (by simp [Phase.link]) h.chosen
  bound := forall_mem_concat chosen.effect h.bound
  spent := by
    intro effect mem row row_mem same
    rcases Table.mem_updated row_mem with ⟨old, -, -, rfl⟩ | ⟨before, other⟩
    · simp
    · rcases List.mem_append.1 mem with earlier | last
      · exact h.spent effect earlier row before same
      · obtain rfl := List.mem_singleton.1 last
        exact absurd same other
  single := by
    obtain ⟨row, mem, same, unconsumed⟩ := outstanding
    have fresh : link.id ∉ s.effects.map Effect.link := by
      intro used
      obtain ⟨effect, earlier, id_effect⟩ := List.mem_map.1 used
      exact h.spent effect earlier row mem (same.trans id_effect.symm) unconsumed
    unfold SingleUse
    rw [List.map_append]
    exact List.nodup_append.2 ⟨h.single, List.nodup_singleton _, by simpa using fresh⟩

/-- The row that a request has selected. -/
theorem select (h : Kept sha256 sent s) {request : Request} {secret : Secret}
    (presented : request.secret = some secret) {link : MagicLink}
    (mem : link ∈ s.links.rows) (selected : request.selects sha256 secret link = true)
    (unshared : ∀ token code, request.body = .verifyFinish token code →
      ∀ otp, secret = .otp otp →
      (∃ own ∈ s.links.rows, own.userId = request.sender ∧
        own.carries sha256 secret = true) →
      link.userId = request.sender) :
    Chosen sha256 sent request link := by
  simp only [Request.selects, Bool.and_eq_true, decide_eq_true_eq] at selected
  obtain ⟨⟨⟨carried, purpose⟩, -⟩, owner⟩ := selected
  constructor
  · exact exists_issued h.issued mem
  · exact purpose
  · exact ⟨secret, presented, carried⟩
  · unfold Request.affected
    split
    · rename_i body
      rw [body] at owner
      exact (of_decide_eq_true owner).symm
    · rfl
    · rfl
  · rintro own own_sent sender ⟨secret', presented', own_carries⟩
    obtain rfl := Option.some.inj (presented.symm.trans presented')
    obtain ⟨row, row_mem, same⟩ := exists_issued h.issued.symm own_sent
    have row_carries : row.carries sha256 secret = true := by
      rw [← row.carries_issued, same, own.carries_issued]
      exact own_carries
    have row_sender : row.userId = request.sender := by
      have users : row.issued.userId = own.issued.userId := congrArg MagicLink.userId same
      exact users.trans sender
    cases secret with
    | token token =>
        -- The hash of a token is unique, so the sender's row is the one selected.
        simp only [MagicLink.carries, decide_eq_true_eq] at carried row_carries
        have one := Table.eq_of_alt_eq mem row_mem (congrArg some carried)
          (congrArg some row_carries)
        rw [one, row_sender]
    | otp code =>
        cases body : request.body with
        | verifyFinish token code' =>
            exact unshared token code' body code rfl ⟨row, row_mem, row_sender, row_carries⟩
        | resetFinish token => simp [Request.secret, body] at presented
        | changeFinish token code' =>
            rw [body] at owner
            exact of_decide_eq_true owner

/-- A request that looks up, under the guard of the step. -/
theorem lookUp (h : Kept sha256 sent s) {index : Nat} {now : Int} {answer : String}
    {request : Request} (found : s.calls[index]? = some ⟨request, .lookUp⟩)
    (unshared : Unshared sha256 s (.advance index now (.done answer))) :
    Kept sha256 sent (step sha256 s (.advance index now (.done answer))) := by
  have raise : ∀ e, Kept sha256 sent
      { s with calls := s.calls.set index ⟨request, .finished (.error e)⟩ } :=
    fun e => h.holding found (by simp [Phase.link])
  simp only [step, found, advance]
  cases presented : request.secret with
  | none => exact raise _
  | some secret =>
      dsimp only
      cases first : firstOf answer (s.links.rows.filter (request.selects sha256 secret)) with
      | none => exact raise _
      | some link =>
          have selected : link ∈ s.links.rows.filter (request.selects sha256 secret) := by
            unfold firstOf at first
            rcases Option.or_eq_some_iff.1 first with picked | ⟨-, head⟩
            · exact List.mem_of_find?_eq_some picked
            · exact List.mem_of_mem_head? head
          obtain ⟨mem, selected⟩ := List.mem_filter.1 selected
          dsimp only
          split
          · exact raise _
          · refine h.setCall ?_
            rintro _ ⟨⟩
            refine h.select presented mem selected ?_
            rintro token code body otp rfl own
            obtain ⟨sender, rfl⟩ : ∃ sender, request = ⟨sender, .verifyFinish token code⟩ :=
              ⟨request.sender, by rw [← body]⟩
            simp only [Unshared, found] at unshared
            simp only [Request.secret] at presented
            simp only [presented] at unshared
            simp only [Request.selects, Bool.and_eq_true, Option.isNone_iff_eq_none]
              at selected
            obtain ⟨⟨⟨carried, purpose⟩, unconsumed⟩, -⟩ := selected
            exact unshared own link mem carried (of_decide_eq_true purpose) unconsumed

theorem step (h : Kept sha256 sent s) {e : Event} (unshared : Unshared sha256 s e) :
    Kept sha256 sent (step sha256 s e) := by
  cases e with
  | arrive request => exact h.of_calls (forall_mem_concat (by simp [Phase.link]) h.chosen)
  | advance index now awaited =>
      cases found : s.calls[index]? with
      | none => simpa only [MagicLinks.step, found] using h
      | some call =>
          obtain ⟨request, phase⟩ := call
          have leave : ∀ result, Kept sha256 sent
              { s with calls := s.calls.set index ⟨request, .finished result⟩ } :=
            fun result => h.holding found (by simp [Phase.link])
          cases awaited with
          | fails =>
              have raised : ∃ result, advance sha256 now .fails ⟨request, phase⟩ s =
                  (.finished result, s) := by
                cases phase <;> exact ⟨_, rfl⟩
              obtain ⟨result, raised⟩ := raised
              simp only [MagicLinks.step, found, raised]
              exact leave result
          | done answer =>
              cases phase with
              | lookUp => exact h.lookUp found unshared
              | finished result =>
                  simp only [MagicLinks.step, found, advance]
                  exact leave _
              | loadUser link since =>
                  simp only [MagicLinks.step, found, advance]
                  split
                  · exact leave _
                  all_goals exact h.holding found (by simp [Phase.link])
              | checkEmail link since =>
                  simp only [MagicLinks.step, found, advance]
                  split
                  · exact leave _
                  · exact h.holding found (by simp [Phase.link])
              | hashPassword link since =>
                  simp only [MagicLinks.step, found, advance]
                  exact h.holding found (by simp [Phase.link])
              | commit link since hash =>
                  have chosen := h.chosen _ (List.mem_of_getElem? found) link rfl
                  simp only [Unshared, found] at unshared
                  simp only [MagicLinks.step, found, advance]
                  cases written : writeUser request link since hash s.users with
                  | none => exact leave _
                  | some users =>
                      exact h.commit chosen (unshared (by simp [written])) users

end Kept

theorem magic_links_bound_and_single_use (sha256 : Digest)
    (links : Table MagicLink MagicLink.id MagicLink.unique)
    (users : Table User User.id User.email) (events : List Event)
    (unshared : Guarded (step sha256) (Unshared sha256) (.initial links users) events) :
    BoundToUser sha256 links.rows
        (runFrom (step sha256) (.initial links users) events) ∧
      SingleUse (runFrom (step sha256) (.initial links users) events) := by
  have preserved : ∀ s e, Unshared sha256 s e → Kept sha256 links.rows s →
      Kept sha256 links.rows (step sha256 s e) :=
    fun s e guard kept => kept.step guard
  have kept := runFrom_invariant_of_guarded preserved (Kept.initial links users) unshared
  exact ⟨kept.bound, kept.single⟩
/-! ## One code mailed to two users, one token presented twice -/

def sampleLink (id userId tokenHash : String) : MagicLink :=
  ⟨id, userId, .emailVerify, tokenHash, some "424242", none, 900, none⟩

def sampleLinks : Table MagicLink MagicLink.id MagicLink.unique :=
  ⟨[sampleLink "m1" "ana" "t1", sampleLink "m2" "ben" "t2"], by decide, by decide⟩

def sampleUsers : Table User User.id User.email :=
  ⟨[⟨"ana", some "ana@example.com", none, none⟩, ⟨"ben", some "ben@example.com", none, none⟩],
    by decide, by decide⟩

def plainDigest : Digest := ⟨id, Function.injective_id⟩

/-- Ben presents his code, and the row that is returned first is Ana's. -/
def sharedCode : List Event :=
  [.arrive ⟨"ben", .verifyFinish none (some "424242")⟩,
    .advance 0 10 (.done "m1"), .advance 0 10 (.done ""), .advance 0 10 (.done "")]

/-- The second request looks the row up before the first has committed. -/
def twicePresented : List Event :=
  [.arrive ⟨"ana", .verifyFinish (some "t1") none⟩,
    .arrive ⟨"ana", .verifyFinish (some "t1") none⟩,
    .advance 0 10 (.done ""), .advance 1 10 (.done ""),
    .advance 0 10 (.done ""), .advance 1 10 (.done ""),
    .advance 0 10 (.done ""), .advance 1 10 (.done "")]

/-- Both users present their tokens, one after the other. -/
def presentedInTurn : List Event :=
  [.arrive ⟨"ana", .verifyFinish (some "t1") none⟩,
    .advance 0 10 (.done ""), .advance 0 10 (.done ""), .advance 0 10 (.done ""),
    .arrive ⟨"ben", .verifyFinish (some "t2") none⟩,
    .advance 1 20 (.done ""), .advance 1 20 (.done ""), .advance 1 20 (.done "")]

theorem magic_links_shared_and_used_twice :
    ¬ BoundToUser plainDigest sampleLinks.rows
        (runFrom (step plainDigest) (.initial sampleLinks sampleUsers) sharedCode) ∧
      ¬ SingleUse
        (runFrom (step plainDigest) (.initial sampleLinks sampleUsers) twicePresented) := by
  constructor
  · intro bound
    have effect := (bound ⟨⟨"ben", .verifyFinish none (some "424242")⟩, "m1", "ana"⟩
      (by decide +kernel)).2 (sampleLink "m2" "ben" "t2") (by decide) rfl
      ⟨.otp "424242", by decide, by decide⟩
    exact absurd effect (by decide)
  · unfold SingleUse
    decide +kernel

theorem magic_links_bound_and_single_use_in_turn :
    BoundToUser plainDigest sampleLinks.rows
        (runFrom (step plainDigest) (.initial sampleLinks sampleUsers) presentedInTurn) ∧
      SingleUse
        (runFrom (step plainDigest) (.initial sampleLinks sampleUsers) presentedInTurn) :=
  magic_links_bound_and_single_use plainDigest sampleLinks sampleUsers presentedInTurn
    (by decide +kernel)

end ColabPlatform.Auth.MagicLinks
