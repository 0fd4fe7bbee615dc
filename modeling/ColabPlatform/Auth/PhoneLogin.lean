import ColabPlatform.Auth.Otp
import ColabPlatform.Common.Auth
import ColabPlatform.Foundation.Run
import ColabPlatform.Foundation.Table

/-!
# Auth service: phone signup, phone login and phone change

A number is stored on the account and, for the login, as the subject of an
identity of the provider `phone`.  A signup writes both, a change of the number
only the account.  What `verify_phone_otp` answered is part of the event.
-/

namespace ColabPlatform.Auth.Phone

open Foundation Common

inductive Provider where
  | apple
  | google
  | email
  | phone
  deriving DecidableEq, Repr

/-- The columns of `users` that the phone endpoints read and write. -/
structure Account where
  id : String
  phone : Option String
  phoneVerifiedAt : Option Int
  isActive : Bool
  deriving DecidableEq, Repr

structure Identity where
  id : String
  userId : String
  provider : Provider
  providerSubject : String
  deriving DecidableEq, Repr

/-- The columns of `uq_identities_provider_subject`. -/
def Identity.subject (identity : Identity) : Option (Provider × String) :=
  some (identity.provider, identity.providerSubject)

structure PhoneBook where
  users : Table Account Account.id Account.phone
  identities : Table Identity Identity.id Identity.subject

def PhoneBook.initial : PhoneBook := ⟨.empty, .empty⟩

inductive PhoneError where
  | rateLimit
  | otp (error : Otp.OtpError)
  | auth (message : String)
  | conflict (message : String)
  | integrity
  deriving DecidableEq, Repr

namespace PhoneBook

/-! ## Endpoints -/

/-- The check and the sending shared by the starts that look for the number. -/
def startUnlessTaken (message : String) (allowed : Bool)
    (sent : Except Otp.OtpError String) (phone : String) (s : PhoneBook) :
    Except PhoneError Unit :=
  if !allowed then .error .rateLimit
  else if (s.users.lookupAlt phone).isSome then .error (.conflict message)
  else (sent.mapError PhoneError.otp).map fun _ => ()

def signupPhoneStart : Bool → Except Otp.OtpError String → String → PhoneBook →
    Except PhoneError Unit :=
  startUnlessTaken "An account with this phone number already exists."

def phoneChangeStart : Bool → Except Otp.OtpError String → String → PhoneBook →
    Except PhoneError Unit :=
  startUnlessTaken "That phone number is already registered."

def loginPhoneStart (allowed : Bool) (sent : Except Otp.OtpError String) :
    Except PhoneError Unit :=
  if !allowed then .error .rateLimit
  else (sent.mapError PhoneError.otp).map fun _ => ()

/-- `raise AuthError` unless the code matched. -/
def requireMatched (message : String) (otp : Except Otp.OtpError Bool) :
    Except PhoneError Unit :=
  match otp with
  | .error e => .error (.otp e)
  | .ok false => .error (.auth message)
  | .ok true => .ok ()

theorem matched_of_ok {message : String} {otp : Except Otp.OtpError Bool}
    {done : Unit} (ok : requireMatched message otp = .ok done) : otp = .ok true := by
  unfold requireMatched at ok
  split at ok
  · cases ok
  · cases ok
  · rfl

def insertIdentity (s : PhoneBook) (identity : Identity) : Except PhoneError PhoneBook :=
  match s.identities.insert? identity with
  | none => .error .integrity
  | some identities => .ok { s with identities }

def insertAccount (s : PhoneBook) (account : Account) : Except PhoneError PhoneBook :=
  match s.users.insert? account with
  | none => .error .integrity
  | some users => .ok { s with users }

/-- The new account and its identity are committed together. -/
def signupPhoneVerify (now : Int) (otp : Except Otp.OtpError Bool)
    (userId identityId phone : String) (s : PhoneBook) :
    Except PhoneError PhoneBook := do
  requireMatched "Invalid OTP code." otp
  let s ← s.insertAccount ⟨userId, some phone, some now, true⟩
  s.insertIdentity ⟨identityId, userId, .phone, phone⟩

/-- The account that the token pair is issued for. -/
def loginPhoneVerify (otp : Except Otp.OtpError Bool) (phone : String)
    (s : PhoneBook) : Except PhoneError Account := do
  requireMatched "Invalid OTP code." otp
  match s.identities.lookupAlt (.phone, phone) with
  | none => .error (.auth "No account found for this phone number.")
  | some identity =>
      match (s.users.lookup identity.userId).filter Account.isActive with
      | none => .error (.auth "Account not found or deactivated.")
      | some user => .ok user

/-- The update of the account is the only write. -/
def phoneChangeFinish (now : Int) (otp : Except Otp.OtpError Bool)
    (userId newPhone : String) (s : PhoneBook) : Except PhoneError PhoneBook := do
  requireMatched "Invalid OTP." otp
  match s.users.lookup userId with
  | none => .error (.auth "User not found.")
  | some _ =>
      match s.users.update? userId fun user =>
          { user with phone := some newPhone, phoneVerifiedAt := some now } with
      | none => .error .integrity
      | some users => .ok { s with users }

/-- `signup_email`, as far as `users` and `identities` go. -/
def signupEmail (userId : String) (s : PhoneBook) : Except PhoneError PhoneBook :=
  s.insertAccount ⟨userId, none, none, true⟩

/-- The provider a request names: Google or Apple. -/
def oauthProvider (google : Bool) : Provider := if google then .google else .apple

theorem oauthProvider_ne_phone (google : Bool) : oauthProvider google ≠ .phone := by
  cases google <;> decide

/-- `signup_oauth`; `existing` is the account that has the verified email. -/
def signupOauth (existing : Option String) (userId identityId : String)
    (google : Bool) (subject : String) (s : PhoneBook) :
    Except PhoneError PhoneBook := do
  let provider := oauthProvider google
  if (s.identities.lookupAlt (provider, subject)).isSome then
    .error (.conflict "Account already exists. Please log in instead.")
  else
    match existing.bind s.users.lookup with
    | some user => s.insertIdentity ⟨identityId, user.id, provider, subject⟩
    | none =>
        let s ← s.insertAccount ⟨userId, none, none, true⟩
        s.insertIdentity ⟨identityId, userId, provider, subject⟩

end PhoneBook

/-! ## Runs -/

inductive Event where
  | signupEmail (userId : String)
  | signupOauth (existing : Option String) (userId identityId : String)
      (google : Bool) (subject : String)
  | signupPhoneStart (allowed : Bool) (sent : Except Otp.OtpError String)
      (phone : String)
  | signupPhoneVerify (now : Int) (otp : Except Otp.OtpError Bool)
      (userId identityId phone : String)
  | loginPhoneStart (allowed : Bool) (sent : Except Otp.OtpError String)
  | loginPhoneVerify (otp : Except Otp.OtpError Bool) (phone : String)
  | phoneChangeStart (allowed : Bool) (sent : Except Otp.OtpError String)
      (newPhone : String)
  | phoneChangeFinish (now : Int) (otp : Except Otp.OtpError Bool)
      (userId newPhone : String)

/-- `get_session` commits what a call wrote when it returns, and nothing when
it raises; the starts and the login write nothing. -/
def step (s : PhoneBook) : Event → PhoneBook
  | .signupEmail userId => (s.signupEmail userId).toOption.getD s
  | .signupOauth existing userId identityId google subject =>
      (s.signupOauth existing userId identityId google subject).toOption.getD s
  | .signupPhoneVerify now otp userId identityId phone =>
      (s.signupPhoneVerify now otp userId identityId phone).toOption.getD s
  | .phoneChangeFinish now otp userId newPhone =>
      (s.phoneChangeFinish now otp userId newPhone).toOption.getD s
  | .signupPhoneStart _ _ _ | .loginPhoneStart _ _ | .loginPhoneVerify _ _
  | .phoneChangeStart _ _ _ => s

/-! ## The login follows the verified number -/

/-- `userId` is a user whose verified phone is `phone`. -/
def PhoneBook.VerifiedPhone (s : PhoneBook) (phone userId : String) : Prop :=
  ∃ user ∈ s.users.rows,
    user.id = userId ∧ user.phone = some phone ∧ user.phoneVerifiedAt.isSome

/-- A matched login authenticates exactly the user whose verified phone it is,
and no two users have the same verified phone. -/
def LoginFollows (s : PhoneBook) : Prop :=
  (∀ phone userId, (s.loginPhoneVerify (.ok true) phone).map Account.id = .ok userId ↔
    s.VerifiedPhone phone userId) ∧
  ∀ phone userId userId', s.VerifiedPhone phone userId →
    s.VerifiedPhone phone userId' → userId = userId'

/--
A change of the number confirms one that is already on an account: the user's
own, so that nothing changes, or another's, so that the unique column refuses it.
-/
def ConfirmsKnown (s : PhoneBook) : Event → Prop
  | .phoneChangeFinish _ (.ok true) userId newPhone =>
      ∀ _user ∈ s.users.lookup userId, ∃ other ∈ s.users.rows, other.phone = some newPhone
  | _ => True

instance (s : PhoneBook) : DecidablePred (ConfirmsKnown s) := fun e => by
  unfold ConfirmsKnown
  split <;> infer_instance

/-! ## What the login reads -/

theorem PhoneBook.login_eq_ok_iff (s : PhoneBook) (phone userId : String) :
    (s.loginPhoneVerify (.ok true) phone).map Account.id = .ok userId ↔
      (∃ identity ∈ s.identities.rows,
        identity.subject = some (.phone, phone) ∧ identity.userId = userId) ∧
      ∃ user ∈ s.users.rows, user.id = userId ∧ user.isActive = true := by
  have matched : s.loginPhoneVerify (.ok true) phone =
      match s.identities.lookupAlt (.phone, phone) with
      | none => .error (.auth "No account found for this phone number.")
      | some identity =>
          match (s.users.lookup identity.userId).filter Account.isActive with
          | none => .error (.auth "Account not found or deactivated.")
          | some user => .ok user := rfl
  rw [matched]
  cases found : s.identities.lookupAlt (.phone, phone) with
  | none =>
      have unknown := Table.lookupAlt_eq_none_iff.1 found
      constructor
      · intro ok
        cases ok
      · rintro ⟨⟨identity, mem, subject, -⟩, -⟩
        exact absurd subject (unknown identity mem)
  | some identity =>
      have mem := Table.mem_of_lookupAlt found
      have subject := Table.alt_of_lookupAlt found
      constructor
      · intro ok
        dsimp only at ok
        cases login : (s.users.lookup identity.userId).filter Account.isActive with
        | none =>
            rw [login] at ok
            cases ok
        | some user =>
            rw [login] at ok
            obtain rfl : user.id = userId := by simpa [Except.map] using ok
            obtain ⟨stored, active⟩ := Option.filter_eq_some_iff.1 login
            obtain ⟨row, same⟩ := Table.lookup_eq_some_iff.1 stored
            exact ⟨⟨identity, mem, subject, same.symm⟩, user, row, rfl, active⟩
      · rintro ⟨⟨other, mem', subject', rfl⟩, user, row, same, active⟩
        obtain rfl := Table.eq_of_alt_eq mem mem' subject subject'
        have stored : (s.users.lookup identity.userId).filter Account.isActive =
            some user :=
          Option.filter_eq_some_iff.2 ⟨Table.lookup_eq_some_iff.2 ⟨row, same⟩, active⟩
        dsimp only
        rw [stored, ← same]
        rfl

theorem PhoneBook.VerifiedPhone.unique {s : PhoneBook} {phone userId userId' : String}
    (h : s.VerifiedPhone phone userId) (h' : s.VerifiedPhone phone userId') :
    userId = userId' := by
  obtain ⟨user, mem, rfl, column, -⟩ := h
  obtain ⟨user', mem', rfl, column', -⟩ := h'
  rw [Table.eq_of_alt_eq mem mem' column column']

/-! ## The two stores in step -/

/-- Every number is the subject of the identity of the user it is stored for. -/
structure InStep (s : PhoneBook) : Prop where
  active : ∀ user ∈ s.users.rows, user.isActive = true
  verified : ∀ user ∈ s.users.rows, ∀ phone ∈ user.phone, user.phoneVerifiedAt.isSome
  synced : ∀ phone userId,
    (∃ identity ∈ s.identities.rows,
      identity.subject = some (.phone, phone) ∧ identity.userId = userId) ↔
    ∃ user ∈ s.users.rows, user.id = userId ∧ user.phone = some phone

namespace InStep

theorem initial : InStep PhoneBook.initial where
  active := by simp [PhoneBook.initial]
  verified := by simp [PhoneBook.initial]
  synced := by simp [PhoneBook.initial]

theorem loginFollows {s : PhoneBook} (h : InStep s) : LoginFollows s := by
  constructor
  · intro phone userId
    rw [s.login_eq_ok_iff, h.synced]
    constructor
    · rintro ⟨⟨user, mem, same, column⟩, -⟩
      exact ⟨user, mem, same, column, h.verified user mem phone column⟩
    · rintro ⟨user, mem, same, column, -⟩
      exact ⟨⟨user, mem, same, column⟩, user, mem, same, h.active user mem⟩
  · intro phone userId userId' first second
    exact first.unique second

theorem insertAccount_without_phone {s s' : PhoneBook} (h : InStep s) {userId : String}
    (ok : s.insertAccount ⟨userId, none, none, true⟩ = .ok s') : InStep s' := by
  unfold PhoneBook.insertAccount at ok
  split at ok
  · cases ok
  · rename_i users inserted
    obtain rfl := Except.ok.inj ok
    have rows := (Table.insert?_eq_some inserted).2
    constructor
    · simpa [rows] using h.active
    · simpa [rows] using h.verified
    · simpa [rows] using h.synced

theorem insertIdentity_of_other {s s' : PhoneBook} (h : InStep s) {identity : Identity}
    (other : identity.provider ≠ .phone) (ok : s.insertIdentity identity = .ok s') :
    InStep s' := by
  unfold PhoneBook.insertIdentity at ok
  split at ok
  · cases ok
  · rename_i identities inserted
    obtain rfl := Except.ok.inj ok
    have rows := (Table.insert?_eq_some inserted).2
    constructor
    · exact h.active
    · exact h.verified
    · simpa [rows, Identity.subject, other] using h.synced

theorem signupPhoneVerify {s s' : PhoneBook} (h : InStep s) {now : Int}
    {otp : Except Otp.OtpError Bool} {userId identityId phone : String}
    (ok : s.signupPhoneVerify now otp userId identityId phone = .ok s') :
    InStep s' := by
  obtain ⟨-, -, ok⟩ := bind_eq_ok.1 ok
  obtain ⟨middle, account, ok⟩ := bind_eq_ok.1 ok
  unfold PhoneBook.insertAccount at account
  unfold PhoneBook.insertIdentity at ok
  split at account
  · cases account
  · rename_i users insertedUser
    obtain rfl := Except.ok.inj account
    split at ok
    · cases ok
    · rename_i identities insertedIdentity
      obtain rfl := Except.ok.inj ok
      have userRows := (Table.insert?_eq_some insertedUser).2
      have identityRows := (Table.insert?_eq_some insertedIdentity).2
      constructor
      · simpa [userRows] using h.active
      · simpa [userRows] using h.verified
      · intro p u
        simp only [userRows, identityRows, List.exists_mem_cons_iff]
        exact or_congr (by simp [Identity.subject, and_comm]) (h.synced p u)

theorem signupOauth {s s' : PhoneBook} (h : InStep s) {existing : Option String}
    {userId identityId subject : String} {google : Bool}
    (ok : s.signupOauth existing userId identityId google subject = .ok s') :
    InStep s' := by
  have other := PhoneBook.oauthProvider_ne_phone google
  unfold PhoneBook.signupOauth at ok
  dsimp only at ok
  split at ok
  · cases ok
  · split at ok
    · exact h.insertIdentity_of_other other ok
    · obtain ⟨middle, account, ok⟩ := bind_eq_ok.1 ok
      exact (h.insertAccount_without_phone account).insertIdentity_of_other other ok

end InStep

/-! ## A change of the number -/

/-- What a change that succeeds does: the code matched, the user exists, and
the number is stored on that user's account. -/
theorem phoneChangeFinish_eq_ok {s s' : PhoneBook} {now : Int}
    {otp : Except Otp.OtpError Bool} {userId newPhone : String}
    (ok : s.phoneChangeFinish now otp userId newPhone = .ok s') :
    otp = .ok true ∧ (s.users.lookup userId).isSome ∧
      s'.identities = s.identities ∧
      s.users.update? userId (fun user =>
        { user with phone := some newPhone, phoneVerifiedAt := some now }) =
        some s'.users := by
  obtain ⟨done, code, ok⟩ := bind_eq_ok.1 ok
  split at ok
  · cases ok
  · rename_i user found
    split at ok
    · cases ok
    · rename_i users updated
      obtain rfl := Except.ok.inj ok
      exact ⟨PhoneBook.matched_of_ok code, by simp [found], rfl, updated⟩

/-- A login is answered after the change as it was before. -/
theorem login_after_phoneChange {s s' : PhoneBook} {now : Int}
    {otp : Except Otp.OtpError Bool} {userId newPhone : String}
    (ok : s.phoneChangeFinish now otp userId newPhone = .ok s') (phone u : String) :
    (s'.loginPhoneVerify (.ok true) phone).map Account.id = .ok u ↔
      (s.loginPhoneVerify (.ok true) phone).map Account.id = .ok u := by
  obtain ⟨-, -, identities, updated⟩ := phoneChangeFinish_eq_ok ok
  have accounts : (∃ user ∈ s'.users.rows, user.id = u ∧ user.isActive = true) ↔
      ∃ user ∈ s.users.rows, user.id = u ∧ user.isActive = true := by
    rw [Table.rows_update updated]
    constructor
    · rintro ⟨user, mem, same, active⟩
      obtain ⟨old, row, rfl⟩ := List.mem_map.1 mem
      refine ⟨old, row, ?_⟩
      split at same <;> split at active <;> exact ⟨same, active⟩
    · rintro ⟨user, mem, same, active⟩
      refine ⟨_, List.mem_map_of_mem mem, ?_⟩
      split <;> exact ⟨same, active⟩
  rw [s'.login_eq_ok_iff, s.login_eq_ok_iff, identities, accounts]

/-- After the change the user has the number. -/
theorem verifiedPhone_after_phoneChange {s s' : PhoneBook} {now : Int}
    {otp : Except Otp.OtpError Bool} {userId newPhone : String}
    (ok : s.phoneChangeFinish now otp userId newPhone = .ok s') :
    s'.VerifiedPhone newPhone userId := by
  obtain ⟨-, known, -, updated⟩ := phoneChangeFinish_eq_ok ok
  obtain ⟨user, found⟩ := Option.isSome_iff_exists.1 known
  have after := Table.lookup_update updated userId
  rw [if_pos rfl, found] at after
  obtain ⟨row, same⟩ := Table.lookup_eq_some_iff.1 after
  exact ⟨_, row, same, rfl, rfl⟩

/-- A number that is already stored stays where it is. -/
theorem phones_after_known {s s' : PhoneBook} {now : Int}
    {otp : Except Otp.OtpError Bool} {userId newPhone : String}
    (ok : s.phoneChangeFinish now otp userId newPhone = .ok s')
    (known : ∃ other ∈ s.users.rows, other.phone = some newPhone) :
    ∀ user ∈ s'.users.rows, ∃ old ∈ s.users.rows, user.id = old.id ∧
      user.phone = old.phone ∧ user.isActive = old.isActive ∧
      (old.phoneVerifiedAt.isSome → user.phoneVerifiedAt.isSome) := by
  obtain ⟨other, mem, column⟩ := known
  obtain ⟨-, -, -, updated⟩ := phoneChangeFinish_eq_ok ok
  have holder : other.id = userId := by
    by_contra apart
    have kept : other ∈ s'.users.rows := by
      rw [Table.rows_update updated]
      exact List.mem_map.2 ⟨other, mem, if_neg apart⟩
    obtain ⟨user, row, same, now, -⟩ := verifiedPhone_after_phoneChange ok
    rw [Table.eq_of_alt_eq kept row column now] at apart
    exact apart same
  intro user row
  rcases Table.mem_update updated row with ⟨old, before, same, rfl⟩ | ⟨before, -⟩
  · obtain rfl := Table.eq_of_key_eq before mem (same.trans holder.symm)
    exact ⟨old, before, rfl, column.symm, rfl, fun _ => rfl⟩
  · exact ⟨user, before, rfl, rfl, rfl, id⟩

theorem InStep.phoneChangeFinish {s s' : PhoneBook} (h : InStep s) {now : Int}
    {otp : Except Otp.OtpError Bool} {userId newPhone : String}
    (ok : s.phoneChangeFinish now otp userId newPhone = .ok s')
    (known : ∃ other ∈ s.users.rows, other.phone = some newPhone) : InStep s' := by
  have rows := phones_after_known ok known
  obtain ⟨-, -, identities, updated⟩ := phoneChangeFinish_eq_ok ok
  constructor
  · intro user mem
    obtain ⟨old, before, -, -, active, -⟩ := rows user mem
    rw [active]
    exact h.active old before
  · intro user mem phone column
    obtain ⟨old, before, -, same, -, verified⟩ := rows user mem
    exact verified (h.verified old before phone (same ▸ column))
  · intro phone userId'
    rw [identities, h.synced]
    constructor
    · rintro ⟨old, before, same, column⟩
      obtain ⟨user, mem, id_user⟩ : ∃ user ∈ s'.users.rows, user.id = old.id := by
        rw [Table.rows_update updated]
        refine ⟨_, List.mem_map_of_mem before, ?_⟩
        split <;> rfl
      obtain ⟨old', before', id_old', phone_old', -⟩ := rows user mem
      obtain rfl := Table.eq_of_key_eq before before' (id_user.symm.trans id_old')
      exact ⟨user, mem, id_user.trans same, phone_old'.trans column⟩
    · rintro ⟨user, mem, same, column⟩
      obtain ⟨old, before, id_old, phone_old, -⟩ := rows user mem
      exact ⟨old, before, id_old ▸ same, phone_old ▸ column⟩

/-! ## Runs -/

/-- What `get_session` keeps of a call: what it returned, or the state as it was. -/
private theorem toOption_getD {s : PhoneBook} {result : Except PhoneError PhoneBook}
    {p : PhoneBook → Prop} (start : p s) (ok : ∀ s', result = .ok s' → p s') :
    p (result.toOption.getD s) := by
  cases result with
  | error e => exact start
  | ok s' => exact ok s' rfl

theorem InStep.step {s : PhoneBook} {e : Event} (known : ConfirmsKnown s e)
    (h : InStep s) : InStep (step s e) := by
  cases e with
  | signupEmail userId =>
      exact toOption_getD h fun s' ok => h.insertAccount_without_phone ok
  | signupOauth existing userId identityId google subject =>
      exact toOption_getD h fun s' ok => h.signupOauth ok
  | signupPhoneVerify now otp userId identityId phone =>
      exact toOption_getD h fun s' ok => h.signupPhoneVerify ok
  | phoneChangeFinish now otp userId newPhone =>
      refine toOption_getD h fun s' ok => h.phoneChangeFinish ok ?_
      obtain ⟨rfl, found, -⟩ := phoneChangeFinish_eq_ok ok
      obtain ⟨user, found⟩ := Option.isSome_iff_exists.1 found
      exact known user found
  | signupPhoneStart | loginPhoneStart | loginPhoneVerify | phoneChangeStart => exact h

/-- A change to a number that no account has breaks the property. -/
theorem confirmsKnown_of_follows {s : PhoneBook} {e : Event} (before : LoginFollows s)
    (after : LoginFollows (step s e)) : ConfirmsKnown s e := by
  unfold ConfirmsKnown
  split
  case h_2 => trivial
  case h_1 now userId newPhone =>
      intro user found
      cases done : s.phoneChangeFinish now (.ok true) userId newPhone with
      | error e =>
          by_contra unknown
          have refused : s.users.update? userId (fun user =>
              { user with phone := some newPhone, phoneVerifiedAt := some now }) = none := by
            cases updated : s.users.update? userId (fun user =>
                { user with phone := some newPhone, phoneVerifiedAt := some now }) with
            | none => rfl
            | some users =>
                simp [PhoneBook.phoneChangeFinish, PhoneBook.requireMatched,
                  Option.mem_def.1 found, updated, bind, Except.bind] at done
          refine Table.update_ne_none ?_ refused
          intro row _ _ m column other mem _ same
          obtain rfl : newPhone = m := by simpa using column
          exact unknown ⟨other, mem, same⟩
      | ok s' =>
          have reached : Phone.step s (.phoneChangeFinish now (.ok true) userId newPhone) = s' := by
            simp [Phone.step, done, Except.toOption]
          rw [reached] at after
          have login := (after.1 newPhone userId).2 (verifiedPhone_after_phoneChange done)
          have had := (before.1 newPhone userId).1 ((login_after_phoneChange done _ _).1 login)
          obtain ⟨user, mem, -, column, -⟩ := had
          exact ⟨user, mem, column⟩

/--
The login follows the verified number at every point of a run exactly if every
change of a number in it confirms one that is already stored.
-/
theorem phone_login_follows_iff (events : List Event) :
    (∀ first rest, events = first ++ rest →
      LoginFollows (runFrom step PhoneBook.initial first)) ↔
    Guarded step ConfirmsKnown PhoneBook.initial events := by
  constructor
  · intro follows
    refine guarded_of_prefixes fun first e rest same => ?_
    have before := follows first (e :: rest) same
    have after := follows (first ++ [e]) rest (by simp [same])
    rw [runFrom_append] at after
    exact confirmsKnown_of_follows before after
  · rintro guarded first rest rfl
    exact (runFrom_invariant_of_guarded (fun s e known kept => InStep.step known kept)
      InStep.initial guarded.prefix).loginFollows

/-- The old number still logs its former user in, and the new one nobody. -/
theorem phone_login_does_not_follow :
    ¬ ∀ (events : List Event), LoginFollows (runFrom step PhoneBook.initial events) := by
  intro follows
  have login := ((follows
    [.signupPhoneVerify 1 (.ok true) "u1" "i1" "+15550000001",
      .phoneChangeFinish 2 (.ok true) "u1" "+15550000002"]).1 "+15550000002" "u1").2
    ⟨⟨"u1", some "+15550000002", some 2, true⟩, by decide +kernel, rfl, rfl, rfl⟩
  have none_found := (PhoneBook.login_eq_ok_iff _ _ _).1 login
  revert none_found
  decide +kernel

end ColabPlatform.Auth.Phone
