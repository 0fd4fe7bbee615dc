import ColabPlatform.Foundation.KeyStore
import ColabPlatform.Foundation.Run

/-!
# Auth service: one-time codes for phones

`send_phone_otp` and `verify_phone_otp` as the steps between their calls to
Redis, for the keys of one phone number.  The steps of any number of calls
interleave.  Whether the Redis client has the method `hincr`, by which the
counter of wrong codes is raised, is a parameter; a call of a method that is
missing raises.
-/

namespace ColabPlatform.Auth.Otp

open Foundation

def otpTtlSeconds : Int := 300

def otpMaxAttempts : Int := 5

def otpCooldownSeconds : Int := 1800

/-- The hash at `otp:phone:…`; `issue` numbers the code it holds. -/
structure OtpRecord where
  code : Option String
  attempts : Option Int
  issue : Option Nat
  deriving DecidableEq, Repr

inductive OtpError where
  | rateLimit (retryAfter : Int)
  | auth (message : String)
  | attributeError
  deriving DecidableEq, Repr

/-- Where a call is; the first three are those of `send_phone_otp`. -/
inductive Phase where
  | checkCooldown (ip : String)
  | lookUp
  | generate
  | sent (result : Except OtpError String)
  | readCode (code : String)
  | readAttempts (code stored : String) (issue : Nat)
  | compare (code stored : String) (issue : Nat) (attempts : Int)
  | lockOut
  | mismatched (issue : Nat) (attempts : Int)
  | counted (attempts : Int)
  | matched
  | verified (result : Except OtpError Bool)

/-- What the log of a number records: attempts used up, a code given or taken. -/
inductive Mark where
  | exhausted (time : Int)
  | issued (time : Int)
  | accepted (time : Int)
  deriving DecidableEq, Repr

/--
The keys of one number, the calls for it, and what has happened: how many codes
were issued, how many wrong codes were compared against each, and the log.
-/
structure PhoneState where
  data : KeyStore String OtpRecord
  cooldown : KeyStore String Unit
  clock : Int
  calls : List Phase
  issued : Nat
  wrong : Nat → Int
  log : List Mark

def PhoneState.initial : PhoneState :=
  ⟨.empty, .empty, 0, [], 0, fun _ => 0, []⟩

structure RedisClient where
  hasHincr : Bool

def dataKey (phone : String) : String := "otp:phone:" ++ phone

def cooldownKey (phone ip : String) : String :=
  "otp:cooldown:phone:" ++ phone ++ ":" ++ ip

/-- `HINCRBY` on the counter; a missing key becomes a hash without expiry. -/
def hincr (data : KeyStore String OtpRecord) (now : Int) (key : String) :
    KeyStore String OtpRecord :=
  match data.get now key with
  | some record =>
      data.put key { record with attempts := some (record.attempts.getD 0 + 1) }
        ((data.entries key).bind Stamped.deadline)
  | none => data.put key ⟨none, some 1, none⟩ none

/-- One step of a call; `otp` is what `_generate_otp` would draw. -/
def advance (client : RedisClient) (phone : String) (now : Int) (otp : String)
    (phase : Phase) (s : PhoneState) : Phase × PhoneState :=
  let key := dataKey phone
  match phase with
  | .checkCooldown ip =>
      if s.cooldown.exists? now (cooldownKey phone ip) then
        (.sent (.error (.rateLimit otpCooldownSeconds)), s)
      else (.lookUp, s)
  | .lookUp =>
      match ((s.data.get now key).bind OtpRecord.code).filter (· ≠ "") with
      | some existing =>
          (.sent (.ok existing), { s with log := s.log ++ [.issued now] })
      | none => (.generate, s)
  | .generate =>
      (.sent (.ok otp), { s with
        data := s.data.setEx now otpTtlSeconds key ⟨some otp, some 0, some s.issued⟩
        issued := s.issued + 1
        log := s.log ++ [.issued now] })
  | .sent result => (.sent result, s)
  | .readCode code =>
      match s.data.get now key with
      | some { code := some stored, issue := some issue, .. } =>
          if stored = "" then
            (.verified (.error (.auth "OTP expired or not found. Request a new code.")), s)
          else (.readAttempts code stored issue, s)
      | _ =>
          (.verified (.error (.auth "OTP expired or not found. Request a new code.")), s)
  | .readAttempts code stored issue =>
      let attempts := ((s.data.get now key).bind OtpRecord.attempts).getD 0
      if otpMaxAttempts ≤ attempts then (.lockOut, s)
      else (.compare code stored issue attempts, s)
  | .compare code stored issue attempts =>
      if stored = code then (.matched, s)
      else
        (.mismatched issue attempts, { s with
          wrong := Function.update s.wrong issue (s.wrong issue + 1)
          log := if s.wrong issue + 1 = otpMaxAttempts then s.log ++ [.exhausted now]
            else s.log })
  | .lockOut =>
      (.verified (.error
        (.auth "Too many OTP attempts. Request a new code in 30 minutes.")),
        { s with data := s.data.delete key })
  | .mismatched _ attempts =>
      if client.hasHincr then (.counted attempts, { s with data := hincr s.data now key })
      else (.verified (.error .attributeError), s)
  | .counted attempts =>
      (.verified (.ok false),
        if otpMaxAttempts ≤ attempts + 1 then { s with data := s.data.delete key }
        else s)
  | .matched =>
      (.verified (.ok true),
        { s with data := s.data.delete key, log := s.log ++ [.accepted now] })
  | .verified result => (.verified result, s)

inductive Action where
  | send (ip : String)
  | verify (code : String)
  | advance (index : Nat) (otp : String)

structure Event where
  now : Int
  action : Action

/-- An event that is stamped before the last one does not happen. -/
def step (client : RedisClient) (phone : String) (s : PhoneState) (e : Event) :
    PhoneState :=
  if e.now < s.clock then s
  else
    let s := { s with clock := e.now }
    match e.action with
    | .send ip => { s with calls := s.calls ++ [.checkCooldown ip] }
    | .verify code => { s with calls := s.calls ++ [.readCode code] }
    | .advance index otp =>
        match s.calls[index]? with
        | none => s
        | some phase =>
            let (phase, s) := Otp.advance client phone e.now otp phase s
            { s with calls := s.calls.set index phase }

/-! ## The guessing bound -/

/-- No more than the allowed wrong codes were compared against an issued code. -/
def GuessesBounded (s : PhoneState) : Prop :=
  ∀ issue, s.wrong issue ≤ otpMaxAttempts

/-- What may follow an exhaustion of attempts. -/
def Mark.mayFollow : Mark → Mark → Prop
  | .issued time, .exhausted since | .accepted time, .exhausted since =>
      since + otpCooldownSeconds ≤ time
  | _, _ => True

instance : DecidableRel Mark.mayFollow
  | .issued _, .exhausted _ => inferInstanceAs (Decidable (_ ≤ _))
  | .accepted _, .exhausted _ => inferInstanceAs (Decidable (_ ≤ _))
  | .issued _, .issued _ | .issued _, .accepted _ | .accepted _, .issued _
  | .accepted _, .accepted _ | .exhausted _, _ => inferInstanceAs (Decidable True)

/-- No code is given or taken during the cooldown that follows an exhaustion. -/
def CooldownKept (s : PhoneState) : Prop :=
  s.log.Pairwise fun earlier later => later.mayFollow earlier

/-! ## Undisturbed calls -/

/-- A verification between reading the counter and having used it. -/
def Phase.counting : Phase → Bool
  | .compare _ _ _ _ | .mismatched _ _ | .matched => true
  | _ => false

/-- A send that has passed the cooldown. -/
def Phase.sending : Phase → Bool
  | .lookUp | .generate => true
  | _ => false

/-- The issue of the code that is stored now. -/
def PhoneState.stored (s : PhoneState) (phone : String) (now : Int) : Option Nat :=
  (s.data.get now (dataKey phone)).bind OtpRecord.issue

/--
A send begins outside the cooldown.  A verification reads the counter while no
other is between its own reading and its use of it, and while the code it has
loaded is still stored.  A wrong code is compared only if the client can count
it, and the last one allowed only while no send is under way and no other code
has been stored.
-/
def Undisturbed (client : RedisClient) (phone : String) (s : PhoneState) (e : Event) :
    Prop :=
  match e.action with
  | .advance index _ =>
      match s.calls[index]? with
      | some (.checkCooldown _) => ∀ m ∈ s.log, Mark.mayFollow (.issued e.now) m
      | some (.readAttempts _ _ issue) =>
          (∀ call ∈ s.calls, call.counting = false) ∧
            s.stored phone e.now = some issue
      | some (.compare code stored issue attempts) =>
          stored ≠ code → client.hasHincr ∧
            (otpMaxAttempts ≤ attempts + 1 →
              (∀ call ∈ s.calls, call.sending = false) ∧
                ∀ other ∈ s.stored phone e.now, other = issue)
      | _ => True
  | _ => True

instance (client : RedisClient) (phone : String) (s : PhoneState) (e : Event) :
    Decidable (Undisturbed client phone s e) := by
  unfold Undisturbed
  split
  · split <;> infer_instance
  · infer_instance

end ColabPlatform.Auth.Otp
