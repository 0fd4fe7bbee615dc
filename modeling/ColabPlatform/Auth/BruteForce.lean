import ColabPlatform.Foundation.KeyStore
import ColabPlatform.Foundation.Run
import Mathlib.Algebra.Group.Int.Defs

/-!
# Guessing a password

`brute_force.py` counts the failures of an email from an address in a key that expires
a window after the last of them, and from the tenth on locks the pair by a second key.
Times are in milliseconds.
-/

namespace ColabPlatform.Auth.BruteForce

open Foundation

def seconds (n : Int) : Int := n * 1000

/-- `MAX_ATTEMPTS` -/
def maxAttempts : Nat := 10

/-- `WINDOW_SECONDS` -/
def windowSeconds : Int := 900

/-- `LOCKOUT_SECONDS` -/
def lockoutSeconds : Int := 900

/-! ## The endpoint -/

/-- An email and the address that it is used from. -/
structure Pair where
  email : String
  ip : String
  deriving DecidableEq, Repr

/-- What the database and the password say: there is no user with a password, the user is
not active, or the password is verified. -/
inductive Account where
  | absent
  | inactive
  | active (matched : Bool)
  deriving DecidableEq, Repr

/-- `withinRate` is the answer of the limit on the address. -/
structure LoginRequest where
  pair : Pair
  withinRate : Bool
  account : Account
  deriving DecidableEq, Repr

inductive LoginError where
  | auth (message : String)
  | rateLimit (retryAfter : Int)
  deriving DecidableEq, Repr

/-- How a password, or its absence, was recorded. -/
inductive Outcome where
  | unknown
  | failed
  | succeeded
  deriving DecidableEq, Repr

structure Entry where
  time : Int
  outcome : Outcome
  deriving DecidableEq, Repr

/-- The two keys of each pair, and for the specification what was recorded of it, newest
first. -/
structure LoginState where
  now : Int
  attempts : KeyStore Pair Int
  locked : KeyStore Pair Unit
  log : Pair → List Entry

namespace LoginState

def start (now : Int) : LoginState := ⟨now, .empty, .empty, fun _ => []⟩

/-- `TTL`, rounded to seconds; an absent key has -2. -/
def ttl (s : LoginState) (pair : Pair) : Int :=
  match s.locked.entries pair with
  | some ⟨_, some deadline⟩ => if s.now < deadline then (deadline - s.now + 500) / 1000 else -2
  | some ⟨_, none⟩ => -1
  | none => -2

def lockedMessage (minutes : Int) : String :=
  "Account locked due to too many failed attempts. Try again in " ++ toString minutes ++
    " minutes."

/-- `check_login_locked`; the minutes are rounded up. -/
def checkLoginLocked (s : LoginState) (pair : Pair) : Except LoginError Unit :=
  if s.locked.exists? s.now pair then .error (.auth (lockedMessage ((s.ttl pair + 59) / 60)))
  else .ok ()

def note (s : LoginState) (pair : Pair) (outcome : Outcome) : LoginState :=
  { s with log := fun other =>
      if other = pair then ⟨s.now, outcome⟩ :: s.log pair else s.log other }

/-- `record_failed_login` -/
def recordFailedLogin (s : LoginState) (pair : Pair) : Except LoginError Unit × LoginState :=
  let counted := s.attempts.incrBy s.now pair 1
  let count := (counted.get s.now pair).getD 0
  let s := { s with attempts := counted.expire s.now (seconds windowSeconds) pair }
  if maxAttempts ≤ count then
    (.error (.auth (lockedMessage (lockoutSeconds / 60))),
      { s with locked := s.locked.setEx s.now (seconds lockoutSeconds) pair () })
  else if 5 ≤ count then (.error (.rateLimit (min (2 ^ (count - 5).toNat) 60)), s)
  else (.ok (), s)

/-- `clear_failed_logins` -/
def clearFailedLogins (s : LoginState) (pair : Pair) : LoginState :=
  { s with attempts := s.attempts.delete pair, locked := s.locked.delete pair }

/-- A failure is recorded, and refused with what the recording raises or as a wrong login. -/
def refuse (s : LoginState) (pair : Pair) (outcome : Outcome) :
    Except LoginError Unit × LoginState :=
  let (recorded, s) := (s.note pair outcome).recordFailedLogin pair
  match recorded with
  | .error raised => (.error raised, s)
  | .ok () => (.error (.auth "Invalid email or password."), s)

/-- `login_email` up to the issue of the tokens -/
def loginEmail (s : LoginState) (request : LoginRequest) : Except LoginError Unit × LoginState :=
  if request.withinRate = false then (.error (.rateLimit 60), s)
  else
    match s.checkLoginLocked request.pair with
    | .error raised => (.error raised, s)
    | .ok () =>
        match request.account with
        | .absent => s.refuse request.pair .unknown
        | .inactive => (.error (.auth "Account is deactivated. Contact support."), s)
        | .active false => s.refuse request.pair .failed
        | .active true => (.ok (), (s.note request.pair .succeeded).clearFailedLogins request.pair)

end LoginState

inductive LoginEvent where
  | elapse (time : Nat)
  | login (request : LoginRequest)
  deriving DecidableEq, Repr

def loginStep (s : LoginState) : LoginEvent → LoginState
  | .elapse time => { s with now := s.now + time }
  | .login request => (s.loginEmail request).2

/-! ## What the log of a pair shows -/

/-- The failures in a row at the end of a log, with less than a window between them. -/
def streak : List Entry → Nat
  | [] => 0
  | [last] => if last.outcome = .succeeded then 0 else 1
  | last :: before :: earlier =>
      if last.outcome = .succeeded then 0
      else if last.time < before.time + seconds windowSeconds then streak (before :: earlier) + 1
      else 1

/-- The log goes forward, and after the tenth failure in a row comes a lockout. -/
def Spaced : List Entry → Prop
  | [] => True
  | last :: earlier =>
      (∀ before ∈ earlier, before.time ≤ last.time) ∧
      (streak earlier = maxAttempts →
        ∀ before ∈ earlier.head?, before.time + seconds lockoutSeconds ≤ last.time) ∧
      Spaced earlier

/-- How many passwords failed in the half-open interval of a window from `since` on. -/
def failedFrom (since : Int) (log : List Entry) : Nat :=
  log.countP fun entry => decide (entry.outcome = .failed ∧ since ≤ entry.time ∧
    entry.time < since + seconds windowSeconds)

/-- Between two successes no window holds more than ten wrong passwords, and after ten
failures in a row without a pause nothing is verified for the time of a lockout. -/
structure GuessesLimited (log : List Entry) : Prop where
  bounded : ∀ later between earlier, log = later ++ between ++ earlier →
    (∀ entry ∈ between, entry.outcome ≠ .succeeded) →
      ∀ since, failedFrom since between ≤ maxAttempts
  silent : ∀ later last row earlier, log = later ++ (last :: row) ++ earlier →
    (last :: row).length = maxAttempts → (∀ entry ∈ last :: row, entry.outcome ≠ .succeeded) →
      (last :: row).IsChain (fun entry before =>
        entry.time < before.time + seconds windowSeconds) →
      ∀ entry ∈ later, last.time + seconds lockoutSeconds ≤ entry.time

section Log

variable {log : List Entry}

theorem streak_of_soon {last before : Entry} {earlier : List Entry}
    (failure : last.outcome ≠ .succeeded)
    (soon : last.time < before.time + seconds windowSeconds) :
    streak (last :: before :: earlier) = streak (before :: earlier) + 1 := by
  rw [streak, if_neg failure, if_pos soon]

theorem streak_of_succeeded {last : Entry} {earlier : List Entry}
    (success : last.outcome = .succeeded) : streak (last :: earlier) = 0 := by
  cases earlier with
  | nil => rw [streak, if_pos success]
  | cons before earlier => rw [streak, if_pos success]

theorem streak_pos {last : Entry} {earlier : List Entry} (failure : last.outcome ≠ .succeeded) :
    0 < streak (last :: earlier) := by
  cases earlier with
  | nil =>
      rw [streak, if_neg failure]
      exact Nat.one_pos
  | cons before earlier =>
      rw [streak, if_neg failure]
      split
      · exact Nat.succ_pos _
      · exact Nat.one_pos

theorem Spaced.suffix {later : List Entry} (spaced : Spaced (later ++ log)) : Spaced log := by
  induction later with
  | nil => exact spaced
  | cons entry later ih => exact ih spaced.2.2

/-- The lockout is as long as the window, so an eleventh failure starts a new row. -/
theorem Spaced.streak_le (spaced : Spaced log) : streak log ≤ maxAttempts := by
  induction log with
  | nil => exact Nat.zero_le _
  | cons last earlier ih =>
      have before := ih spaced.2.2
      cases earlier with
      | nil =>
          rw [streak]
          split <;> decide
      | cons entry earlier =>
          rw [streak]
          split
          · exact Nat.zero_le _
          · split
            · rename_i soon
              have few : streak (entry :: earlier) ≠ maxAttempts := fun full => by
                have rest := spaced.2.1 full entry rfl
                unfold seconds windowSeconds at soon
                unfold seconds lockoutSeconds at rest
                omega
              omega
            · decide

theorem failedFrom_cons_le (since : Int) (entry : Entry) (log : List Entry) :
    failedFrom since (entry :: log) ≤ failedFrom since log + 1 := by
  rw [failedFrom, List.countP_cons]
  split
  · exact Nat.le_refl _
  · exact Nat.le_succ _

/-- A log that ends before the window has nothing in it. -/
theorem failedFrom_eq_zero {since : Int} (old : ∀ entry ∈ log, entry.time < since) :
    failedFrom since log = 0 := by
  refine List.countP_eq_zero.2 fun entry mem inside => ?_
  have before := old entry mem
  exact absurd (of_decide_eq_true inside).2.1 (Int.not_le.2 before)

/-- If the last entry lies before the end of a window, the wrong passwords in the window belong
to the row at the end. -/
theorem failedFrom_le_streak {since : Int} {last : Entry} {between earlier : List Entry}
    (spaced : Spaced (last :: between ++ earlier))
    (failures : ∀ entry ∈ last :: between, entry.outcome ≠ .succeeded)
    (inside : last.time < since + seconds windowSeconds) :
    failedFrom since (last :: between) ≤ streak (last :: between ++ earlier) := by
  induction between generalizing last with
  | nil =>
      have one : 0 < streak (last :: earlier) := streak_pos (failures last List.mem_cons_self)
      exact Nat.le_trans List.countP_le_length one
  | cons before between ih =>
      have sorted : ∀ entry ∈ before :: between, entry.time ≤ last.time :=
        fun entry mem => spaced.1 entry (List.mem_append_left _ mem)
      have failures' : ∀ entry ∈ before :: between, entry.outcome ≠ .succeeded :=
        fun entry mem => failures entry (List.mem_cons_of_mem _ mem)
      have one := failedFrom_cons_le since last (before :: between)
      by_cases reached : since ≤ before.time
      · have rest := ih spaced.2.2 failures'
          (Int.lt_of_le_of_lt (sorted before List.mem_cons_self) inside)
        have row : streak (last :: before :: between ++ earlier) =
            streak (before :: between ++ earlier) + 1 :=
          streak_of_soon (failures last List.mem_cons_self) (by omega)
        omega
      · have old : failedFrom since (before :: between) = 0 := by
          refine failedFrom_eq_zero fun entry mem => ?_
          rcases List.mem_cons.1 mem with rfl | mem
          · exact Int.not_le.1 reached
          · have earlier_still := spaced.2.2.1 entry (List.mem_append_left _ mem)
            omega
        have pos : 0 < streak (last :: before :: between ++ earlier) :=
          streak_pos (failures last List.mem_cons_self)
        omega

/-- No window between two successes holds more wrong passwords than a row may have. -/
theorem Spaced.failedFrom_le {between earlier : List Entry} (spaced : Spaced (between ++ earlier))
    (failures : ∀ entry ∈ between, entry.outcome ≠ .succeeded) (since : Int) :
    failedFrom since between ≤ maxAttempts := by
  induction between with
  | nil => exact Nat.zero_le _
  | cons last between ih =>
      by_cases inside : last.time < since + seconds windowSeconds
      · exact Nat.le_trans (failedFrom_le_streak spaced failures inside) spaced.streak_le
      · have out : failedFrom since (last :: between) = failedFrom since between := by
          rw [failedFrom, List.countP_cons_of_neg (by simpa using fun _ _ => Int.not_lt.1 inside)]
          rfl
        rw [out]
        exact ih spaced.2.2 fun entry mem => failures entry (List.mem_cons_of_mem _ mem)

/-- A row without a pause is counted in full. -/
theorem length_le_streak {row earlier : List Entry}
    (failures : ∀ entry ∈ row, entry.outcome ≠ .succeeded)
    (near : row.IsChain fun entry before =>
      entry.time < before.time + seconds windowSeconds) :
    row.length ≤ streak (row ++ earlier) := by
  induction row with
  | nil => exact Nat.zero_le _
  | cons last row ih =>
      have failure := failures last List.mem_cons_self
      cases row with
      | nil => exact streak_pos failure
      | cons before row =>
          have rest := ih (fun entry mem => failures entry (List.mem_cons_of_mem _ mem))
            (List.isChain_cons_cons.1 near).2
          have longer : streak (last :: before :: row ++ earlier) =
              streak (before :: row ++ earlier) + 1 :=
            streak_of_soon failure (List.isChain_cons_cons.1 near).1
          rw [longer, List.length_cons]
          exact Nat.succ_le_succ rest

/-- After a full row comes a lockout. -/
theorem Spaced.lockout {later earlier : List Entry} {last : Entry}
    (spaced : Spaced (later ++ last :: earlier))
    (full : streak (last :: earlier) = maxAttempts) :
    ∀ entry ∈ later, last.time + seconds lockoutSeconds ≤ entry.time := by
  induction later with
  | nil => simp
  | cons next later ih =>
      intro entry mem
      rcases List.mem_cons.1 mem with rfl | mem
      · cases later with
        | nil => exact spaced.2.1 full last rfl
        | cons before later =>
            have first := ih spaced.2.2 before List.mem_cons_self
            exact Int.le_trans first (spaced.1 before List.mem_cons_self)
      · exact ih spaced.2.2 entry mem

theorem Spaced.guessesLimited (spaced : Spaced log) : GuessesLimited log where
  bounded later between earlier split failures since := by
    rw [split, List.append_assoc] at spaced
    exact spaced.suffix.failedFrom_le failures since
  silent later last row earlier split length failures near := by
    rw [split, List.append_assoc] at spaced
    have counted : (last :: row).length ≤ streak (last :: row ++ earlier) :=
      length_le_streak failures near
    have most := spaced.suffix.streak_le
    exact spaced.lockout (Nat.le_antisymm most (length ▸ counted))

end Log

/-! ## What the keys hold -/

/-- The counter holds the row at the end of the log for a window after its last failure, and
the lock a full one for a lockout. -/
structure Keeps (pair : Pair) (s : LoginState) : Prop where
  spaced : Spaced (s.log pair)
  past : ∀ entry ∈ s.log pair, entry.time ≤ s.now
  counter : ∀ now, s.now ≤ now → s.attempts.get now pair =
    match s.log pair with
    | [] => none
    | last :: earlier =>
        if last.outcome ≠ .succeeded ∧ now < last.time + seconds windowSeconds
          then some (streak (last :: earlier) : Int) else none
  lock : ∀ now, s.now ≤ now → (s.locked.get now pair).isSome =
    match s.log pair with
    | [] => false
    | last :: earlier =>
        decide (streak (last :: earlier) = maxAttempts ∧ now < last.time + seconds lockoutSeconds)

section Keeps

variable {pair : Pair} {s : LoginState}

theorem Keeps.start (now : Int) : Keeps pair (.start now) where
  spaced := trivial
  past _ mem := absurd mem List.not_mem_nil
  counter _ _ := rfl
  lock _ _ := rfl

theorem Keeps.elapse (keeps : Keeps pair s) (time : Nat) :
    Keeps pair { s with now := s.now + time } := by
  have later : s.now ≤ s.now + (time : Int) :=
    Int.le_add_of_nonneg_right (Int.natCast_nonneg time)
  exact ⟨keeps.spaced, fun entry mem => Int.le_trans (keeps.past entry mem) later,
    fun now le => keeps.counter now (Int.le_trans later le),
    fun now le => keeps.lock now (Int.le_trans later le)⟩

/-- A pair that is not locked may be noted once more. -/
theorem Keeps.spaced_cons (keeps : Keeps pair s) (unlocked : (s.locked.get s.now pair) = none)
    (outcome : Outcome) : Spaced (⟨s.now, outcome⟩ :: s.log pair) := by
  refine ⟨keeps.past, fun full before head => ?_, keeps.spaced⟩
  have lock := keeps.lock s.now (Int.le_refl _)
  rw [unlocked] at lock
  cases log : s.log pair with
  | nil => rw [log] at head; cases head
  | cons last earlier =>
      rw [log] at head full lock
      obtain rfl := Option.some.inj head
      by_contra early
      exact absurd lock.symm (by simpa using ⟨full, Int.not_le.1 early⟩)

/-- The count that a failure comes to is the length of its row. -/
theorem Keeps.count (keeps : Keeps pair s) {outcome : Outcome} (failure : outcome ≠ .succeeded) :
    (s.attempts.get s.now pair).getD 0 + 1 =
      (streak (⟨s.now, outcome⟩ :: s.log pair) : Int) := by
  rw [keeps.counter s.now (Int.le_refl _)]
  cases log : s.log pair with
  | nil =>
      rw [streak, if_neg failure]
      rfl
  | cons last earlier =>
      dsimp only
      rw [streak, if_neg failure]
      by_cases success : last.outcome = .succeeded
      · rw [if_neg fun both => both.1 success, streak_of_succeeded success]
        split <;> rfl
      · by_cases soon : s.now < last.time + seconds windowSeconds
        · rw [if_pos ⟨success, soon⟩, if_pos soon]
          rfl
        · rw [if_neg fun both => soon both.2, if_neg soon]
          rfl

/-- What a failure writes, whatever it raises. -/
theorem refuse_eq (s : LoginState) (pair : Pair) (outcome : Outcome) :
    (s.refuse pair outcome).2 =
      { now := s.now
        attempts := (s.attempts.incrBy s.now pair 1).expire s.now (seconds windowSeconds) pair
        locked := if maxAttempts ≤ (s.attempts.get s.now pair).getD 0 + 1
          then s.locked.setEx s.now (seconds lockoutSeconds) pair () else s.locked
        log := (s.note pair outcome).log } := by
  have count : ((s.attempts.incrBy s.now pair 1).get s.now pair).getD 0 =
      (s.attempts.get s.now pair).getD 0 + 1 := by
    rw [KeyStore.get_incrBy, if_pos rfl]
    rfl
  unfold LoginState.refuse LoginState.recordFailedLogin LoginState.note
  simp only [count]
  by_cases locks : maxAttempts ≤ (s.attempts.get s.now pair).getD 0 + 1
  · simp only [if_pos locks]
  · by_cases slows : 5 ≤ (s.attempts.get s.now pair).getD 0 + 1
    · simp only [if_neg locks, if_pos slows]
    · simp only [if_neg locks, if_neg slows]

@[simp] theorem log_note_self (s : LoginState) (pair : Pair) (outcome : Outcome) :
    (s.note pair outcome).log pair = ⟨s.now, outcome⟩ :: s.log pair := if_pos rfl

theorem log_note_of_ne (s : LoginState) {pair other : Pair} (outcome : Outcome)
    (ne : other ≠ pair) : (s.note pair outcome).log other = s.log other := if_neg ne

/-- A note is not older than any other. -/
theorem Keeps.past_cons (keeps : Keeps pair s) (outcome : Outcome) :
    ∀ entry ∈ (⟨s.now, outcome⟩ : Entry) :: s.log pair, entry.time ≤ s.now := by
  intro entry mem
  rcases List.mem_cons.1 mem with rfl | mem
  · exact Int.le_refl _
  · exact keeps.past entry mem

/-- A failure of a pair that is not locked counts one more, and locks at the tenth. -/
theorem Keeps.refuse (keeps : Keeps pair s) (unlocked : s.locked.get s.now pair = none)
    {outcome : Outcome} (failure : outcome ≠ .succeeded) :
    Keeps pair (s.refuse pair outcome).2 := by
  have count := keeps.count failure
  have spaced := keeps.spaced_cons unlocked outcome
  have most := spaced.streak_le
  rw [refuse_eq, count]
  refine ⟨?_, ?_, fun now le => ?_, fun now le => ?_⟩
  · simpa using spaced
  · simpa using keeps.past_cons outcome
  · simp only [log_note_self]
    rw [KeyStore.get_expire_incrBy _ _ _ _ _ (by decide), count]
    simp only [ne_eq, failure, not_false_eq_true, true_and]
  · simp only [log_note_self]
    by_cases full : streak (⟨s.now, outcome⟩ :: s.log pair) = maxAttempts
    · rw [if_pos (by omega), KeyStore.get_setEx_self, full]
      by_cases soon : now < s.now + seconds lockoutSeconds <;> simp [soon]
    · have gone : s.locked.get now pair = none :=
        Option.eq_none_iff_forall_ne_some.2 fun _ found => by
          rw [KeyStore.get_of_le le found] at unlocked
          cases unlocked
      rw [if_neg (by omega), gone]
      simp [full]

/-- A success of a pair that is not locked clears both keys. -/
theorem Keeps.succeed (keeps : Keeps pair s) (unlocked : s.locked.get s.now pair = none) :
    Keeps pair ((s.note pair .succeeded).clearFailedLogins pair) := by
  unfold LoginState.clearFailedLogins
  have none : streak (⟨s.now, .succeeded⟩ :: s.log pair) ≠ maxAttempts := by
    rw [streak_of_succeeded rfl]
    decide
  refine ⟨?_, ?_, fun now _ => ?_, fun now _ => ?_⟩
  · simpa using keeps.spaced_cons unlocked .succeeded
  · rw [log_note_self]
    exact keeps.past_cons .succeeded
  · simp [KeyStore.get_delete_self]
  · simp [KeyStore.get_delete_self, none]

/-- Only the keys and the log of the pair itself matter. -/
theorem Keeps.congr (keeps : Keeps pair s) {s' : LoginState} (now : s'.now = s.now)
    (log : s'.log pair = s.log pair)
    (attempts : ∀ now, s'.attempts.get now pair = s.attempts.get now pair)
    (locked : ∀ now, s'.locked.get now pair = s.locked.get now pair) : Keeps pair s' := by
  refine ⟨?_, ?_, fun later le => ?_, fun later le => ?_⟩
  · rw [log]
    exact keeps.spaced
  · rw [log, now]
    exact keeps.past
  · rw [log, attempts]
    exact keeps.counter later (now ▸ le)
  · rw [log, locked]
    exact keeps.lock later (now ▸ le)

theorem Keeps.refuse_of_ne (keeps : Keeps pair s) {other : Pair} (ne : pair ≠ other)
    (outcome : Outcome) : Keeps pair (s.refuse other outcome).2 := by
  rw [refuse_eq]
  refine keeps.congr rfl (log_note_of_ne s outcome ne) (fun now => ?_) (fun now => ?_)
  · rw [KeyStore.get_expire_of_ne _ _ _ _ ne, KeyStore.get_incrBy_of_ne _ _ _ _ ne]
  · dsimp only
    split
    · exact KeyStore.get_setEx_of_ne _ _ _ _ _ ne
    · rfl

theorem Keeps.succeed_of_ne (keeps : Keeps pair s) {other : Pair} (ne : pair ≠ other) :
    Keeps pair ((s.note other .succeeded).clearFailedLogins other) :=
  keeps.congr rfl (log_note_of_ne s .succeeded ne)
    (fun now => KeyStore.get_delete_of_ne _ now ne) (fun now => KeyStore.get_delete_of_ne _ now ne)

theorem locked_eq_none (s : LoginState) (pair : Pair)
    (ok : s.checkLoginLocked pair = .ok ()) : s.locked.get s.now pair = none := by
  unfold LoginState.checkLoginLocked at ok
  split at ok
  · cases ok
  · rename_i unlocked
    simpa [KeyStore.exists?] using unlocked

theorem Keeps.loginEmail (keeps : Keeps pair s) (request : LoginRequest) :
    Keeps pair (s.loginEmail request).2 := by
  unfold LoginState.loginEmail
  split
  · exact keeps
  · cases checked : s.checkLoginLocked request.pair with
    | error raised => exact keeps
    | ok _ =>
        have unlocked := locked_eq_none s request.pair checked
        have refused : ∀ outcome, outcome ≠ .succeeded →
            Keeps pair (s.refuse request.pair outcome).2 := by
          intro outcome failure
          by_cases same : pair = request.pair
          · subst same
            exact keeps.refuse unlocked failure
          · exact keeps.refuse_of_ne same outcome
        cases request.account with
        | absent => exact refused .unknown (by decide)
        | inactive => exact keeps
        | active matched =>
            cases matched with
            | false => exact refused .failed (by decide)
            | true =>
                by_cases same : pair = request.pair
                · subst same
                  exact keeps.succeed unlocked
                · exact keeps.succeed_of_ne same

theorem Keeps.loginStep (keeps : Keeps pair s) (e : LoginEvent) : Keeps pair (loginStep s e) := by
  cases e with
  | elapse time => exact keeps.elapse time
  | login request => exact keeps.loginEmail request

theorem Keeps.runFrom (now : Int) (events : List LoginEvent) :
    Keeps pair (runFrom BruteForce.loginStep (.start now) events) :=
  runFrom_invariant (fun _ e keeps => keeps.loginStep e) (Keeps.start now) events

end Keeps

/-! ## Every run -/

/-- However the requests of all pairs interleave, the passwords that are verified for a pair are
as few as the two limits say. -/
theorem password_guesses_limited (now : Int) (events : List LoginEvent) (pair : Pair) :
    GuessesLimited ((runFrom loginStep (.start now) events).log pair) :=
  (Keeps.runFrom now events).spaced.guessesLimited

example : ((runFrom loginStep (.start 0) (List.replicate 12
    (.login ⟨⟨"a@x", "::1"⟩, true, .active false⟩))).log ⟨"a@x", "::1"⟩).length = 10 := by decide

end ColabPlatform.Auth.BruteForce
