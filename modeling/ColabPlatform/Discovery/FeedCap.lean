import ColabPlatform.Foundation.Interleaving
import ColabPlatform.Foundation.KeyStore
import ColabPlatform.Foundation.Run
import Mathlib.Data.PNat.Basic

/-!
# The daily cap of the feed

`check_and_increment_cap` counts first and looks at the cap afterwards.  A
call that exceeds the cap takes back what is exceeding the cap, which is what it
counted only if the cap had been reached exactly.
-/

namespace ColabPlatform.Discovery

open Foundation

/-! ## Calls -/

/-- `feed_cap:{user_id}:{today}`, with the number of the day in UTC. -/
structure CapKey where
  userId : String
  today : Int
  deriving DecidableEq, Repr

def microsecondsPerSecond : Int := 1000000

def microsecondsPerDay : Int := 86400 * microsecondsPerSecond

/-- `_seconds_until_utc_midnight`, from a time in microseconds. -/
def secondsUntilUtcMidnight (now : Int) : Int :=
  ((now / microsecondsPerDay + 1) * microsecondsPerDay - now) / microsecondsPerSecond

/-- The step of Redis that a call waits for. -/
inductive CapPhase where
  | entered
  | expiring
  | reverting
  | returned
  deriving DecidableEq, Repr

structure CapCall where
  key : CapKey
  count : ℕ+
  phase : CapPhase
  /-- What the pipeline returned. -/
  current : Int
  /-- The counts that were allowed when the pipeline ran, noted for the specification. -/
  allowedBefore : Int
  deriving DecidableEq, Repr

namespace CapCall

variable (cap : Nat) (call : CapCall)

/-- The pipeline of the call has run. -/
def Decided : Prop := call.phase ≠ .entered

instance : Decidable call.Decided := inferInstanceAs (Decidable (_ ≠ _))

/-- `current > CAP_FREE` -/
def Over : Prop := (cap : Int) < call.current

instance : Decidable (call.Over cap) := inferInstanceAs (Decidable (_ < _))

def overage : Int := call.current - cap

/-- What the call returns. -/
def result : Bool × Int :=
  if call.Over cap then (false, 0) else (true, cap - call.current)

/-- The comparison with the cap. -/
def judged : CapCall :=
  { call with phase := if call.Over cap then .reverting else .returned }

def Allowed : Prop := call.Decided ∧ ¬ call.Over cap

instance : Decidable (call.Allowed cap) := inferInstanceAs (Decidable (_ ∧ _))

/-- A call that is denied and has yet to take its count back. -/
def Owes : Prop := call.Decided ∧ call.Over cap ∧ call.phase ≠ .returned

instance : Decidable (call.Owes cap) := inferInstanceAs (Decidable (_ ∧ _ ∧ _))

end CapCall

structure CapState where
  now : Int
  store : KeyStore CapKey Int
  calls : List CapCall

namespace CapState

def start (now : Int) : CapState := ⟨now, .empty, []⟩

/-- The counter, 0 where there is none. -/
def counter (s : CapState) (key : CapKey) : Int := (s.store.get s.now key).getD 0

/-- The counts of the calls of a key that meet a condition. -/
def total (p : CapCall → Prop) [DecidablePred p] (key : CapKey) (calls : List CapCall) : Nat :=
  (calls.map fun call => if call.key = key ∧ p call then (call.count : Nat) else 0).sum

def allowed (cap : Nat) (s : CapState) (key : CapKey) : Nat :=
  total (fun call => call.Allowed cap) key s.calls

def owed (cap : Nat) (s : CapState) (key : CapKey) : Nat :=
  total (fun call => call.Owes cap) key s.calls

/-! ## Steps -/

/-- A call begins; that of a user who is not on the free tier returns at once. -/
def enter (userId tier : String) (count : ℕ+) (s : CapState) : CapState :=
  if tier ≠ "free" then s
  else { s with calls := s.calls ++
    [⟨⟨userId, s.now / microsecondsPerDay⟩, count, .entered, 0, 0⟩] }

/-- `ttl < 0` -/
def unlimited (store : KeyStore CapKey Int) (key : CapKey) : Bool :=
  (store.entries key).all fun entry => entry.deadline.isNone

/-- The call after `INCRBY` and `TTL` in one pipeline. -/
def counted (cap : Nat) (s : CapState) (call : CapCall) : CapCall :=
  let counted := { call with
    current := s.counter call.key + call.count, allowedBefore := s.allowed cap call.key }
  if unlimited (s.store.incrBy s.now call.key call.count) call.key then
    { counted with phase := .expiring }
  else counted.judged cap

def pipeline (cap : Nat) (index : Nat) (s : CapState) : CapState :=
  match s.calls[index]? with
  | some call =>
      if call.phase = .entered then
        { s with
          store := s.store.incrBy s.now call.key call.count
          calls := s.calls.set index (s.counted cap call) }
      else s
  | none => s

def expire (cap : Nat) (index : Nat) (s : CapState) : CapState :=
  match s.calls[index]? with
  | some call =>
      if call.phase = .expiring then
        { s with
          store := s.store.expire s.now
            (secondsUntilUtcMidnight s.now * microsecondsPerSecond) call.key
          calls := s.calls.set index (call.judged cap) }
      else s
  | none => s

def decrement (cap : Nat) (index : Nat) (s : CapState) : CapState :=
  match s.calls[index]? with
  | some call =>
      if call.phase = .reverting then
        { s with
          store := s.store.incrBy s.now call.key (-call.overage cap)
          calls := s.calls.set index { call with phase := .returned } }
      else s
  | none => s

end CapState

inductive CapEvent where
  | enter (userId tier : String) (count : ℕ+)
  | pipeline (index : Nat)
  | expire (index : Nat)
  | decrement (index : Nat)
  | elapse (time : Nat)
  deriving DecidableEq, Repr

def capStep (cap : Nat) (s : CapState) : CapEvent → CapState
  | .enter userId tier count => s.enter userId tier count
  | .pipeline index => s.pipeline cap index
  | .expire index => s.expire cap index
  | .decrement index => s.decrement cap index
  | .elapse time => { s with now := s.now + time }

/-! ## Accounts -/

/-- The calls that were allowed stay within the cap, the others leave no trace, and
every call is told the truth. -/
structure Accounted (cap : Nat) (s : CapState) : Prop where
  capped : ∀ key, s.allowed cap key ≤ cap
  booked : ∀ key value, s.store.get s.now key = some value →
    value = s.allowed cap key + s.owed cap key
  returned : ∀ call ∈ s.calls, call.Decided → call.Over cap → call.overage cap = call.count
  justified : ∀ call ∈ s.calls, call.Decided → (call.result cap).1 = false →
    (cap : Int) < call.allowedBefore + call.count
  remaining : ∀ call ∈ s.calls, call.Decided → (call.result cap).2 =
    cap - (call.allowedBefore + if (call.result cap).1 then (call.count : Int) else 0)

/-- The counts fit or the cap has been reached exactly, and the counter is there for as
long as it is needed. -/
def CapState.keepsAccounts (cap : Nat) (s : CapState) : CapEvent → Prop
  | .pipeline index => ∀ call, s.calls[index]? = some call → call.phase = .entered →
      (s.counter call.key + call.count ≤ cap ∨ s.counter call.key = cap) ∧
      ((s.store.get s.now call.key).isSome ∨
        s.allowed cap call.key = 0 ∧ s.owed cap call.key = 0)
  | .decrement index => ∀ call, s.calls[index]? = some call → call.phase = .reverting →
      (s.store.get s.now call.key).isSome
  | _ => True

/-! ## Totals -/

namespace CapState

theorem total_set {p : CapCall → Prop} [DecidablePred p] {calls : List CapCall} {index : Nat}
    {old : CapCall} (found : calls[index]? = some old) (new : CapCall) (key : CapKey) :
    total p key (calls.set index new) + (if old.key = key ∧ p old then (old.count : Nat) else 0) =
      total p key calls + if new.key = key ∧ p new then (new.count : Nat) else 0 :=
  sum_map_set found new _

/-- A call that stays what it was for a condition leaves the totals as they are. -/
theorem total_set_of_iff {p : CapCall → Prop} [DecidablePred p] {calls : List CapCall}
    {index : Nat} {old new : CapCall} (found : calls[index]? = some old)
    (sameKey : new.key = old.key) (sameCount : new.count = old.count) (same : p new ↔ p old)
    (key : CapKey) : total p key (calls.set index new) = total p key calls := by
  have sum := total_set (p := p) found new key
  simp only [sameKey, sameCount, same] at sum
  omega

/-- A call that meets the condition from now on. -/
theorem total_set_of_joins {p : CapCall → Prop} [DecidablePred p] {calls : List CapCall}
    {index : Nat} {old new : CapCall} (found : calls[index]? = some old) (fails : ¬ p old)
    {q : Prop} [Decidable q] (joins : p new ↔ q) (key : CapKey) :
    total p key (calls.set index new) =
      total p key calls + if new.key = key ∧ q then (new.count : Nat) else 0 := by
  have sum := total_set (p := p) found new key
  simpa only [fails, and_false, if_false, Nat.add_zero, joins] using sum

/-- A call that meets the condition no more. -/
theorem total_set_of_leaves {p : CapCall → Prop} [DecidablePred p] {calls : List CapCall}
    {index : Nat} {old new : CapCall} (found : calls[index]? = some old) (holds : p old)
    (leaves : ¬ p new) (key : CapKey) :
    total p key (calls.set index new) + (if old.key = key then (old.count : Nat) else 0) =
      total p key calls := by
  have sum := total_set (p := p) found new key
  simpa only [leaves, and_false, if_false, Nat.add_zero, holds, and_true] using sum

theorem total_concat {p : CapCall → Prop} [DecidablePred p] (calls : List CapCall)
    {call : CapCall} (fails : ¬ p call) (key : CapKey) :
    total p key (calls ++ [call]) = total p key calls := by
  simp [total, fails]

theorem exists_of_total_pos {p : CapCall → Prop} [DecidablePred p] {calls : List CapCall}
    {key : CapKey} (pos : 0 < total p key calls) : ∃ call ∈ calls, call.key = key ∧ p call := by
  by_contra none
  apply Nat.ne_of_gt pos
  rw [total, List.sum_eq_zero_iff_forall_eq_nat]
  intro n mem
  obtain ⟨call, found, rfl⟩ := List.mem_map.1 mem
  exact if_neg fun now => none ⟨call, found, now⟩

end CapState

/-! ## What the pipeline settles -/

section Counted

variable (cap : Nat) (s : CapState) (call : CapCall)

@[simp] theorem over_judged : (call.judged cap).Over cap ↔ call.Over cap := Iff.rfl

theorem decided_judged : (call.judged cap).Decided := by
  unfold CapCall.judged CapCall.Decided
  split_ifs <;> simp

theorem over_of_reverting (reverting : (call.judged cap).phase = .reverting) :
    call.Over cap := by
  unfold CapCall.judged at reverting
  split_ifs at reverting with exceeding
  exact exceeding

theorem phase_judged : (call.judged cap).phase = .returned ↔ ¬ call.Over cap := by
  unfold CapCall.judged
  split_ifs with exceeding <;> simp [exceeding]

@[simp] theorem key_counted : (s.counted cap call).key = call.key := by
  unfold CapState.counted
  split_ifs <;> rfl

@[simp] theorem count_counted : (s.counted cap call).count = call.count := by
  unfold CapState.counted
  split_ifs <;> rfl

@[simp] theorem current_counted :
    (s.counted cap call).current = s.counter call.key + call.count := by
  unfold CapState.counted
  split_ifs <;> rfl

@[simp] theorem allowedBefore_counted :
    (s.counted cap call).allowedBefore = s.allowed cap call.key := by
  unfold CapState.counted
  split_ifs <;> rfl

theorem decided_counted : (s.counted cap call).Decided := by
  unfold CapState.counted
  split_ifs
  · simp [CapCall.Decided]
  · exact decided_judged cap _

theorem over_counted :
    (s.counted cap call).Over cap ↔ (cap : Int) < s.counter call.key + call.count := by
  rw [CapCall.Over, current_counted]

theorem owes_counted : (s.counted cap call).Owes cap ↔ (s.counted cap call).Over cap := by
  refine ⟨fun owes => owes.2.1, fun exceeding => ⟨decided_counted cap s call, exceeding, ?_⟩⟩
  unfold CapState.counted at exceeding ⊢
  split_ifs at exceeding ⊢
  · simp
  · rw [Ne, phase_judged]
    exact not_not_intro exceeding

theorem over_of_reverting_counted (reverting : (s.counted cap call).phase = .reverting) :
    (s.counted cap call).Over cap := by
  unfold CapState.counted at reverting ⊢
  split_ifs at reverting ⊢
  exact over_of_reverting cap _ reverting

theorem allowed_counted : (s.counted cap call).Allowed cap ↔ ¬ (s.counted cap call).Over cap :=
  and_iff_right (decided_counted cap s call)

end Counted

/-! ## Invariant -/

/-- What holds in every state of every run. -/
structure CapSound (cap : Nat) (s : CapState) : Prop where
  exceeding : ∀ call ∈ s.calls, call.phase = .reverting → call.Over cap
  before : ∀ call ∈ s.calls, call.Decided → call.allowedBefore ≤ s.allowed cap call.key

/-- A call keeps what the pipeline settled. -/
structure Continues (cap : Nat) (old new : CapCall) : Prop where
  key : new.key = old.key
  count : new.count = old.count
  current : new.current = old.current
  allowedBefore : new.allowedBefore = old.allowedBefore
  decided : old.Decided ∧ new.Decided
  reverting : new.phase = .reverting → new.Over cap

theorem continues_judged {cap : Nat} {call : CapCall} (phase : call.phase = .expiring) :
    Continues cap call (call.judged cap) where
  key := rfl
  count := rfl
  current := rfl
  allowedBefore := rfl
  decided := ⟨by simp [CapCall.Decided, phase], decided_judged cap call⟩
  reverting := over_of_reverting cap call

theorem continues_returned {cap : Nat} {call : CapCall} (phase : call.phase = .reverting) :
    Continues cap call { call with phase := .returned } where
  key := rfl
  count := rfl
  current := rfl
  allowedBefore := rfl
  decided := ⟨by simp [CapCall.Decided, phase], by simp [CapCall.Decided]⟩
  reverting := fun reverting => by cases reverting

section Continues

variable {cap : Nat} {s : CapState} {index : Nat} {old new : CapCall}

theorem Continues.over_iff (h : Continues cap old new) : new.Over cap ↔ old.Over cap := by
  unfold CapCall.Over
  rw [h.current]

theorem Continues.allowed (h : Continues cap old new) (found : s.calls[index]? = some old)
    (store : KeyStore CapKey Int) (key : CapKey) :
    CapState.allowed cap { s with store, calls := s.calls.set index new } key =
      s.allowed cap key := by
  apply CapState.total_set_of_iff found h.key h.count
  unfold CapCall.Allowed
  rw [h.over_iff, and_iff_right h.decided.1, and_iff_right h.decided.2]

theorem CapSound.continues (sound : CapSound cap s) (h : Continues cap old new)
    (found : s.calls[index]? = some old) (store : KeyStore CapKey Int) :
    CapSound cap { s with store, calls := s.calls.set index new } where
  exceeding := forall_mem_set h.reverting sound.exceeding
  before := by
    simp only [h.allowed found store]
    refine forall_mem_set (fun _ => ?_) sound.before
    rw [h.allowedBefore, h.key]
    exact sound.before old (List.mem_of_getElem? found) h.decided.1

end Continues

theorem CapSound.step {cap : Nat} {s : CapState} (sound : CapSound cap s) (e : CapEvent) :
    CapSound cap (capStep cap s e) := by
  cases e with
  | enter userId tier count =>
      unfold capStep CapState.enter
      dsimp only
      split_ifs with tiered
      · exact sound
      · refine ⟨forall_mem_concat (by simp) sound.exceeding, ?_⟩
        unfold CapState.allowed
        dsimp only
        refine forall_mem_concat (fun decided => absurd rfl decided) fun call mem decided => ?_
        rw [CapState.total_concat _ (by simp [CapCall.Allowed, CapCall.Decided])]
        exact sound.before call mem decided
  | pipeline index =>
      unfold capStep CapState.pipeline
      dsimp only
      cases found : s.calls[index]? with
      | none => exact sound
      | some call =>
          dsimp only
          split_ifs with phase
          · have grows : ∀ key, s.allowed cap key ≤
                CapState.total (fun call => call.Allowed cap) key
                  (s.calls.set index (s.counted cap call)) := fun key => by
              have sum := CapState.total_set (p := fun call => call.Allowed cap) found
                (s.counted cap call) key
              have before : ¬ call.Allowed cap := fun allowed => allowed.1 phase
              rw [if_neg fun now => before now.2] at sum
              unfold CapState.allowed
              omega
            constructor
            · exact forall_mem_set (over_of_reverting_counted cap s call) sound.exceeding
            · refine forall_mem_set (fun _ => ?_) fun other mem decided => ?_
              · rw [allowedBefore_counted, key_counted]
                exact Int.ofNat_le.2 (grows _)
              · exact (sound.before other mem decided).trans (Int.ofNat_le.2 (grows _))
          · exact sound
  | expire index =>
      unfold capStep CapState.expire
      dsimp only
      cases found : s.calls[index]? with
      | none => exact sound
      | some call =>
          dsimp only
          split_ifs with phase
          · exact sound.continues (continues_judged phase) found _
          · exact sound
  | decrement index =>
      unfold capStep CapState.decrement
      dsimp only
      cases found : s.calls[index]? with
      | none => exact sound
      | some call =>
          dsimp only
          split_ifs with phase
          · exact sound.continues (continues_returned phase) found _
          · exact sound
  | elapse time => exact ⟨sound.exceeding, sound.before⟩

/-! ## Accounts, call by call -/

/-- What the pipeline settles for a call is right. -/
def Settled (cap : Nat) (call : CapCall) : Prop :=
  call.Decided →
    if call.Over cap then call.current = cap + call.count ∧ call.allowedBefore = cap
    else call.current = call.allowedBefore + call.count

theorem accounted_iff {cap : Nat} {s : CapState} :
    Accounted cap s ↔
      (∀ key, s.allowed cap key ≤ cap) ∧
      (∀ key value, s.store.get s.now key = some value →
        value = s.allowed cap key + s.owed cap key) ∧
      ∀ call ∈ s.calls, Settled cap call := by
  constructor
  · rintro ⟨capped, booked, returned, justified, remaining⟩
    refine ⟨capped, booked, fun call mem decided => ?_⟩
    have told := remaining call mem decided
    unfold CapCall.result at told
    split_ifs with exceeding
    · have taken := returned call mem decided exceeding
      rw [if_pos exceeding] at told
      simp only [CapCall.overage, Bool.false_eq_true, if_false] at taken told
      omega
    · rw [if_neg exceeding] at told
      simp only [if_true] at told
      omega
  · rintro ⟨capped, booked, settled⟩
    refine ⟨capped, booked, fun call mem decided exceeding => ?_, fun call mem decided denied => ?_,
      fun call mem decided => ?_⟩
    · have right := settled call mem decided
      rw [if_pos exceeding] at right
      unfold CapCall.overage
      omega
    · have right := settled call mem decided
      have pos := call.count.pos
      by_cases exceeding : call.Over cap
      · rw [if_pos exceeding] at right
        omega
      · simp [CapCall.result, exceeding] at denied
    · have right := settled call mem decided
      by_cases exceeding : call.Over cap
      · rw [if_pos exceeding] at right
        simp [CapCall.result, exceeding, right.2]
      · rw [if_neg exceeding] at right
        simp [CapCall.result, exceeding, right]

theorem Continues.settled {cap : Nat} {old new : CapCall} (h : Continues cap old new)
    (settled : Settled cap old) : Settled cap new := by
  intro _
  have right := settled h.decided.1
  rwa [h.current, h.count, h.allowedBefore, if_congr h.over_iff rfl rfl]

/-- While a denied call has yet to take its count back, the cap is used up. -/
theorem allowed_of_owed {cap : Nat} {s : CapState} (sound : CapSound cap s)
    (accounted : Accounted cap s) {key : CapKey} (owed : 0 < s.owed cap key) :
    s.allowed cap key = cap := by
  obtain ⟨call, mem, rfl, decided, exceeding, -⟩ := CapState.exists_of_total_pos owed
  have right := (accounted_iff.1 accounted).2.2 call mem decided
  rw [if_pos exceeding] at right
  have before := sound.before call mem decided
  have capped := accounted.capped call.key
  omega

section Steps

variable {cap : Nat} {s : CapState} {index : Nat} {call : CapCall}

theorem accounted_enter (accounted : Accounted cap s) (userId tier : String) (count : ℕ+) :
    Accounted cap (s.enter userId tier count) := by
  unfold CapState.enter
  split_ifs
  · exact accounted
  · rw [accounted_iff] at accounted ⊢
    obtain ⟨capped, booked, settled⟩ := accounted
    unfold CapState.allowed CapState.owed at *
    dsimp only at *
    refine ⟨fun key => ?_, fun key value found => ?_,
      forall_mem_concat (fun decided => absurd rfl decided) settled⟩
    · rw [CapState.total_concat _ (by simp [CapCall.Allowed, CapCall.Decided])]
      exact capped key
    · rw [CapState.total_concat _ (by simp [CapCall.Allowed, CapCall.Decided]),
        CapState.total_concat _ (by simp [CapCall.Owes, CapCall.Decided])]
      exact booked key value found

theorem accounted_expire (accounted : Accounted cap s) (index : Nat) :
    Accounted cap (s.expire cap index) := by
  unfold CapState.expire
  cases found : s.calls[index]? with
  | none => exact accounted
  | some call =>
      dsimp only
      split_ifs with phase
      · have h : Continues cap call (call.judged cap) := continues_judged phase
        rw [accounted_iff] at accounted ⊢
        obtain ⟨capped, booked, settled⟩ := accounted
        simp only [h.allowed found]
        refine ⟨capped, fun key value now => ?_,
          forall_mem_set (h.settled (settled call (List.mem_of_getElem? found))) settled⟩
        have owes : (call.judged cap).Owes cap ↔ call.Owes cap := by
          simp [CapCall.Owes, h.decided, phase, phase_judged]
        have owed : CapState.total (fun call => call.Owes cap) key
            (s.calls.set index (call.judged cap)) = s.owed cap key :=
          CapState.total_set_of_iff found h.key h.count owes key
        rw [CapState.owed, owed]
        exact booked key value (KeyStore.get_expire now)
      · exact accounted

theorem accounted_elapse (accounted : Accounted cap s) (time : Nat) :
    Accounted cap { s with now := s.now + time } := by
  rw [accounted_iff] at accounted ⊢
  obtain ⟨capped, booked, settled⟩ := accounted
  refine ⟨capped, fun key value found => ?_, settled⟩
  exact booked key value (KeyStore.get_of_le (by simp) found)

/-- The call that takes its count back. -/
theorem accounted_reverted_iff (sound : CapSound cap s) (accounted : Accounted cap s)
    (found : s.calls[index]? = some call) (phase : call.phase = .reverting) :
    Accounted cap { s with
        store := s.store.incrBy s.now call.key (-call.overage cap)
        calls := s.calls.set index { call with phase := .returned } } ↔
      (s.store.get s.now call.key).isSome := by
  have h : Continues cap call { call with phase := .returned } := continues_returned phase
  have mem := List.mem_of_getElem? found
  have exceeding := sound.exceeding call mem phase
  rw [accounted_iff] at accounted ⊢
  obtain ⟨capped, booked, settled⟩ := accounted
  have right := settled call mem h.decided.1
  rw [if_pos exceeding] at right
  have owed := CapState.total_set_of_leaves (p := fun call => call.Owes cap) found
    ⟨h.decided.1, exceeding, by simp [phase]⟩
    (show ¬ CapCall.Owes cap { call with phase := .returned } by simp [CapCall.Owes])
  have pos := call.count.pos
  simp only [h.allowed found, KeyStore.get_incrBy]
  unfold CapState.owed at booked ⊢
  dsimp only
  constructor
  · rintro ⟨-, booked', -⟩
    have after := booked' call.key _ (if_pos rfl)
    have before := owed call.key
    rw [if_pos rfl] at before
    cases stored : s.store.get s.now call.key with
    | some value => rfl
    | none =>
        -- The counter would be negative.
        simp only [stored, Option.getD_none, CapCall.overage] at after
        omega
  · intro alive
    obtain ⟨value, stored⟩ := Option.isSome_iff_exists.1 alive
    refine ⟨capped, fun key value' now => ?_, forall_mem_set (h.settled (settled call mem)) settled⟩
    have before := owed key
    by_cases same : key = call.key
    · subst same
      have booking := booked call.key value stored
      rw [if_pos rfl, stored] at now
      obtain rfl := Option.some.inj now
      rw [if_pos rfl] at before
      simp only [Option.getD_some, CapCall.overage]
      omega
    · rw [if_neg same] at now
      rw [if_neg fun eq => same eq.symm] at before
      have booking := booked key value' now
      omega

/-! ### The call whose pipeline runs -/

theorem total_allowed_counted (found : s.calls[index]? = some call) (phase : call.phase = .entered)
    (key : CapKey) :
    CapState.total (fun call => call.Allowed cap) key (s.calls.set index (s.counted cap call)) =
      s.allowed cap key +
        if call.key = key ∧ ¬ (s.counted cap call).Over cap then (call.count : Nat) else 0 := by
  have joins := CapState.total_set_of_joins (p := fun call => call.Allowed cap) found
    (fun allowed => allowed.1 phase) (allowed_counted cap s call) key
  rwa [key_counted, count_counted] at joins

theorem total_owes_counted (found : s.calls[index]? = some call) (phase : call.phase = .entered)
    (key : CapKey) :
    CapState.total (fun call => call.Owes cap) key (s.calls.set index (s.counted cap call)) =
      s.owed cap key +
        if call.key = key ∧ (s.counted cap call).Over cap then (call.count : Nat) else 0 := by
  have joins := CapState.total_set_of_joins (p := fun call => call.Owes cap) found
    (fun owes => owes.1 phase) (owes_counted cap s call) key
  rwa [key_counted, count_counted] at joins

theorem counter_of_absent {key : CapKey} (absent : (s.store.get s.now key).isSome = false) :
    s.counter key = 0 := by
  rw [CapState.counter, Option.not_isSome_iff_eq_none.1 (Bool.eq_false_iff.1 absent)]
  rfl

theorem counter_of_present (accounted : Accounted cap s) {key : CapKey}
    (present : (s.store.get s.now key).isSome = true) :
    s.counter key = s.allowed cap key + s.owed cap key := by
  obtain ⟨value, stored⟩ := Option.isSome_iff_exists.1 present
  rw [CapState.counter, stored]
  exact accounted.booked key value stored

/-- Right accounts afterwards leave no other way. -/
theorem fits_of_accounted (accounted : Accounted cap s)
    (found : s.calls[index]? = some call) (phase : call.phase = .entered)
    (after : Accounted cap { s with
        store := s.store.incrBy s.now call.key call.count
        calls := s.calls.set index (s.counted cap call) }) :
    (s.counter call.key + call.count ≤ cap ∨ s.counter call.key = cap) ∧
      ((s.store.get s.now call.key).isSome ∨
        s.allowed cap call.key = 0 ∧ s.owed cap call.key = 0) := by
  obtain ⟨-, booked, settled⟩ := accounted_iff.1 after
  have booking := booked call.key (s.counter call.key + call.count)
    (by rw [KeyStore.get_incrBy, if_pos rfl]; rfl)
  have right := settled _ (mem_set_of_found found) (decided_counted cap s call)
  rw [CapState.allowed, CapState.owed, total_allowed_counted found phase,
    total_owes_counted found phase] at booking
  simp only [true_and] at booking
  rw [current_counted, count_counted, allowedBefore_counted] at right
  have counter : s.counter call.key = s.allowed cap call.key + s.owed cap call.key := by
    by_cases exceeds : (s.counted cap call).Over cap
    · rw [if_neg (not_not_intro exceeds), if_pos exceeds] at booking
      omega
    · rw [if_pos exceeds, if_neg exceeds] at booking
      omega
  have cappedHere := accounted.capped call.key
  constructor
  · by_cases exceeds : (s.counted cap call).Over cap
    · rw [if_pos exceeds] at right
      exact .inr (by omega)
    · exact .inl (not_lt.1 fun now => exceeds ((over_counted cap s call).2 now))
  · cases alive : (s.store.get s.now call.key).isSome with
    | true => exact .inl rfl
    | false =>
        have none := counter_of_absent alive
        exact .inr (by omega)

/-- The counter is what is allowed and owed, whether the key is there or not. -/
theorem counter_eq_allowed (sound : CapSound cap s) (accounted : Accounted cap s)
    (fits : s.counter call.key + call.count ≤ cap ∨ s.counter call.key = cap)
    (alive : (s.store.get s.now call.key).isSome ∨
      s.allowed cap call.key = 0 ∧ s.owed cap call.key = 0) :
    s.counter call.key = s.allowed cap call.key ∧ s.owed cap call.key = 0 := by
  have usedUp : 0 < s.owed cap call.key → s.allowed cap call.key = cap :=
    allowed_of_owed sound accounted
  have pos := call.count.pos
  have counter : s.counter call.key = s.allowed cap call.key + s.owed cap call.key := by
    cases stored : (s.store.get s.now call.key).isSome with
    | true => exact counter_of_present accounted stored
    | false =>
        simp only [stored, Bool.false_eq_true, false_or] at alive
        have none := counter_of_absent stored
        omega
  omega

theorem accounted_of_fits (sound : CapSound cap s) (accounted : Accounted cap s)
    (found : s.calls[index]? = some call) (phase : call.phase = .entered)
    (fits : s.counter call.key + call.count ≤ cap ∨ s.counter call.key = cap)
    (alive : (s.store.get s.now call.key).isSome ∨
      s.allowed cap call.key = 0 ∧ s.owed cap call.key = 0) :
    Accounted cap { s with
        store := s.store.incrBy s.now call.key call.count
        calls := s.calls.set index (s.counted cap call) } := by
  obtain ⟨counter, unowed⟩ := counter_eq_allowed sound accounted fits alive
  obtain ⟨capped, booked, settled⟩ := accounted_iff.1 accounted
  have exceeding := over_counted cap s call
  have pos := call.count.pos
  rw [accounted_iff]
  refine ⟨fun key => ?_, fun key value stored => ?_, forall_mem_set (fun _ => ?_) settled⟩
  · rw [CapState.allowed, total_allowed_counted found phase]
    by_cases joins : call.key = key ∧ ¬ (s.counted cap call).Over cap
    · rw [if_pos joins, ← joins.1]
      have within := not_lt.1 fun now => joins.2 (exceeding.2 now)
      omega
    · rw [if_neg joins]
      exact capped key
  · rw [CapState.allowed, CapState.owed, total_allowed_counted found phase,
      total_owes_counted found phase]
    rw [KeyStore.get_incrBy] at stored
    by_cases same : key = call.key
    · subst same
      rw [if_pos rfl] at stored
      have value_eq : s.counter call.key + call.count = value := Option.some.inj stored
      by_cases exceeds : (s.counted cap call).Over cap
      · simp only [exceeds, not_true_eq_false, and_false, if_false, and_self, if_true]
        omega
      · simp only [exceeds, not_false_eq_true, and_self, if_true, and_false, if_false]
        omega
    · rw [if_neg same] at stored
      have other : ¬ call.key = key := fun eq => same eq.symm
      simpa [other] using booked key value stored
  · rw [current_counted, count_counted, allowedBefore_counted]
    split_ifs with exceeds
    · rw [exceeding] at exceeds
      omega
    · omega

theorem accounted_counted_iff (sound : CapSound cap s) (accounted : Accounted cap s)
    (found : s.calls[index]? = some call) (phase : call.phase = .entered) :
    Accounted cap { s with
        store := s.store.incrBy s.now call.key call.count
        calls := s.calls.set index (s.counted cap call) } ↔
      (s.counter call.key + call.count ≤ cap ∨ s.counter call.key = cap) ∧
      ((s.store.get s.now call.key).isSome ∨
        s.allowed cap call.key = 0 ∧ s.owed cap call.key = 0) :=
  ⟨fits_of_accounted accounted found phase,
    fun right => accounted_of_fits sound accounted found phase right.1 right.2⟩

theorem accounted_step_iff (e : CapEvent) (sound : CapSound cap s) (accounted : Accounted cap s) :
    Accounted cap (capStep cap s e) ↔ s.keepsAccounts cap e := by
  cases e with
  | enter userId tier count => exact iff_of_true (accounted_enter accounted ..) trivial
  | pipeline index =>
      unfold capStep CapState.pipeline CapState.keepsAccounts
      cases found : s.calls[index]? with
      | none => simp [found, accounted]
      | some call =>
          by_cases phase : call.phase = .entered
          · simpa [found, phase] using accounted_counted_iff sound accounted found phase
          · simp [found, phase, accounted]
  | expire index => exact iff_of_true (accounted_expire accounted index) trivial
  | decrement index =>
      unfold capStep CapState.decrement CapState.keepsAccounts
      cases found : s.calls[index]? with
      | none => simp [found, accounted]
      | some call =>
          by_cases phase : call.phase = .reverting
          · simpa [found, phase] using accounted_reverted_iff sound accounted found phase
          · simp [found, phase, accounted]
  | elapse time => exact iff_of_true (accounted_elapse accounted time) trivial

end Steps

/-! ## Runs -/

theorem sound_start (cap : Nat) (now : Int) : CapSound cap (CapState.start now) := by
  constructor <;> simp [CapState.start]

theorem accounted_start (cap : Nat) (now : Int) : Accounted cap (CapState.start now) := by
  constructor <;> simp [CapState.start, CapState.allowed, CapState.total]

/-- The accounts are right throughout a run exactly when every count fits into what is
left of the cap or finds the cap reached exactly, and no counter expires early. -/
theorem feed_cap_accounted_iff (cap : Nat) (now : Int) (events : List CapEvent) :
    (∀ first, first <+: events →
      Accounted cap (runFrom (capStep cap) (CapState.start now) first)) ↔
    Guarded (capStep cap) (CapState.keepsAccounts cap) (CapState.start now) events :=
  prefixes_iff_guarded_of_invariant (fun s e (sound : CapSound cap s) => sound.step e)
    (fun s e (sound : CapSound cap s) (accounted : Accounted cap s) =>
      accounted_step_iff e sound accounted)
    (sound_start cap now) (accounted_start cap now) events

/-- Ten profiles are served, then 25 are refused: the counter is left at the cap. -/
theorem not_accounted : ¬ ∀ cap now events,
    Accounted cap (runFrom (capStep cap) (CapState.start now) events) := by
  intro accounted
  have now := accounted 30 0 [.enter "viewer" "free" 10, .pipeline 0, .expire 0,
    .enter "viewer" "free" 25, .pipeline 1, .decrement 1]
  have booked := now.booked ⟨"viewer", 0⟩ 30 (by decide)
  revert booked
  decide

end ColabPlatform.Discovery
