import ColabPlatform.Notifications.Model

/-!
# Deliveries and attempts

A message is delivered again when its handler fails, and an attempt of a task is repeated when
it fails or its worker is lost.  The file counts the rows and the dispatches of every message
and recipient, and says what one event does to a task.
-/

namespace ColabPlatform.Notifications

open Foundation

/-! ## What is promised -/

/-- Whom an event is for. -/
def NotifEvent.recipients : NotifEvent → List String
  | .matchCreated _ userIdA userIdB | .aiMockupGenerated userIdA userIdB
  | .collabNudgeDue _ userIdA userIdB _ => [userIdA, userIdB]
  | .inviteSent userId | .inviteAccepted userId | .chatMessageSent _ userId
  | .chatFileSent userId | .collabStatusUpdated userId | .supportTicketReplied userId => [userId]
  | .marketingBroadcast | .userCreated _ | .unknown _ => []

theorem recipients_eq (event : NotifEvent) :
    event.recipients = (route event).map (·.userId) := by
  cases event <;> rfl

def Notification.isFor (entry : Notification) (message : Nat) (userId : String) : Bool :=
  entry.message = message && entry.userId = userId

def TaskCall.isFor (call : TaskCall) (message : Nat) (userId : String) : Bool :=
  call.message = message && call.task.userId = userId

namespace NotifState

def rows (s : NotifState) (message : Nat) (userId : String) : Nat :=
  s.notifications.countP (·.isFor message userId)

def dispatched (s : NotifState) (message : Nat) (userId : String) : Nat :=
  s.dispatches.countP (·.isFor message userId)

def acked (s : NotifState) (message : Nat) : Bool :=
  s.messages[message]?.any (·.phase = .acked)

def recipients (s : NotifState) (message : Nat) : List String :=
  s.messages[message]?.elim [] (·.event.recipients)

/-- The message is acknowledged, and its tasks for the recipient have ended: none was given up,
and none by a key of another message. -/
structure Settled (s : NotifState) (message : Nat) (userId : String) : Prop where
  acked : s.acked message = true
  intended : userId ∈ s.recipients message
  finished : ∀ call ∈ s.tasks, call.isFor message userId = true → call.phase = .done

structure ExactlyOnce (s : NotifState) : Prop where
  row : ∀ message userId, s.rows message userId ≤ 1
  dispatch : ∀ message userId, s.dispatched message userId ≤ 1
  delivered : ∀ message userId, s.Settled message userId →
    s.rows message userId = 1 ∧ s.dispatched message userId = 1

/-! ## The runs in which it is kept -/

/-- The task ends because an attempt for the same message has set the key before. -/
def endsOnOwnKey (s : NotifState) (call : TaskCall) (now : Int) (inRoom redisOk : Bool) : Bool :=
  match call.phase, call.task.gate.pass s.redis now inRoom call.message with
  | .waiting eta, .error holder => eta.all (· ≤ now) && redisOk && holder = call.message
  | _, _ => false

/-- The message, another of its tasks for the recipient or a row remains. -/
def remains (s : NotifState) (index : Nat) (call : TaskCall) : Bool :=
  !s.acked call.message || 0 < s.rows call.message call.task.userId ||
    (s.tasks.eraseIdx index).any fun other =>
      other.isFor call.message call.task.userId && other.phase ≠ .done

/-- A task for the recipient or a row is there. -/
def covered (s : NotifState) (message : Nat) (userId : String) : Bool :=
  0 < s.rows message userId ||
    s.tasks.any fun call => call.isFor message userId && call.phase ≠ .done

/-- A task does not end on the key of its own message while the row is missing and nothing is
left that may write it, and nothing is sent for a message and a recipient twice. -/
def taskKeeps (s : NotifState) (index : Nat) (call : TaskCall) : TaskEvent → Bool
  | .start now inRoom redisOk =>
      !s.endsOnOwnKey call now inRoom redisOk || s.remains index call
  | .dispatch _ outcome =>
      call.phase ≠ .running || outcome ≠ .sent ||
        s.dispatched call.message call.task.userId = 0
  | .commit _ _ | .finish | .lost => true

/-- A message is acknowledged only when each recipient has a row, or a task that may write it. -/
def messageKeeps (s : NotifState) (index : Nat) (message : Message) (event : MessageEvent) :
    Bool :=
  event ≠ .ack || message.phase ≠ .routing [] ||
    message.event.recipients.all (s.covered index ·)

def keepsOnce (s : NotifState) : NotifStep → Bool
  | .publish _ => true
  | .message index event =>
      match s.messages[index]? with
      | some message => s.messageKeeps index message event
      | none => true
  | .task index event =>
      match s.tasks[index]? with
      | some call => s.taskKeeps index call event
      | none => true

end NotifState

/-! ## One attempt -/

theorem isFor_iff {call : TaskCall} {message : Nat} {userId : String} :
    call.isFor message userId = true ↔ call.message = message ∧ call.task.userId = userId := by
  simp [TaskCall.isFor]

theorem isFor_self (call : TaskCall) : call.isFor call.message call.task.userId = true :=
  isFor_iff.2 ⟨rfl, rfl⟩

@[simp] theorem isFor_notification (call : TaskCall) (notifId message : Nat) (userId : String) :
    (call.notification notifId).isFor message userId = call.isFor message userId := rfl

/-- What `new` has of `call`, whose place it takes. -/
structure Continues (call new : TaskCall) : Prop where
  message : new.message = call.message
  task : new.task = call.task

theorem Continues.isFor {call new : TaskCall} (h : Continues call new) (message : Nat)
    (userId : String) : new.isFor message userId = call.isFor message userId := by
  rw [TaskCall.isFor, TaskCall.isFor, h.message, h.task]

theorem Continues.phase (call : TaskCall) (phase : TaskPhase) :
    Continues call { call with phase } := ⟨rfl, rfl⟩

theorem retry_continues (call : TaskCall) (now : Int) : Continues call (call.retry now) := by
  unfold TaskCall.retry
  split
  · exact ⟨rfl, rfl⟩
  · exact ⟨rfl, rfl⟩

theorem entries_setnx {redis next : Redis} {now ttl : Int} {key other : RedisKey} {message : Nat}
    (set : idempotencySetnx redis now key ttl message = .ok next) (apart : other ≠ key) :
    next.entries other = redis.entries other := by
  unfold idempotencySetnx at set
  split at set
  · cases set
  · cases set
    rw [KeyStore.entries_setEx, if_neg apart]

/-- The keys of the tasks are none of the keys of the dispatch. -/
theorem entries_pass {redis next : Redis} {now : Int} {inRoom : Bool} {message : Nat}
    {gate : Gate} (passed : gate.pass redis now inRoom message = .ok next) (notifId : Nat) :
    next.entries (.dispatch notifId) = redis.entries (.dispatch notifId) := by
  cases gate with
  | free =>
      cases passed
      rfl
  | idempotency key ttl => exact entries_setnx passed (by simp)
  | debounce key ttl =>
      cases inRoom with
      | true => exact entries_setnx passed (by simp)
      | false =>
          cases passed
          rfl

/-- The task has not ended, and has neither sent nor written anything in this attempt. -/
def TaskPhase.open : TaskPhase → Bool
  | .waiting _ | .running | .suppressed | .abandoned => true
  | .dispatched _ | .returned | .done => false

theorem retry_open (call : TaskCall) (now : Int) : (call.retry now).phase.open = true := by
  unfold TaskCall.retry
  split
  · rfl
  · rfl

namespace NotifState

/-- No key is set for the ids that are not drawn yet. -/
def Undrawn (redis : Redis) (nextId : Nat) : Prop :=
  ∀ notifId, nextId ≤ notifId → redis.entries (.dispatch notifId) = none

variable {s s' : NotifState} {index : Nat} {call new : TaskCall}

/-- A key that contains a new id is never there. -/
theorem setnx_dispatch {redis : Redis} {nextId : Nat} (undrawn : Undrawn redis nextId)
    (now ttl : Int) (message : Nat) :
    idempotencySetnx redis now (.dispatch nextId) ttl message =
      .ok (redis.setEx now ttl (.dispatch nextId) message) := by
  have missing : redis.get now (.dispatch nextId) = none := by
    rw [KeyStore.get, undrawn nextId (Nat.le_refl _)]
  rw [idempotencySetnx, missing]

theorem Undrawn.later {redis : Redis} {nextId : Nat} (undrawn : Undrawn redis nextId) :
    Undrawn redis (nextId + 1) := by
  intro notifId le
  apply undrawn
  omega

theorem Undrawn.setEx {redis : Redis} {nextId : Nat} (undrawn : Undrawn redis nextId)
    (now ttl : Int) (message : Nat) :
    Undrawn (redis.setEx now ttl (.dispatch nextId) message) (nextId + 1) := by
  intro notifId le
  have apart : RedisKey.dispatch notifId ≠ .dispatch nextId := by
    simp only [ne_eq, RedisKey.dispatch.injEq]
    omega
  rw [KeyStore.entries_setEx, if_neg apart]
  apply undrawn
  omega

/-- What one event does to a task. -/
inductive Worked (s : NotifState) (index : Nat) (call : TaskCall) (event : TaskEvent) :
    NotifState → Prop where
  | idle (keeps : s.taskKeeps index call event = true) : Worked s index call event s
  | stays (new : TaskCall) (redis : Redis) (nextId : Nat) (continues : Continues call new)
      (isOpen : new.phase.open = true) (undrawn : Undrawn redis nextId)
      (keeps : s.taskKeeps index call event = true) :
      Worked s index call event { s.putTask index new with redis, nextId }
  | ended (pending : call.phase.open = true)
      (keeps : s.taskKeeps index call event = s.remains index call) :
      Worked s index call event (s.putTask index { call with phase := .done })
  | sent (running : call.phase = .running) (redis : Redis)
      (undrawn : Undrawn redis (s.nextId + 1))
      (keeps : s.taskKeeps index call event =
        decide (s.dispatched call.message call.task.userId = 0)) :
      Worked s index call event
        { s.putTask index { call with phase := .dispatched s.nextId } with
          redis
          nextId := s.nextId + 1
          dispatches := call.notification s.nextId :: s.dispatches }
  | committed (notifId : Nat) (pending : call.phase = .dispatched notifId)
      (keeps : s.taskKeeps index call event = true) :
      Worked s index call event
        { s.putTask index { call with phase := .returned } with
          notifications := call.notification notifId :: s.notifications }
  | finished (returned : call.phase = .returned)
      (keeps : s.taskKeeps index call event = true) :
      Worked s index call event (s.putTask index { call with phase := .done })

theorem start_worked (undrawn : Undrawn s.redis s.nextId) {eta : Option Int} {now : Int}
    {inRoom redisOk : Bool} (waiting : call.phase = .waiting eta)
    (due : eta.all (· ≤ now) = true) :
    Worked s index call (.start now inRoom redisOk)
      (s.start index call now inRoom redisOk) := by
  have pending : call.phase.open = true := by rw [waiting]; rfl
  unfold start
  split
  · rename_i failed
    refine .stays { call with phase := .abandoned } s.redis s.nextId ⟨rfl, rfl⟩ rfl undrawn ?_
    rw [taskKeeps, endsOnOwnKey, waiting, failed.2]
    cases call.task.gate.pass s.redis now inRoom call.message with
    | error holder => simp
    | ok redis => rfl
  · rename_i available
    cases passed : call.task.gate.pass s.redis now inRoom call.message with
    | ok redis =>
        refine .stays { call with phase := .running } redis s.nextId ⟨rfl, rfl⟩ rfl ?_ ?_
        · intro notifId le
          rw [entries_pass passed]
          exact undrawn notifId le
        · simp only [taskKeeps, endsOnOwnKey, waiting, passed, Bool.not_false, Bool.true_or]
    | error holder =>
        have asked : redisOk = true := by
          by_contra failed
          apply available
          refine ⟨?_, by simpa using failed⟩
          intro free
          rw [free] at passed
          cases passed
        dsimp only
        by_cases own : holder = call.message
        · rw [if_pos own]
          refine .ended pending ?_
          simp only [taskKeeps, endsOnOwnKey, waiting, passed, due, asked, own, decide_true,
            Bool.and_self, Bool.not_true, Bool.false_or]
        · rw [if_neg own]
          refine .stays { call with phase := .suppressed } s.redis s.nextId ⟨rfl, rfl⟩ rfl undrawn ?_
          simp only [taskKeeps, endsOnOwnKey, waiting, passed, own, decide_false, Bool.and_false,
            Bool.not_false, Bool.true_or]

theorem dispatch_worked (undrawn : Undrawn s.redis s.nextId) {now : Int}
    {outcome : DispatchOutcome} (running : call.phase = .running) :
    Worked s index call (.dispatch now outcome) (s.dispatch index call now outcome) := by
  have retried : outcome ≠ .sent → s.taskKeeps index call (.dispatch now outcome) = true := by
    intro failed
    simp [taskKeeps, failed]
  cases outcome with
  | unflushed =>
      exact .stays (call.retry now) s.redis (s.nextId + 1) (retry_continues call now)
        (retry_open call now) undrawn.later (retried (by simp))
  | unsent =>
      rw [dispatch, setnx_dispatch undrawn]
      exact .stays (call.retry now) _ (s.nextId + 1) (retry_continues call now)
        (retry_open call now) (undrawn.setEx _ _ _) (retried (by simp))
  | sent =>
      rw [dispatch, setnx_dispatch undrawn]
      refine .sent running _ (undrawn.setEx _ _ _) ?_
      simp [taskKeeps, running]

theorem work_worked (undrawn : Undrawn s.redis s.nextId) (event : TaskEvent) :
    Worked s index call event (s.work index call event) := by
  cases event with
  | start now inRoom redisOk =>
      have idle : (∀ eta, call.phase = .waiting eta → eta.all (· ≤ now) = false) →
          s.taskKeeps index call (.start now inRoom redisOk) = true := by
        intro early
        simp only [taskKeeps, endsOnOwnKey]
        split
        · rename_i eta holder waiting passed
          rw [early eta waiting]
          rfl
        · rfl
      simp only [work]
      split
      · rename_i eta waiting
        split
        · rename_i due
          exact start_worked undrawn waiting due
        · rename_i early
          apply Worked.idle
          apply idle
          intro other same
          obtain rfl := TaskPhase.waiting.inj (waiting.symm.trans same)
          simpa using early
      · rename_i other
        exact .idle (idle fun eta waiting => absurd waiting (other eta))
  | dispatch now outcome =>
      simp only [work]
      split
      · rename_i running
        exact dispatch_worked undrawn running
      · rename_i other
        have apart : call.phase ≠ .running := other
        apply Worked.idle
        simp [taskKeeps, apart]
  | commit now ok =>
      simp only [work]
      split
      · rename_i notifId sent
        cases ok with
        | true => exact .committed notifId sent rfl
        | false =>
            exact .stays (call.retry now) s.redis s.nextId (retry_continues call now)
              (retry_open call now) undrawn rfl
      · exact .idle rfl
  | finish =>
      simp only [work]
      split
      · rename_i returned
        exact .finished returned rfl
      · exact .idle rfl
  | lost =>
      simp only [work]
      split
      · exact .stays { call with phase := .waiting none } s.redis s.nextId ⟨rfl, rfl⟩ rfl undrawn rfl
      · exact .stays { call with phase := .waiting none } s.redis s.nextId ⟨rfl, rfl⟩ rfl undrawn rfl
      · exact .stays { call with phase := .waiting none } s.redis s.nextId ⟨rfl, rfl⟩ rfl undrawn rfl
      · exact .idle rfl

end NotifState

end ColabPlatform.Notifications
