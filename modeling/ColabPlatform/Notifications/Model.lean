import ColabPlatform.Foundation.Interleaving
import ColabPlatform.Foundation.KeyStore
import ColabPlatform.Foundation.Run
import Mathlib.Algebra.Group.Int.Defs

/-!
# Notification service

The messages of the exchange `colab.events`, the tasks that the consumer makes of them, and
what the workers do with a task: the keys in Redis, the rows of `notification` and the
notifications that are dispatched.  The consumer and the workers are followed from one call
to another service to the next.
-/

namespace ColabPlatform.Notifications

open Foundation

inductive NotificationType where
  | newMatch
  | newRequest
  | requestAccepted
  | chatMessage
  | fileShared
  | aiMockupReady
  | collabNudge
  | collabStatusChange
  | weeklyDigest
  | supportReply
  | marketing
  deriving DecidableEq, Repr

/-! ## Tasks -/

inductive TaskKey where
  /-- `notif:idem:new_match:` -/
  | newMatch (matchId userId : String)
  /-- `notif:idem:nudge:` -/
  | nudge (collabId nudgeCycleDate userId : String)
  /-- `notif:debounce:chat:` -/
  | debounce (userId collabId : String)
  deriving DecidableEq, Repr

inductive RedisKey where
  | task (key : TaskKey)
  /-- `notif:dispatch:` -/
  | dispatch (notifId : Nat)
  deriving DecidableEq, Repr

/-- What a task asks Redis before its work. -/
inductive Gate where
  | free
  | idempotency (key : TaskKey) (ttl : Int)
  /-- only while the user is in the room -/
  | debounce (key : TaskKey) (ttl : Int)
  deriving DecidableEq, Repr

structure NotifTask where
  notifType : NotificationType
  userId : String
  gate : Gate := .free
  deriving DecidableEq, Repr

def taskNewMatch (userId matchId : String) : NotifTask :=
  ⟨.newMatch, userId, .idempotency (.newMatch matchId userId) 30⟩

def taskNewRequest (userId : String) : NotifTask := { notifType := .newRequest, userId }

def taskRequestAccepted (userId : String) : NotifTask :=
  { notifType := .requestAccepted, userId }

def taskChatMessage (userId collabId : String) : NotifTask :=
  ⟨.chatMessage, userId, .debounce (.debounce userId collabId) 60⟩

def taskFileShared (userId : String) : NotifTask := { notifType := .fileShared, userId }

def taskAiMockupReady (userId : String) : NotifTask := { notifType := .aiMockupReady, userId }

def taskCollabNudge (userId collabId nudgeCycleDate : String) : NotifTask :=
  ⟨.collabNudge, userId, .idempotency (.nudge collabId nudgeCycleDate userId) 172800⟩

def taskCollabStatusChange (userId : String) : NotifTask :=
  { notifType := .collabStatusChange, userId }

def taskSupportReply (userId : String) : NotifTask := { notifType := .supportReply, userId }

/-! ## Events -/

/-- The events that the queue is bound to, with what decides about their tasks. -/
inductive NotifEvent where
  | matchCreated (matchId userIdA userIdB : String)
  | inviteSent (recipientUserId : String)
  | inviteAccepted (senderUserId : String)
  | chatMessageSent (collabId recipientUserId : String)
  | chatFileSent (recipientUserId : String)
  | aiMockupGenerated (userIdA userIdB : String)
  | collabNudgeDue (collabId userIdA userIdB nudgeCycleDate : String)
  | collabStatusUpdated (otherUserId : String)
  | supportTicketReplied (userId : String)
  | marketingBroadcast
  | userCreated (userId : String)
  | unknown (routingKey : String)
  deriving DecidableEq, Repr

/-- `_route`: the tasks that are queued for an event, one after the other. -/
def route : NotifEvent → List NotifTask
  | .matchCreated matchId userIdA userIdB =>
      [taskNewMatch userIdA matchId, taskNewMatch userIdB matchId]
  | .inviteSent recipientUserId => [taskNewRequest recipientUserId]
  | .inviteAccepted senderUserId => [taskRequestAccepted senderUserId]
  | .chatMessageSent collabId recipientUserId => [taskChatMessage recipientUserId collabId]
  | .chatFileSent recipientUserId => [taskFileShared recipientUserId]
  | .aiMockupGenerated userIdA userIdB => [taskAiMockupReady userIdA, taskAiMockupReady userIdB]
  | .collabNudgeDue collabId userIdA userIdB nudgeCycleDate =>
      [taskCollabNudge userIdA collabId nudgeCycleDate,
        taskCollabNudge userIdB collabId nudgeCycleDate]
  | .collabStatusUpdated otherUserId => [taskCollabStatusChange otherUserId]
  | .supportTicketReplied userId => [taskSupportReply userId]
  | .marketingBroadcast | .userCreated _ | .unknown _ => []

/-! ## State -/

inductive MessagePhase where
  | queued
  /-- the handler has these tasks still to queue -/
  | routing (rest : List NotifTask)
  | acked
  deriving DecidableEq, Repr

structure Message where
  event : NotifEvent
  phase : MessagePhase
  deriving DecidableEq, Repr

inductive TaskPhase where
  /-- with the time of the next attempt, for a retry -/
  | waiting (eta : Option Int)
  | running
  /-- the dispatch is over, and the session is not committed -/
  | dispatched (notifId : Nat)
  /-- the session is committed, and the task is not acknowledged -/
  | returned
  | done
  /-- a key that was set for another message has ended the task -/
  | suppressed
  /-- no retry is left, or Redis has failed where nothing is retried -/
  | abandoned
  deriving DecidableEq, Repr

/-- A task in Celery, with the message that it was queued for. -/
structure TaskCall where
  message : Nat
  task : NotifTask
  retries : Nat
  phase : TaskPhase
  deriving DecidableEq, Repr

/-- A row, or a dispatch, with the message and the recipient that it is for. -/
structure Notification where
  id : Nat
  message : Nat
  userId : String
  notifType : NotificationType
  deriving DecidableEq, Repr

/-- The source stores 1 under every key; the model remembers for which message. -/
abbrev Redis := KeyStore RedisKey Nat

structure NotifState where
  redis : Redis
  messages : List Message
  tasks : List TaskCall
  /-- the ids below are drawn -/
  nextId : Nat
  notifications : List Notification
  dispatches : List Notification

def NotifState.empty : NotifState := ⟨.empty, [], [], 0, [], []⟩

/-! ## Steps -/

inductive MessageEvent where
  | deliver
  | enqueue
  | ack
  /-- the handler raises, or its connection is lost -/
  | requeue
  deriving DecidableEq, Repr

inductive DispatchOutcome where
  /-- the row is not flushed, or Redis cannot be asked -/
  | unflushed
  /-- a channel raises -/
  | unsent
  | sent
  deriving DecidableEq, Repr

inductive TaskEvent where
  | start (now : Int) (inRoom : Bool := false) (redisOk : Bool := true)
  | dispatch (now : Int) (outcome : DispatchOutcome := .sent)
  | commit (now : Int) (ok : Bool := true)
  | finish
  /-- the worker is lost, and the broker delivers the task again -/
  | lost
  deriving DecidableEq, Repr

inductive NotifStep where
  | publish (event : NotifEvent)
  | message (index : Nat) (event : MessageEvent)
  | task (index : Nat) (event : TaskEvent)
  deriving DecidableEq, Repr

/-- `_idempotency_setnx`: the message for which the key is there, or the key is set. -/
def idempotencySetnx (redis : Redis) (now : Int) (key : RedisKey) (ttl : Int) (message : Nat) :
    Except Nat Redis :=
  match redis.get now key with
  | some holder => .error holder
  | none => .ok (redis.setEx now ttl key message)

def Gate.pass (redis : Redis) (now : Int) (inRoom : Bool) (message : Nat) :
    Gate → Except Nat Redis
  | .free => .ok redis
  | .idempotency key ttl => idempotencySetnx redis now (.task key) ttl message
  | .debounce key ttl =>
      if inRoom then idempotencySetnx redis now (.task key) ttl message else .ok redis

def maxRetries : Nat := 3

/-- `self.retry(exc=exc, countdown=2 ** self.request.retries)` -/
def TaskCall.retry (call : TaskCall) (now : Int) : TaskCall :=
  if call.retries < maxRetries then
    { call with retries := call.retries + 1, phase := .waiting (some (now + 2 ^ call.retries)) }
  else { call with phase := .abandoned }

def TaskCall.notification (call : TaskCall) (notifId : Nat) : Notification :=
  ⟨notifId, call.message, call.task.userId, call.task.notifType⟩

namespace NotifState

def putMessage (s : NotifState) (index : Nat) (message : Message) : NotifState :=
  { s with messages := s.messages.set index message }

def putTask (s : NotifState) (index : Nat) (call : TaskCall) : NotifState :=
  { s with tasks := s.tasks.set index call }

/-- `handle_message` -/
def handle (s : NotifState) (index : Nat) (message : Message) : MessageEvent → NotifState
  | .deliver =>
      match message.phase with
      | .queued => s.putMessage index { message with phase := .routing (route message.event) }
      | _ => s
  | .enqueue =>
      match message.phase with
      | .routing (task :: rest) =>
          { s.putMessage index { message with phase := .routing rest } with
            tasks := s.tasks ++ [⟨index, task, 0, .waiting none⟩] }
      | _ => s
  | .ack =>
      match message.phase with
      | .routing [] => s.putMessage index { message with phase := .acked }
      | _ => s
  | .requeue =>
      match message.phase with
      | .routing _ => s.putMessage index { message with phase := .queued }
      | _ => s

/-- An attempt begins; an error of Redis is raised outside of the `try`. -/
def start (s : NotifState) (index : Nat) (call : TaskCall) (now : Int) (inRoom redisOk : Bool) :
    NotifState :=
  if call.task.gate ≠ .free ∧ redisOk = false then
    s.putTask index { call with phase := .abandoned }
  else
    match call.task.gate.pass s.redis now inRoom call.message with
    | .error holder =>
        s.putTask index
          { call with phase := if holder = call.message then .done else .suppressed }
    | .ok redis => { s.putTask index { call with phase := .running } with redis }

/-- `_create_and_dispatch` up to the commit; the id is drawn when the row is flushed. -/
def dispatch (s : NotifState) (index : Nat) (call : TaskCall) (now : Int)
    (outcome : DispatchOutcome) : NotifState :=
  let notifId := s.nextId
  let sent := { call with phase := .dispatched notifId }
  match outcome with
  | .unflushed => { s.putTask index (call.retry now) with nextId := notifId + 1 }
  | .unsent | .sent =>
      -- `_idempotency_check`
      match idempotencySetnx s.redis now (.dispatch notifId) 86400 call.message with
      | .error _ => { s.putTask index sent with nextId := notifId + 1 }
      | .ok redis =>
          if outcome = .sent then
            { s.putTask index sent with
              redis
              nextId := notifId + 1
              dispatches := call.notification notifId :: s.dispatches }
          else { s.putTask index (call.retry now) with redis, nextId := notifId + 1 }

def commit (s : NotifState) (index : Nat) (call : TaskCall) (notifId : Nat) (now : Int)
    (ok : Bool) : NotifState :=
  if ok then
    { s.putTask index { call with phase := .returned } with
      notifications := call.notification notifId :: s.notifications }
  else s.putTask index (call.retry now)

def work (s : NotifState) (index : Nat) (call : TaskCall) : TaskEvent → NotifState
  | .start now inRoom redisOk =>
      match call.phase with
      | .waiting eta =>
          if eta.all (· ≤ now) then s.start index call now inRoom redisOk else s
      | _ => s
  | .dispatch now outcome =>
      match call.phase with
      | .running => s.dispatch index call now outcome
      | _ => s
  | .commit now ok =>
      match call.phase with
      | .dispatched notifId => s.commit index call notifId now ok
      | _ => s
  | .finish =>
      match call.phase with
      | .returned => s.putTask index { call with phase := .done }
      | _ => s
  | .lost =>
      match call.phase with
      | .running | .dispatched _ | .returned =>
          s.putTask index { call with phase := .waiting none }
      | _ => s

def step (s : NotifState) : NotifStep → NotifState
  | .publish event => { s with messages := s.messages ++ [⟨event, .queued⟩] }
  | .message index event =>
      match s.messages[index]? with
      | some message => s.handle index message event
      | none => s
  | .task index event =>
      match s.tasks[index]? with
      | some call => s.work index call event
      | none => s

def run (events : List NotifStep) : NotifState := runFrom step .empty events

end NotifState

end ColabPlatform.Notifications
