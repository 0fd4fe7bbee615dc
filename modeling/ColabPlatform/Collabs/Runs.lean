import ColabPlatform.Collabs.Model
import ColabPlatform.Common.Auth
import ColabPlatform.Foundation.Interleaving
import ColabPlatform.Foundation.Run

/-!
# Collab service: runs

Requests, sockets, consumed events and tasks are calls that take their steps in any
order.  A call loads, then flushes a change, commits it and announces it.  From its
flush to its commit a change of the row is held back from all others.
-/

namespace ColabPlatform.Collabs

open Foundation
open Billing (Uuid Timestamp)

structure CollabSettings where
  nudgeDays : Nat := 14
  archiveDays : Nat := 30
  deriving DecidableEq, Repr

inductive Operation where
  | request (profileId : Uuid) (request : Request)
  /-- a socket of the whiteboard -/
  | whiteboard (profileId : Uuid)
  /-- `block.created` -/
  | applyBlock
  /-- `chat.message.sent` -/
  | updateLastActivity (activityAt : Timestamp)
  | inactivityCheck
  | task (task : CollabTask)
  deriving DecidableEq, Repr

/-- What a call does once its change is committed. -/
inductive Notice where
  | publish (event : CollabEvent)
  | enqueue (task : CollabTask)
  deriving DecidableEq, Repr

inductive Failure where
  | http (error : HttpError)
  | database
  /-- raised by `.delay(...)` -/
  | broker
  /-- the close code of a socket -/
  | closed (code : Nat)
  deriving DecidableEq, Repr

/-- What a call does next. -/
inductive Phase where
  | load
  | flush (change : Change) (notices : List Notice)
  | commit (change : Change) (notices : List Notice)
  | announce (notices : List Notice)
  /-- an open socket -/
  | receive
  | append (op : WhiteboardOp)
  | done (result : Except Failure Unit)

/-- What the database, the broker and the client do in a step. -/
structure Outside where
  db : Bool := true
  broker : Bool := true
  /-- the id that the database draws -/
  id : Uuid := ⟨"drawn"⟩
  /-- the next frame of a socket with the number that its room gives to it -/
  frame : Option (Nat × List UInt8) := none
  deriving DecidableEq, Repr

/-! ## Loading -/

section

variable (outside : Outside) (w : CollabWorld) (profileId : Uuid)

/-- The change of a request, and what it announces. -/
def Request.load : Request → Except HttpError (Change × List Notice)
  | .patch title description => do
      let collab ← w.participantCollab profileId
      checkWritable collab
      return (.patch collab (collab.patch title description), [])
  | .transitionStatus newStatus note => do
      let collab ← w.participantCollab profileId
      checkWritable collab
      validateTransition collab.status newStatus
      return (.transition collab (collab.transition newStatus w.now)
          ⟨outside.id, profileId, collab.status, newStatus, note⟩,
        .publish (.statusChanged collab.status newStatus profileId) ::
          if newStatus.isTerminal then [.enqueue (.archiveFinalize newStatus.text)] else [])
  | .createTask body => do
      let _ ← w.participantCollab profileId
      return (.addTask (newTask outside.id profileId body),
        [.publish (.taskCreated outside.id body.title profileId)])
  | .rebalanceTasks => do
      let _ ← w.participantCollab profileId
      let pairs := w.rebalanced
      return (.setTasks pairs, [.publish (.tasksRebalanced pairs.length)])
  | .patchTask taskId body => do
      let task ← w.participantTask profileId taskId
      let (set, prevStatus) := task.patch body w.now
      return (.setTasks [(task, set)],
        prevStatus.toList.map (fun prevStatus =>
          .publish (.taskStatusChanged task.id set.title profileId prevStatus set.status)) ++
        (body.assigneeProfileId.getD none).toList.map fun assignee =>
          .publish (.taskAssigned task.id set.title profileId assignee))
  | .deleteTask taskId => do
      let task ← w.participantTask profileId taskId
      return (.setTasks [(task, { task with deletedAt := some w.now })],
        [.publish (.taskDeleted task.id task.title profileId)])
  | .createComment taskId body => do
      let task ← w.participantTask profileId taskId
      return (.addComment ⟨outside.id, task.id, profileId, body⟩, [])

/-- `whiteboard_ws_endpoint` up to the accepted socket -/
def openSocket : Phase :=
  match w.getCollab profileId with
  | none => .done (.error (.closed 4004))
  | some collab => if collab.isReadOnly then .done (.error (.closed 4009)) else .receive

end

/-- `_inactivity_check_async` for a collaboration: the task that it dispatches. -/
def CollabWorld.inactivityCheck (settings : CollabSettings) (w : CollabWorld) : List Notice :=
  let nudgeThreshold := w.now - days settings.nudgeDays
  let archiveThreshold := w.now - days settings.archiveDays
  let row := w.row
  if row.status.isTerminal = false ∧ row.archivedAt = none ∧
      (row.lastActivityAt < nudgeThreshold ∧ row.nudgeSentAt = none ∨
        row.lastActivityAt < archiveThreshold) then
    if row.lastActivityAt < archiveThreshold then [.enqueue .archiveCollab]
    else [.enqueue .sendNudge]
  else []

/-- A task up to its update. -/
def CollabTask.load (w : CollabWorld) : CollabTask → Phase
  | .archiveCollab =>
      .flush (.archiveCollab w.now) [.publish (.archived "inactivity_30d" w.now)]
  | .archiveFinalize reason =>
      .flush (.archiveFinalize w.now) (.publish (.archived reason w.now) ::
        if reason ∈ ["completed", "didnt_work_out"] then
          [.publish (.feedbackPromptDue w.row.profileIdA w.row.profileIdB)]
        else [])
  | .sendNudge =>
      if w.row.nudgeSentAt = none ∧ w.row.archivedAt = none then
        .flush (.nudge w.now) [.publish (.nudgeDue w.row.profileIdA w.row.profileIdB)]
      else .done (.ok ())

/-- What an operation does first. -/
def Operation.load (settings : CollabSettings) (outside : Outside) (w : CollabWorld) :
    Operation → Phase
  | .request profileId asked =>
      match asked.validate.bind fun _ => asked.load outside w profileId with
      | .ok (change, notices) => .flush change notices
      | .error error => .done (.error (.http error))
  | .whiteboard profileId => openSocket w profileId
  | .applyBlock => .flush (.block (w.now + days 30)) []
  | .updateLastActivity activityAt => .flush (.activity activityAt) []
  | .inactivityCheck => .announce (w.inactivityCheck settings)
  | .task queued => queued.load w

/-! ## What loading tells -/

theorem participantCollab_eq_ok {w : CollabWorld} {profileId : Uuid} {collab : Collaboration}
    (h : w.participantCollab profileId = .ok collab) : collab = w.row := by
  unfold CollabWorld.participantCollab CollabWorld.getCollab at h
  split at h
  · rename_i found
    split at found
    · cases h
      exact (Option.some.inj found).symm
    · cases found
  · cases h

/-- The row that the patch and the transition go on with. -/
def Collaboration.frozen (collab : Collaboration) : Bool :=
  collab.isReadOnly || collab.archivedAt.isSome

theorem checkWritable_eq_ok {collab : Collaboration} {passed : Unit}
    (h : checkWritable collab = .ok passed) : collab.frozen = false := by
  unfold checkWritable at h
  split at h
  · cases h
  · split at h
    · cases h
    · rename_i readable stored
      simp [Collaboration.frozen, readable, stored]

theorem validateTransition_eq_ok {status status' : CollabStatus} {passed : Unit}
    (h : validateTransition status status' = .ok passed) : status' ∈ status.transitionMap := by
  unfold validateTransition at h
  split at h
  · assumption
  · cases h

/-- The notice tells that the collaboration is archived, or has it archived. -/
def Notice.archiving : Notice → Bool
  | .publish (.archived _ _) | .enqueue .archiveCollab => true
  | _ => false

/-- What a request may announce. -/
def Notice.ofRequest : Notice → Bool
  | .publish (.archived _ _) | .publish (.feedbackPromptDue _ _) | .publish (.nudgeDue _ _) => false
  | .publish _ | .enqueue (.archiveFinalize _) => true
  | .enqueue _ => false

theorem Notice.archiving_of_ofRequest {notice : Notice} (h : notice.ofRequest = true) :
    notice.archiving = false := by
  cases notice with
  | publish event =>
      cases event with
      | archived => cases h
      | _ => rfl
  | enqueue task =>
      cases task with
      | archiveCollab => cases h
      | _ => rfl

/-- The requests that check neither flag of the row. -/
def Request.unchecked : Request → Bool
  | .patch _ _ | .transitionStatus _ _ => false
  | _ => true

/-- What a request may load. -/
inductive Request.Loads (w : CollabWorld) : Request → Change → Prop where
  | patch (title description : Option String) (writable : w.row.frozen = false) :
      Loads w (.patch title description) (.patch w.row (w.row.patch title description))
  | transition (event : CollabStatusEvent) (writable : w.row.frozen = false)
      (prev : event.prevStatus = w.row.status)
      (allowed : event.newStatus ∈ w.row.status.transitionMap) :
      Loads w (.transitionStatus event.newStatus event.note)
        (.transition w.row (w.row.transition event.newStatus w.now) event)
  | task {asked : Request} {change : Change} (unchecked : asked.unchecked = true)
      (free : change.locksRow = false) : Loads w asked change

theorem Request.load_loads {outside : Outside} {w : CollabWorld} {profileId : Uuid}
    {asked : Request} {change : Change} {notices : List Notice}
    (h : asked.load outside w profileId = .ok (change, notices)) :
    Loads w asked change ∧ ∀ notice ∈ notices, notice.ofRequest = true := by
  cases asked with
  | patch title description =>
      simp only [Request.load, Common.bind_eq_ok] at h
      obtain ⟨collab, found, passed, writable, same⟩ := h
      obtain rfl := participantCollab_eq_ok found
      cases same
      exact ⟨.patch title description (checkWritable_eq_ok writable), by simp⟩
  | transitionStatus newStatus note =>
      simp only [Request.load, Common.bind_eq_ok] at h
      obtain ⟨collab, found, passed, writable, passed', valid, same⟩ := h
      obtain rfl := participantCollab_eq_ok found
      cases same
      refine ⟨.transition ⟨_, _, _, newStatus, note⟩ (checkWritable_eq_ok writable) rfl
        (validateTransition_eq_ok valid), ?_⟩
      cases newStatus <;> simp [Notice.ofRequest, CollabStatus.isTerminal]
  | createTask body =>
      simp only [Request.load, Common.bind_eq_ok] at h
      obtain ⟨collab, -, same⟩ := h
      cases same
      exact ⟨.task rfl rfl, by simp [Notice.ofRequest]⟩
  | rebalanceTasks =>
      simp only [Request.load, Common.bind_eq_ok] at h
      obtain ⟨collab, -, same⟩ := h
      cases same
      exact ⟨.task rfl rfl, by simp [Notice.ofRequest]⟩
  | patchTask taskId body =>
      simp only [Request.load, Common.bind_eq_ok] at h
      obtain ⟨task, -, same⟩ := h
      cases same
      refine ⟨.task rfl rfl, fun notice mem => ?_⟩
      simp only [List.mem_append, List.mem_map] at mem
      rcases mem with ⟨status, -, rfl⟩ | ⟨assignee, -, rfl⟩
      · rfl
      · rfl
  | deleteTask taskId =>
      simp only [Request.load, Common.bind_eq_ok] at h
      obtain ⟨task, -, same⟩ := h
      cases same
      exact ⟨.task rfl rfl, by simp [Notice.ofRequest]⟩
  | createComment taskId body =>
      simp only [Request.load, Common.bind_eq_ok] at h
      obtain ⟨task, -, same⟩ := h
      cases same
      exact ⟨.task rfl rfl, by simp⟩

/-! ## Steps -/

section

variable (settings : CollabSettings) (outside : Outside) (held : Bool) (operation : Operation)

/-- One step of a call; `held` when another one holds the row of the collaboration. -/
def callStep : Phase → CollabWorld → Phase × CollabWorld
  | .load, w =>
      if outside.db then (operation.load settings outside w, w)
      else (.done (.error .database), w)
  | .flush change notices, w =>
      if held && change.locksRow then (.flush change notices, w)
      else if outside.db then (.commit change notices, w)
      else (.done (.error .database), w)
  | .commit change notices, w =>
      if outside.db then (.announce notices, change.apply w) else (.done (.error .database), w)
  | .announce [], w => (.done (.ok ()), w)
  | .announce (.publish event :: notices), w =>
      -- `emit_event` logs its failures
      (.announce notices,
        if outside.broker then { w with published := w.published ++ [event] } else w)
  | .announce (.enqueue task :: notices), w =>
      if outside.broker then (.announce notices, { w with queue := w.queue ++ [task] })
      else (.done (.error .broker), w)
  | .receive, w =>
      match outside.frame, operation with
      | some (lamport, opData), .whiteboard profileId => (.append ⟨lamport, profileId, opData⟩, w)
      | _, _ => (.done (.ok ()), w)
  | .append op, w =>
      -- an operation that is not stored is logged
      (.receive, if outside.db then { w with ops := w.ops ++ [op] } else w)
  | .done result, w => (.done result, w)

/-- How a step may change the world. -/
inductive Moved (w : CollabWorld) : Phase → CollabWorld → Prop where
  | same (phase : Phase) : Moved w phase w
  | committed (change : Change) (notices : List Notice) :
      Moved w (.commit change notices) (change.apply w)
  | published (event : CollabEvent) (notices : List Notice) :
      Moved w (.announce (.publish event :: notices))
        { w with published := w.published ++ [event] }
  | enqueued (task : CollabTask) (notices : List Notice) :
      Moved w (.announce (.enqueue task :: notices)) { w with queue := w.queue ++ [task] }
  | appended (op : WhiteboardOp) : Moved w (.append op) { w with ops := w.ops ++ [op] }

theorem callStep_moved (phase : Phase) (w : CollabWorld) :
    Moved w phase (callStep settings outside held operation phase w).2 := by
  cases phase with
  | load | flush | receive =>
      simp only [callStep]
      repeat' split
      all_goals exact .same _
  | commit change notices =>
      simp only [callStep]
      split
      · exact .committed change notices
      · exact .same _
  | announce notices =>
      match notices with
      | [] => exact .same _
      | .publish event :: notices =>
          simp only [callStep]
          split
          · exact .published event notices
          · exact .same _
      | .enqueue task :: notices =>
          simp only [callStep]
          split
          · exact .enqueued task notices
          · exact .same _
  | append op =>
      simp only [callStep]
      split
      · exact .appended op
      · exact .same _
  | done result => exact .same _

end

/-! ## Runs -/

structure Calling where
  operation : Operation
  phase : Phase := .load

structure CollabState where
  world : CollabWorld
  calls : List Calling

inductive Event where
  /-- a request, a socket, a message of the broker or a scan -/
  | begin (operation : Operation)
  /-- a worker takes a task, which may be delivered again later -/
  | deliver (index : Nat) (again : Bool)
  | advance (index : Nat) (outside : Outside)
  | tick (time : Nat)

/-- The call has updated the row and not yet committed. -/
def Phase.holdsRow : Phase → Bool
  | .commit change _ => change.locksRow
  | _ => false

namespace CollabState

/-- `create_collaboration` of the pair -/
def created (id profileIdA profileIdB : Uuid) (now : Timestamp) : CollabState where
  world :=
    { now
      row :=
        { id, profileIdA, profileIdB
          title := none
          description := none
          status := .stillDeciding
          isReadOnly := false
          lastActivityAt := now
          nudgeSentAt := none
          archiveAt := none
          archivedAt := none
          completedAt := none }
      events := []
      tasks := []
      comments := []
      ops := []
      queue := []
      published := [] }
  calls := []

def held (s : CollabState) : Bool := s.calls.any fun call => call.phase.holdsRow

def step (settings : CollabSettings) (s : CollabState) : Event → CollabState
  | .begin (.task _) => s
  | .begin operation => { s with calls := s.calls ++ [{ operation }] }
  | .deliver index again =>
      match s.world.queue[index]? with
      | some task =>
          { world :=
              if again then s.world else { s.world with queue := s.world.queue.eraseIdx index }
            calls := s.calls ++ [{ operation := .task task }] }
      | none => s
  | .advance index outside =>
      match s.calls[index]? with
      | some call =>
          let after := callStep settings outside s.held call.operation call.phase s.world
          { world := after.2, calls := s.calls.set index { call with phase := after.1 } }
      | none => s
  | .tick time => { s with world := { s.world with now := s.world.now + time } }

/-- What a step may do: a call goes on, or nothing happens but that one more begins. -/
inductive Stepped (settings : CollabSettings) (s : CollabState) : Event → CollabState → Prop where
  | quiet {e : Event} {s' : CollabState} (row_eq : s'.world.row = s.world.row)
      (now_le : s.world.now ≤ s'.world.now) (published_eq : s'.world.published = s.world.published)
      (calls : s'.calls = s.calls ∨ ∃ operation, s'.calls = s.calls ++ [⟨operation, .load⟩]) :
      Stepped settings s e s'
  | advance {index : Nat} {call : Calling} (outside : Outside)
      (found : s.calls[index]? = some call) :
      Stepped settings s (.advance index outside)
        { world := (callStep settings outside s.held call.operation call.phase s.world).2
          calls := s.calls.set index
            { call with
              phase := (callStep settings outside s.held call.operation call.phase s.world).1 } }

theorem step_stepped (settings : CollabSettings) (s : CollabState) (e : Event) :
    s.Stepped settings e (s.step settings e) := by
  cases e with
  | begin operation =>
      cases operation with
      | task => exact .quiet rfl (Int.le_refl _) rfl (Or.inl rfl)
      | _ => exact .quiet rfl (Int.le_refl _) rfl (Or.inr ⟨_, rfl⟩)
  | deliver index again =>
      simp only [step]
      split
      · refine .quiet ?_ ?_ ?_ (Or.inr ⟨_, rfl⟩)
        all_goals split
        all_goals rfl
      · exact .quiet rfl (Int.le_refl _) rfl (Or.inl rfl)
  | advance index outside =>
      simp only [step]
      cases found : s.calls[index]? with
      | none => exact .quiet rfl (Int.le_refl _) rfl (Or.inl rfl)
      | some call => exact .advance outside found
  | tick time =>
      exact .quiet rfl (Int.le_add_of_nonneg_right (Int.natCast_nonneg time)) rfl (Or.inl rfl)

/-- The state after the events of a run. -/
def run (settings : CollabSettings) (s : CollabState) (events : List Event) : CollabState :=
  runFrom (step settings) s events

end CollabState

/-! ## Participants of the examples -/

def anna : Uuid := ⟨"anna"⟩

def ben : Uuid := ⟨"ben"⟩

/-- A new collaboration of `anna` and `ben`. -/
def duet : CollabState := .created ⟨"collab"⟩ anna ben 0

end ColabPlatform.Collabs
