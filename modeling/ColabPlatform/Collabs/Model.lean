import ColabPlatform.Billing.Model
import ColabPlatform.Moderation.Cases
import Mathlib.Data.List.Sort

/-!
# Collab service: rows and requests

A collaboration with its tasks, comments and whiteboard operations, what a request
reads and checks, and the change that it leads to.  Every statement selects the
collaboration by its id or by the pair of its participants, which is unique, so the
world is that of one collaboration.
-/

namespace ColabPlatform.Collabs

open Billing (Uuid Timestamp)

/-! ## The state machine of the status -/

inductive CollabStatus where
  | stillDeciding
  | inProgress
  | completed
  | didntWorkOut
  deriving DecidableEq, Repr

namespace CollabStatus

def text : CollabStatus → String
  | stillDeciding => "still_deciding"
  | inProgress => "in_progress"
  | completed => "completed"
  | didntWorkOut => "didnt_work_out"

/-- `TRANSITION_MAP` -/
def transitionMap : CollabStatus → List CollabStatus
  | stillDeciding => [inProgress, completed, didntWorkOut]
  | inProgress => [stillDeciding, completed, didntWorkOut]
  | completed => []
  | didntWorkOut => []

/-- `TERMINAL_STATES` -/
def isTerminal (status : CollabStatus) : Bool :=
  status = completed ∨ status = didntWorkOut

theorem transitionMap_of_isTerminal {status : CollabStatus} (terminal : status.isTerminal = true) :
    status.transitionMap = [] := by
  cases status with
  | stillDeciding | inProgress => exact absurd terminal (by decide)
  | completed | didntWorkOut => rfl

theorem ne_of_mem_transitionMap {status status' : CollabStatus}
    (allowed : status' ∈ status.transitionMap) : status' ≠ status := by
  rintro rfl
  cases status' with
  | stillDeciding | inProgress | completed | didntWorkOut => exact absurd allowed (by decide)

end CollabStatus

/-- `str(InvalidTransitionError(from_status, to_status))` -/
def invalidTransition (fromStatus toStatus : CollabStatus) : String :=
  "Transition from '" ++ fromStatus.text ++ "' to '" ++ toStatus.text ++ "' is not allowed."

/-! ## Rows -/

structure Collaboration where
  id : Uuid
  profileIdA : Uuid
  profileIdB : Uuid
  title : Option String
  description : Option String
  status : CollabStatus
  isReadOnly : Bool
  lastActivityAt : Timestamp
  nudgeSentAt : Option Timestamp
  archiveAt : Option Timestamp
  archivedAt : Option Timestamp
  completedAt : Option Timestamp
  deriving DecidableEq, Repr

structure CollabStatusEvent where
  id : Uuid
  actorProfileId : Uuid
  prevStatus : CollabStatus
  newStatus : CollabStatus
  note : Option String
  deriving DecidableEq, Repr

inductive TaskStatus where
  | todo
  | inProgress
  | done
  | blocked
  deriving DecidableEq, Repr

structure Task where
  id : Uuid
  title : String
  description : Option String
  assigneeProfileId : Option Uuid
  dueDate : Option String
  status : TaskStatus
  orderKey : String
  createdBy : Uuid
  closedAt : Option Timestamp
  deletedAt : Option Timestamp
  deriving DecidableEq, Repr

structure TaskComment where
  id : Uuid
  taskId : Uuid
  authorProfileId : Uuid
  body : String
  deriving DecidableEq, Repr

structure WhiteboardOp where
  lamport : Nat
  actorProfileId : Uuid
  opData : List UInt8
  deriving DecidableEq, Repr

/-! ## Events and tasks of the queue -/

inductive CollabEvent where
  | statusChanged (prevStatus newStatus : CollabStatus) (actorProfileId : Uuid)
  | archived (reason : String) (archivedAt : Timestamp)
  | feedbackPromptDue (profileIdA profileIdB : Uuid)
  | nudgeDue (profileIdA profileIdB : Uuid)
  | taskCreated (taskId : Uuid) (title : String) (actorProfileId : Uuid)
  | tasksRebalanced (count : Nat)
  | taskStatusChanged (taskId : Uuid) (title : String) (actorProfileId : Uuid)
      (prevStatus newStatus : TaskStatus)
  | taskAssigned (taskId : Uuid) (title : String) (actorProfileId assigneeProfileId : Uuid)
  | taskDeleted (taskId : Uuid) (title : String) (actorProfileId : Uuid)
  deriving DecidableEq, Repr

inductive CollabTask where
  | archiveCollab
  | archiveFinalize (reason : String)
  | sendNudge
  deriving DecidableEq, Repr

structure CollabWorld where
  now : Timestamp
  row : Collaboration
  /-- in the order of the commits -/
  events : List CollabStatusEvent
  tasks : List Task
  comments : List TaskComment
  ops : List WhiteboardOp
  queue : List CollabTask
  published : List CollabEvent

/-! ## What an update stores -/

/-- An attribute that was set to the value it was loaded with is not written. -/
def written {α : Type} [DecidableEq α] (loaded set stored : α) : α :=
  if set = loaded then stored else set

def Collaboration.flush (loaded set stored : Collaboration) : Collaboration :=
  { stored with
    title := written loaded.title set.title stored.title
    description := written loaded.description set.description stored.description
    status := written loaded.status set.status stored.status
    nudgeSentAt := written loaded.nudgeSentAt set.nudgeSentAt stored.nudgeSentAt
    archiveAt := written loaded.archiveAt set.archiveAt stored.archiveAt
    completedAt := written loaded.completedAt set.completedAt stored.completedAt }

def Task.flush (loaded set stored : Task) : Task :=
  { stored with
    title := written loaded.title set.title stored.title
    description := written loaded.description set.description stored.description
    assigneeProfileId :=
      written loaded.assigneeProfileId set.assigneeProfileId stored.assigneeProfileId
    dueDate := written loaded.dueDate set.dueDate stored.dueDate
    status := written loaded.status set.status stored.status
    orderKey := written loaded.orderKey set.orderKey stored.orderKey
    closedAt := written loaded.closedAt set.closedAt stored.closedAt
    deletedAt := written loaded.deletedAt set.deletedAt stored.deletedAt }

/-- What one transaction changes; the rows that it has loaded come with it. -/
inductive Change where
  /-- `patch_collab` -/
  | patch (loaded set : Collaboration)
  /-- `transition_status` -/
  | transition (loaded set : Collaboration) (event : CollabStatusEvent)
  /-- `apply_block` -/
  | block (archiveAt : Timestamp)
  /-- `update_last_activity` -/
  | activity (activityAt : Timestamp)
  /-- `_archive_collab_async` -/
  | archiveCollab (now : Timestamp)
  /-- `_archive_finalize_async` -/
  | archiveFinalize (now : Timestamp)
  /-- `_send_nudge_async` -/
  | nudge (now : Timestamp)
  | addTask (task : Task)
  /-- the tasks as they were loaded and as they were set -/
  | setTasks (pairs : List (Task × Task))
  | addComment (comment : TaskComment)
  deriving DecidableEq, Repr

def setTask (tasks : List Task) (pair : Task × Task) : List Task :=
  tasks.map fun task => if task.id = pair.1.id then pair.1.flush pair.2 task else task

/-- The row after the update of a change. -/
def Change.setRow (row : Collaboration) : Change → Collaboration
  | .patch loaded set => loaded.flush set row
  | .transition loaded set _ => loaded.flush set row
  | .block archiveAt =>
      if row.archivedAt = none then { row with isReadOnly := true, archiveAt := some archiveAt }
      else row
  | .activity activityAt => { row with lastActivityAt := activityAt, nudgeSentAt := none }
  | .archiveCollab now =>
      if row.archivedAt = none then { row with archivedAt := some now, archiveAt := none } else row
  | .archiveFinalize now => { row with archivedAt := some now, archiveAt := none }
  | .nudge now => if row.nudgeSentAt = none then { row with nudgeSentAt := some now } else row
  | .addTask _ | .setTasks _ | .addComment _ => row

def Change.apply (w : CollabWorld) (change : Change) : CollabWorld :=
  { w with
    row := change.setRow w.row
    events := match change with | .transition _ _ event => w.events ++ [event] | _ => w.events
    tasks :=
      match change with
      | .addTask task => w.tasks ++ [task]
      | .setTasks pairs => pairs.foldl setTask w.tasks
      | _ => w.tasks
    comments :=
      match change with | .addComment comment => w.comments ++ [comment] | _ => w.comments }

theorem Change.lastActivityAt_setRow {change : Change}
    (apart : ∀ activityAt, change ≠ .activity activityAt) (row : Collaboration) :
    (change.setRow row).lastActivityAt = row.lastActivityAt := by
  cases change with
  | patch | transition | archiveFinalize | addTask | setTasks | addComment => rfl
  | activity activityAt => exact absurd rfl (apart activityAt)
  | block | archiveCollab | nudge =>
      simp only [Change.setRow]
      split
      all_goals rfl

/-- The change updates the row of the collaboration, and holds it until its commit. -/
def Change.locksRow : Change → Bool
  | .addTask _ | .setTasks _ | .addComment _ => false
  | _ => true

/-! ## Requests -/

inductive Detail where
  | text (detail : String)
  | code (errorCode : String)
  | message (errorCode message : String)
  deriving DecidableEq, Repr

structure HttpError where
  status : Nat
  detail : Detail
  deriving DecidableEq, Repr

structure TaskCreateRequest where
  title : String
  description : Option String
  assigneeProfileId : Option Uuid
  dueDate : Option String
  orderKey : String
  deriving DecidableEq, Repr

/-- The fields that the body of a patch has set; a null title, status or key is skipped. -/
structure TaskPatchRequest where
  title : Option String := none
  description : Option (Option String) := none
  assigneeProfileId : Option (Option Uuid) := none
  dueDate : Option (Option String) := none
  status : Option TaskStatus := none
  orderKey : Option String := none
  deriving DecidableEq, Repr

inductive Request where
  | patch (title description : Option String)
  | transitionStatus (newStatus : CollabStatus) (note : Option String)
  | createTask (body : TaskCreateRequest)
  | rebalanceTasks
  | patchTask (taskId : Uuid) (body : TaskPatchRequest)
  | deleteTask (taskId : Uuid)
  | createComment (taskId : Uuid) (body : String)
  deriving DecidableEq, Repr

def checkLength (field text : String) (least most : Nat) : Except HttpError Unit :=
  (Moderation.checkLength field text least (some most)).mapError fun error =>
    ⟨error.status, .text error.detail⟩

def checkOptional (field : String) (text : Option String) (least most : Nat) :
    Except HttpError Unit :=
  match text with
  | some text => checkLength field text least most
  | none => .ok ()

/-- The lengths that the schemas of the bodies ask for. -/
def Request.validate : Request → Except HttpError Unit
  | .patch title description => do
      checkOptional "title" title 0 200
      checkOptional "description" description 0 2000
  | .transitionStatus _ note => checkOptional "note" note 0 500
  | .createTask body => do
      checkLength "title" body.title 1 200
      checkOptional "description" body.description 0 2000
      checkLength "order_key" body.orderKey 1 255
  | .patchTask _ body => do
      checkOptional "title" body.title 1 200
      checkOptional "description" (body.description.getD none) 0 2000
      checkOptional "order_key" body.orderKey 1 255
  | .createComment _ body => checkLength "body" body 1 500
  | .rebalanceTasks | .deleteTask _ => .ok ()

/-! ## What a request reads -/

/-- `get_collab` -/
def CollabWorld.getCollab (w : CollabWorld) (profileId : Uuid) : Option Collaboration :=
  if w.row.profileIdA = profileId ∨ w.row.profileIdB = profileId then some w.row else none

/-- `_get_participant_collab` -/
def CollabWorld.participantCollab (w : CollabWorld) (profileId : Uuid) :
    Except HttpError Collaboration :=
  match w.getCollab profileId with
  | some collab => .ok collab
  | none => .error ⟨404, .text "Collaboration not found"⟩

/-- `_get_participant_task` -/
def CollabWorld.participantTask (w : CollabWorld) (profileId taskId : Uuid) :
    Except HttpError Task :=
  match w.tasks.find? fun task => task.id = taskId ∧ task.deletedAt = none with
  | some task =>
      if (w.getCollab profileId).isSome then .ok task
      else .error ⟨403, .text "Not a participant in this collaboration"⟩
  | none => .error ⟨404, .text "Task not found"⟩

/-- What the patch and the transition check of the row they have loaded. -/
def checkWritable (collab : Collaboration) : Except HttpError Unit :=
  if collab.isReadOnly then .error ⟨403, .code "COLLAB_READ_ONLY"⟩
  else if collab.archivedAt.isSome then .error ⟨403, .code "COLLAB_ARCHIVED"⟩
  else .ok ()

/-- `validate_transition` -/
def validateTransition (currentStatus newStatus : CollabStatus) : Except HttpError Unit :=
  if newStatus ∈ currentStatus.transitionMap then .ok ()
  else .error ⟨409, .message "INVALID_TRANSITION" (invalidTransition currentStatus newStatus)⟩

/-! ## What a request sets -/

def days (n : Nat) : Int := n * (24 * 3600 * 1000000)

def Collaboration.patch (collab : Collaboration) (title description : Option String) :
    Collaboration :=
  { collab with
    title := title.orElse fun _ => collab.title
    description := description.orElse fun _ => collab.description }

/-- The side effects of `transition_status` -/
def Collaboration.transition (collab : Collaboration) (newStatus : CollabStatus)
    (now : Timestamp) : Collaboration :=
  match newStatus with
  | .completed =>
      { collab with status := newStatus, archiveAt := some now, completedAt := some now }
  | .didntWorkOut => { collab with status := newStatus, archiveAt := some now }
  | .inProgress | .stillDeciding =>
      { collab with
        status := newStatus
        nudgeSentAt := none
        archiveAt := some (collab.lastActivityAt + days 30) }

/-- `create_task` -/
def newTask (id profileId : Uuid) (body : TaskCreateRequest) : Task where
  id := id
  title := body.title
  description := body.description
  assigneeProfileId := body.assigneeProfileId
  dueDate := body.dueDate
  status := .todo
  orderKey := body.orderKey
  createdBy := profileId
  closedAt := none
  deletedAt := none

/-- `update_task`, with the previous status if it was changed -/
def Task.patch (task : Task) (body : TaskPatchRequest) (now : Timestamp) :
    Task × Option TaskStatus :=
  let set : Task :=
    { task with
      title := body.title.getD task.title
      description := body.description.getD task.description
      assigneeProfileId := body.assigneeProfileId.getD task.assigneeProfileId
      dueDate := body.dueDate.getD task.dueDate
      orderKey := body.orderKey.getD task.orderKey }
  match body.status with
  | some status =>
      if status = task.status then (set, none)
      else
        ({ set with
            status
            closedAt :=
              if status = .done then some now
              else if task.status = .done then none else task.closedAt },
          some task.status)
  | none => (set, none)

/-- `_generate_balanced_keys` -/
def generateBalancedKeys (n : Nat) : List String :=
  let alphabet := "abcdefghijklmnopqrstuvwxyz".toList
  let step := max 1 (alphabet.length / (n + 1))
  (List.range n).map fun i =>
    String.ofList ((alphabet[min ((i + 1) * step) (alphabet.length - 1)]?).toList)

/-- `rebalance_order_keys` -/
def CollabWorld.rebalanced (w : CollabWorld) : List (Task × Task) :=
  let tasks := (w.tasks.filter (·.deletedAt = none)).insertionSort fun task task' =>
    task.orderKey ≤ task'.orderKey
  (tasks.zip (generateBalancedKeys tasks.length)).map fun pair =>
    (pair.1, { pair.1 with orderKey := pair.2 })

end ColabPlatform.Collabs
