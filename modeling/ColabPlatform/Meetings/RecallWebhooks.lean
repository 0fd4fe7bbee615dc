import ColabPlatform.Foundation.Interleaving
import ColabPlatform.Meetings.Scheduling

/-!
# The webhooks of a bot

Recall reports the statuses of a bot by webhooks.  The endpoint drops those whose event it
has seen and queues a task for each of the others, and every task writes the status of its
webhook over what it finds.  The file follows the endpoint and the tasks of one meeting from
await to await, and finds the runs that end with the furthest status and with one artifact of
each kind.
-/

namespace ColabPlatform.Meetings

open Foundation

/-! ## Webhooks, tasks and artifacts -/

inductive ArtifactKind where
  | transcript
  | recording
  | summary
  deriving DecidableEq, Repr

structure MeetingArtifact where
  meetingId : String
  kind : ArtifactKind
  s3Key : String
  deriving DecidableEq, Repr

/-- What the endpoint and the tasks read of a webhook. -/
structure RecallWebhook where
  eventId : Option String := none
  status : RecallStatus
  transcriptUrl : Option String := none
  recordingUrl : Option String := none
  deriving DecidableEq, Repr

/-- `recall_webhook`, with what it does next. -/
inductive RecallCall where
  | lookUp (webhook : RecallWebhook)
  | setex (webhook : RecallWebhook)
  | enqueue (webhook : RecallWebhook)
  | accepted
  | duplicate
  | failed
  deriving DecidableEq, Repr

/-- `process_recall_webhook`, with what it does next; `meeting` is the row that it has loaded. -/
inductive RecallTask where
  | select (webhook : RecallWebhook)
  | transcript (meeting : Meeting) (webhook : RecallWebhook)
  | recording (meeting : Meeting) (webhook : RecallWebhook) (transcript : Bool)
  | commit (meeting : Meeting) (webhook : RecallWebhook) (transcript recording : Bool)
  | emit (webhook : RecallWebhook)
  | done
  deriving DecidableEq, Repr

def RecallCall.carries : RecallCall → Option RecallStatus
  | .lookUp webhook | .setex webhook | .enqueue webhook => some webhook.status
  | .accepted | .duplicate | .failed => none

namespace RecallTask

def webhook? : RecallTask → Option RecallWebhook
  | .select webhook | .transcript _ webhook | .recording _ webhook _ | .commit _ webhook _ _
  | .emit webhook => some webhook
  | .done => none

/-- The status that the task has still to write. -/
def carries : RecallTask → Option RecallStatus
  | .select webhook | .transcript _ webhook | .recording _ webhook _ | .commit _ webhook _ _ =>
      some webhook.status
  | .emit _ | .done => none

def loaded? : RecallTask → Option Meeting
  | .transcript meeting _ | .recording meeting _ _ | .commit meeting _ _ _ => some meeting
  | _ => none

theorem unloaded {task : RecallTask} (none : task.loaded? = none) {p : Meeting → Prop}
    (meeting : Meeting) (isLoaded : task.loaded? = some meeting) : p meeting := by
  rw [none] at isLoaded
  cases isLoaded

theorem webhook_of_carries {task : RecallTask} {status : RecallStatus}
    (carries : task.carries = some status) :
    ∃ webhook, task.webhook? = some webhook ∧ webhook.status = status := by
  cases task with
  | emit webhook => cases carries
  | done => cases carries
  | _ => exact ⟨_, rfl, Option.some.inj carries⟩

/-- The task is about to emit `meeting.transcript_ready`. -/
def emits : RecallTask → Nat
  | .emit _ => 1
  | _ => 0

end RecallTask

/-- How far a bot is, in the order of its life. -/
def BotStatus.rank : BotStatus → Nat
  | .none => 0
  | .requested => 1
  | .joining => 2
  | .joined => 3
  | .left => 4
  | .failed => 5

/-- The webhooks of the bot of one meeting, with the requests that patch it. -/
structure RecallDesk where
  meeting : Meeting
  artifacts : List MeetingArtifact
  /-- the keys `recall_event:` -/
  seen : List String
  calls : List RecallCall
  queue : List RecallWebhook
  tasks : List RecallTask
  patches : List SchedulingCall
  /-- the statuses that Recall has sent -/
  received : List RecallStatus
  /-- how often `meeting.transcript_ready` was emitted -/
  ready : Nat

inductive RecallEvent where
  /-- the task that has created the bot commits its id -/
  | joining (botId : String)
  | webhook (webhook : RecallWebhook)
  | endpoint (index : Nat) (ok : Bool := true)
  | expire (eventId : String)
  /-- the broker delivers a task, and may deliver it again -/
  | deliver (index : Nat) (again : Bool := false)
  | process (index : Nat) (ok : Bool := true)
  /-- the worker of a task is lost, and the task goes back to the queue -/
  | crash (index : Nat)
  | patch (body : MeetingPatchRequest)
  | advance (index : Nat)

namespace RecallDesk

/-- The bot of the meeting is being created. -/
def start (meeting : Meeting) : RecallDesk where
  meeting := { meeting with botStatus := .requested, recallBotId := none }
  artifacts := []
  seen := []
  calls := []
  queue := []
  tasks := []
  patches := []
  received := []
  ready := 0

def putCall (s : RecallDesk) (index : Nat) (call : RecallCall) : RecallDesk :=
  { s with calls := s.calls.set index call }

def putTask (s : RecallDesk) (index : Nat) (task : RecallTask) : RecallDesk :=
  { s with tasks := s.tasks.set index task }

/-- The event id of a webhook, where it has one. -/
def eventKey (webhook : RecallWebhook) : Option String := webhook.eventId.filter (· ≠ "")

/-- The next statement of the endpoint; an error of Redis is logged. -/
def answer (s : RecallDesk) (index : Nat) (ok : Bool) : RecallCall → RecallDesk
  | .lookUp webhook =>
      match eventKey webhook with
      | some key =>
          if ok then s.putCall index (if key ∈ s.seen then .duplicate else .setex webhook)
          else s.putCall index (.enqueue webhook)
      | none => s.putCall index (.enqueue webhook)
  | .setex webhook =>
      { s.putCall index (.enqueue webhook) with
        seen := if ok then (eventKey webhook).toList ++ s.seen else s.seen }
  | .enqueue webhook =>
      if ok then { s.putCall index .accepted with queue := s.queue ++ [webhook] }
      else s.putCall index .failed
  | .accepted | .duplicate | .failed => s

def transcriptArtifact (meeting : Meeting) : MeetingArtifact :=
  ⟨meeting.id, .transcript, s!"artifacts/meetings/{meeting.id}/transcript.json"⟩

def recordingArtifact (meeting : Meeting) : MeetingArtifact :=
  ⟨meeting.id, .recording, s!"artifacts/meetings/{meeting.id}/recording_url.txt"⟩

/-- What `_ingest_artifacts` has added to the session. -/
def ingested (meeting : Meeting) (transcript recording : Bool) : List MeetingArtifact :=
  (if transcript then [transcriptArtifact meeting] else []) ++
    if recording then [recordingArtifact meeting] else []

/-- The columns that a task has changed are written: those that were `loaded` otherwise. -/
def processed (loaded : Meeting) (status : RecallStatus) (meeting : Meeting) : Meeting :=
  { meeting with
    botStatus := if status.botStatus = loaded.botStatus then meeting.botStatus
      else status.botStatus
    status := if status = .done ∧ loaded.status ≠ .ended then .ended else meeting.status }

/-- The next statement of a task; an error of the ingestion is logged. -/
def process (s : RecallDesk) (index : Nat) (ok : Bool) : RecallTask → RecallDesk
  | .select webhook =>
      s.putTask index
        (if ok && s.meeting.recallBotId.isSome then
          if webhook.status = .done then .transcript s.meeting webhook
          else .commit s.meeting webhook false false
        else .done)
  | .transcript meeting webhook =>
      s.putTask index (.recording meeting webhook (ok && webhook.transcriptUrl.any (· ≠ "")))
  | .recording meeting webhook transcript =>
      s.putTask index
        (.commit meeting webhook transcript (ok && webhook.recordingUrl.any (· ≠ "")))
  | .commit meeting webhook transcript recording =>
      if ok then
        { s.putTask index (if webhook.status = .done then .emit webhook else .done) with
          meeting := processed meeting webhook.status s.meeting
          artifacts := s.artifacts ++ ingested meeting transcript recording }
      else s.putTask index .done
  | .emit _ => { s.putTask index .done with ready := s.ready + if ok then 1 else 0 }
  | .done => s

/-- `patch_meeting`, as far as it concerns this meeting. -/
def advancePatch (s : RecallDesk) (index : Nat) : SchedulingCall → RecallDesk
  | .select _ body =>
      { s with patches := s.patches.set index (Scheduling.selected s.meeting body) }
  | .cancel _ =>
      { s with
        patches := s.patches.set index (.answered .updated)
        meeting := s.meeting.cancelled }
  | .patchEvent meeting body => { s with patches := s.patches.set index (.update meeting body) }
  | .update meeting body =>
      { s with
        patches := s.patches.set index (.answered .updated)
        meeting := meeting.reschedule body s.meeting }
  | _ => s

def step (s : RecallDesk) : RecallEvent → RecallDesk
  | .joining botId =>
      if s.meeting.recallBotId = none ∧ s.meeting.botStatus = .requested then
        { s with meeting := { s.meeting with botStatus := .joining, recallBotId := some botId } }
      else s
  | .webhook webhook =>
      { s with
        calls := s.calls ++ [.lookUp webhook]
        received := s.received ++ [webhook.status] }
  | .endpoint index ok =>
      match s.calls[index]? with
      | some call => s.answer index ok call
      | none => s
  | .expire eventId => { s with seen := s.seen.filter (· ≠ eventId) }
  | .deliver index again =>
      match s.queue[index]? with
      | some webhook =>
          { s with
            queue := if again then s.queue else s.queue.eraseIdx index
            tasks := s.tasks ++ [.select webhook] }
      | none => s
  | .process index ok =>
      match s.tasks[index]? with
      | some task => s.process index ok task
      | none => s
  | .crash index =>
      match s.tasks[index]? with
      | some task =>
          { s.putTask index .done with queue := s.queue ++ task.webhook?.toList }
      | none => s
  | .patch body => { s with patches := s.patches ++ [.select s.meeting.id body] }
  | .advance index =>
      match s.patches[index]? with
      | some call => s.advancePatch index call
      | none => s

def run (meeting : Meeting) (events : List RecallEvent) : RecallDesk :=
  runFrom step (start meeting) events

/-! ## What is promised -/

/-- All tasks have run, and no webhook is at the endpoint. -/
def settled (s : RecallDesk) : Bool :=
  s.calls.all (·.carries.isNone) && s.queue.isEmpty && s.tasks.all (·.webhook?.isNone)

def artifactsOf (s : RecallDesk) (kind : ArtifactKind) : Nat :=
  s.artifacts.countP (·.kind = kind)

/-- The status is the one of the furthest status that was received. -/
def Furthest (s : RecallDesk) : Prop :=
  ∃ status ∈ s.received, s.meeting.botStatus = status.botStatus ∧
    ∀ other ∈ s.received, other.botStatus.rank ≤ status.botStatus.rank

structure Converges (meeting : Meeting) (events : List RecallEvent) : Prop where
  single : (run meeting events).settled = true →
    ∀ kind, (run meeting events).artifactsOf kind ≤ 1
  furthest : (run meeting events).settled = true → (run meeting events).received ≠ [] →
    (run meeting events).Furthest
  advances : ∀ first, first <+: events →
    (run meeting first).meeting.botStatus.rank ≤ (run meeting events).meeting.botStatus.rank
  cancelled : ∀ first, first <+: events → (run meeting first).meeting.status = .cancelled →
    (run meeting events).meeting.status = .cancelled
  ready : (run meeting events).ready ≠ 0 → (run meeting events).artifactsOf .transcript ≠ 0
  once : (run meeting events).ready ≤ 1

/-! ## The runs in which it is kept -/

/-- The status is written, or one at least as far is still to be written. -/
def covers (s : RecallDesk) (status : RecallStatus) : Bool :=
  let ahead := fun other : RecallStatus => status.botStatus.rank ≤ other.botStatus.rank
  status.botStatus.rank ≤ s.meeting.botStatus.rank || s.calls.any (·.carries.any ahead) ||
    s.queue.any (fun webhook => ahead webhook.status) || s.tasks.any (·.carries.any ahead)

/-- A webhook is dropped only while its status is covered by the others; no status is written
over one that is further; the meeting is not ended when it is cancelled, and the task that ends
it has stored its transcript and meets no artifact of its kinds. -/
def convergesRight (s : RecallDesk) : RecallEvent → Bool
  | .endpoint index ok =>
      match s.calls[index]? with
      | some (.lookUp webhook) =>
          !ok || (eventKey webhook).all fun key =>
            key ∉ s.seen || (s.putCall index .duplicate).covers webhook.status
      | some (.enqueue webhook) => ok || (s.putCall index .failed).covers webhook.status
      | _ => true
  | .process index ok =>
      match s.tasks[index]? with
      | some (.select webhook) =>
          ok && s.meeting.recallBotId.isSome || (s.putTask index .done).covers webhook.status
      | some (.commit meeting webhook transcript recording) =>
          if ok then
            (webhook.status.botStatus = meeting.botStatus ||
              s.meeting.botStatus.rank ≤ webhook.status.botStatus.rank) &&
            (webhook.status ≠ .done ||
              (meeting.status = .ended || s.meeting.status ≠ .cancelled) && transcript) &&
            (!transcript || s.artifactsOf .transcript = 0) &&
            (!recording || s.artifactsOf .recording = 0)
          else (s.putTask index .done).covers webhook.status
      | _ => true
  | _ => true

/-! ## Statuses to come -/

variable {s s' : RecallDesk}

/-- A status is at the endpoint, in the queue, or with a task that has still to write it. -/
def Pending (s : RecallDesk) (status : RecallStatus) : Prop :=
  (∃ call ∈ s.calls, call.carries = some status) ∨ (∃ webhook ∈ s.queue, webhook.status = status) ∨
    ∃ task ∈ s.tasks, task.carries = some status

theorem covers_iff {status : RecallStatus} :
    s.covers status = true ↔ status.botStatus.rank ≤ s.meeting.botStatus.rank ∨
      ∃ other, s.Pending other ∧ status.botStatus.rank ≤ other.botStatus.rank := by
  simp only [covers, Bool.or_eq_true, decide_eq_true_eq, List.any_eq_true, Option.any_eq_true,
    Pending]
  constructor
  · rintro (((written | ⟨call, mem, other, carries, ahead⟩) | ⟨webhook, mem, ahead⟩) |
      ⟨task, mem, other, carries, ahead⟩)
    · exact Or.inl written
    · exact Or.inr ⟨other, Or.inl ⟨call, mem, carries⟩, ahead⟩
    · exact Or.inr ⟨webhook.status, Or.inr (Or.inl ⟨webhook, mem, rfl⟩), ahead⟩
    · exact Or.inr ⟨other, Or.inr (Or.inr ⟨task, mem, carries⟩), ahead⟩
  · rintro (written | ⟨other, ⟨call, mem, carries⟩ | ⟨webhook, mem, rfl⟩ | ⟨task, mem, carries⟩,
      ahead⟩)
    · exact Or.inl (Or.inl (Or.inl written))
    · exact Or.inl (Or.inl (Or.inr ⟨call, mem, other, carries, ahead⟩))
    · exact Or.inl (Or.inr ⟨webhook, mem, ahead⟩)
    · exact Or.inr ⟨task, mem, other, carries, ahead⟩

theorem covers_of_pending {status : RecallStatus} (pending : s.Pending status) :
    s.covers status = true := covers_iff.2 (Or.inr ⟨status, pending, Nat.le_refl _⟩)

/-- A status stays covered if those that cover it do. -/
theorem covers_trans {status : RecallStatus}
    (rank : s.meeting.botStatus.rank ≤ s'.meeting.botStatus.rank)
    (pending : ∀ other, s.Pending other → s'.covers other = true)
    (h : s.covers status = true) : s'.covers status = true := by
  rcases covers_iff.1 h with written | ⟨other, isPending, ahead⟩
  · exact covers_iff.2 (Or.inl (written.trans rank))
  · rcases covers_iff.1 (pending other isPending) with written | ⟨next, isNext, further⟩
    · exact covers_iff.2 (Or.inl (ahead.trans written))
    · exact covers_iff.2 (Or.inr ⟨next, isNext, ahead.trans further⟩)

/-- What was received is written or to come, and what is written or to come was received. -/
structure Covered (s : RecallDesk) : Prop where
  covered : ∀ status ∈ s.received, s.covers status = true
  origin : s.meeting.botStatus.rank ≤ 2 ∨
    ∃ status ∈ s.received, status.botStatus = s.meeting.botStatus
  calls : ∀ call ∈ s.calls, ∀ status, call.carries = some status → status ∈ s.received
  queue : ∀ webhook ∈ s.queue, webhook.status ∈ s.received
  tasks : ∀ task ∈ s.tasks, ∀ webhook, task.webhook? = some webhook →
    webhook.status ∈ s.received
  /-- the status has gone on since a task has loaded it -/
  behind : ∀ task ∈ s.tasks, ∀ meeting, task.loaded? = some meeting →
    meeting.botStatus.rank ≤ s.meeting.botStatus.rank

/-- Only the meeting changes. -/
theorem Covered.frame (h : s.Covered) (calls : s'.calls = s.calls) (queue : s'.queue = s.queue)
    (tasks : s'.tasks = s.tasks) (received : s'.received = s.received)
    (rank : s.meeting.botStatus.rank ≤ s'.meeting.botStatus.rank)
    (origin : s'.meeting.botStatus.rank ≤ 2 ∨ s'.meeting.botStatus = s.meeting.botStatus) :
    s'.Covered where
  covered := by
    intro status mem
    rw [received] at mem
    refine covers_trans rank (fun other pending => covers_of_pending ?_) (h.covered status mem)
    rw [Pending, calls, queue, tasks]
    exact pending
  origin := by
    rcases origin with early | same
    · exact Or.inl early
    · rw [same, received]
      exact h.origin
  calls := by
    rw [calls, received]
    exact h.calls
  queue := by
    rw [queue, received]
    exact h.queue
  tasks := by
    rw [tasks, received]
    exact h.tasks
  behind := by
    intro task mem meeting loaded
    rw [tasks] at mem
    exact (h.behind task mem meeting loaded).trans rank

/-- A webhook arrives. -/
theorem Covered.arrive (h : s.Covered) (webhook : RecallWebhook) :
    (s.step (.webhook webhook)).Covered where
  covered := by
    intro status mem
    rcases List.mem_append.1 mem with old | new
    · refine covers_trans (s := s) (Nat.le_refl _) (fun other pending => covers_of_pending ?_)
        (h.covered status old)
      rcases pending with ⟨call, memCall, carries⟩ | later
      · exact Or.inl ⟨call, List.mem_append_left _ memCall, carries⟩
      · exact Or.inr later
    · obtain rfl := List.mem_singleton.1 new
      exact covers_of_pending
        (Or.inl ⟨.lookUp webhook, List.mem_append_right _ List.mem_cons_self, rfl⟩)
  origin := by
    rcases h.origin with early | ⟨status, mem, same⟩
    · exact Or.inl early
    · exact Or.inr ⟨status, List.mem_append_left _ mem, same⟩
  calls := by
    intro call mem status carries
    rcases List.mem_append.1 mem with old | new
    · exact List.mem_append_left _ (h.calls call old status carries)
    · obtain rfl := List.mem_singleton.1 new
      obtain rfl := Option.some.inj carries
      exact List.mem_append_right _ List.mem_cons_self
  queue := fun queued mem => List.mem_append_left _ (h.queue queued mem)
  tasks := fun task mem queued has => List.mem_append_left _ (h.tasks task mem queued has)
  behind := h.behind

/-- A call at the endpoint goes on. -/
theorem Covered.endpoint (h : s.Covered) {index : Nat} {old new : RecallCall}
    (found : s.calls[index]? = some old) (calls : s'.calls = s.calls.set index new)
    (tasks : s'.tasks = s.tasks) (received : s'.received = s.received)
    (meeting : s'.meeting = s.meeting)
    (queued : ∀ webhook ∈ s.queue, webhook ∈ s'.queue)
    (sent : ∀ webhook ∈ s'.queue, webhook ∈ s.queue ∨ old.carries = some webhook.status)
    (carries : new.carries = none ∨ new.carries = old.carries)
    (kept : ∀ status, old.carries = some status → s'.covers status = true) : s'.Covered where
  covered := by
    intro status mem
    rw [received] at mem
    refine covers_trans (le_of_eq (by rw [meeting])) ?_ (h.covered status mem)
    rintro other (⟨call, memCall, carried⟩ | ⟨webhook, memQueue, same⟩ | ⟨task, memTask, carried⟩)
    · by_cases mine : call = old
      · subst mine
        exact kept other carried
      · apply covers_of_pending
        exact Or.inl ⟨call, calls ▸ mem_set_of_mem found memCall (Ne.symm mine), carried⟩
    · exact covers_of_pending (Or.inr (Or.inl ⟨webhook, queued webhook memQueue, same⟩))
    · exact covers_of_pending (Or.inr (Or.inr ⟨task, tasks ▸ memTask, carried⟩))
  origin := by
    rw [meeting, received]
    exact h.origin
  calls := by
    intro call mem status carried
    rw [calls] at mem
    rw [received]
    rcases mem_set_cases mem with rfl | ⟨j, -, atJ⟩
    · rcases carries with none | same
      · rw [none] at carried
        cases carried
      · exact h.calls old (List.mem_of_getElem? found) status (same ▸ carried)
    · exact h.calls call (List.mem_of_getElem? atJ) status carried
  queue := by
    intro webhook mem
    rw [received]
    rcases sent webhook mem with before | carried
    · exact h.queue webhook before
    · exact h.calls old (List.mem_of_getElem? found) _ carried
  tasks := by
    rw [tasks, received]
    exact h.tasks
  behind := by
    rw [tasks, meeting]
    exact h.behind

/-- A task goes on. -/
theorem Covered.process (h : s.Covered) {index : Nat} {old new : RecallTask}
    (found : s.tasks[index]? = some old) (tasks : s'.tasks = s.tasks.set index new)
    (calls : s'.calls = s.calls) (received : s'.received = s.received)
    (rank : s.meeting.botStatus.rank ≤ s'.meeting.botStatus.rank)
    (origin : s'.meeting.botStatus = s.meeting.botStatus ∨
      ∃ webhook, old.webhook? = some webhook ∧
        webhook.status.botStatus = s'.meeting.botStatus)
    (queued : ∀ webhook ∈ s.queue, webhook ∈ s'.queue)
    (sent : ∀ webhook ∈ s'.queue, webhook ∈ s.queue ∨ old.webhook? = some webhook)
    (webhook : new.webhook? = none ∨ new.webhook? = old.webhook?)
    (loaded : ∀ meeting, new.loaded? = some meeting →
      meeting.botStatus.rank ≤ s'.meeting.botStatus.rank)
    (kept : ∀ status, old.carries = some status → s'.covers status = true) : s'.Covered := by
  have here := List.mem_of_getElem? found
  exact
    { covered := by
        intro status mem
        rw [received] at mem
        refine covers_trans rank ?_ (h.covered status mem)
        rintro other (⟨call, memCall, carried⟩ | ⟨webhook, memQueue, same⟩ |
          ⟨task, memTask, carried⟩)
        · exact covers_of_pending (Or.inl ⟨call, calls ▸ memCall, carried⟩)
        · exact covers_of_pending (Or.inr (Or.inl ⟨webhook, queued webhook memQueue, same⟩))
        · by_cases mine : task = old
          · subst mine
            exact kept other carried
          · apply covers_of_pending
            refine Or.inr (Or.inr ⟨task, ?_, carried⟩)
            exact tasks ▸ mem_set_of_mem found memTask (Ne.symm mine)
      origin := by
        rw [received]
        rcases origin with same | ⟨webhook, has, same⟩
        · rw [same]
          exact h.origin
        · exact Or.inr ⟨webhook.status, h.tasks old here webhook has, same⟩
      calls := by
        rw [calls, received]
        exact h.calls
      queue := by
        intro queuedNow mem
        rw [received]
        rcases sent queuedNow mem with before | has
        · exact h.queue queuedNow before
        · exact h.tasks old here queuedNow has
      tasks := by
        intro task mem has isWebhook
        rw [tasks] at mem
        rw [received]
        rcases mem_set_cases mem with rfl | ⟨j, -, atJ⟩
        · rcases webhook with none | same
          · rw [none] at isWebhook
            cases isWebhook
          · exact h.tasks old here has (same ▸ isWebhook)
        · exact h.tasks task (List.mem_of_getElem? atJ) has isWebhook
      behind := by
        intro task mem meeting isLoaded
        rw [tasks] at mem
        rcases mem_set_cases mem with rfl | ⟨j, -, atJ⟩
        · exact loaded meeting isLoaded
        · exact (h.behind task (List.mem_of_getElem? atJ) meeting isLoaded).trans rank }

/-- A task is delivered. -/
theorem Covered.deliver (h : s.Covered) {index : Nat} {webhook : RecallWebhook} {again : Bool}
    (found : s.queue[index]? = some webhook) :
    Covered { s with
      queue := if again then s.queue else s.queue.eraseIdx index
      tasks := s.tasks ++ [.select webhook] } := by
  have received := h.queue webhook (List.mem_of_getElem? found)
  exact
    { covered := by
        intro status mem
        refine covers_trans (s := s) (Nat.le_refl _) (fun other pending => covers_of_pending ?_)
          (h.covered status mem)
        rcases pending with call | ⟨queued, memQueue, same⟩ | ⟨task, memTask, carried⟩
        · exact Or.inl call
        · rcases mem_eraseIdx_or memQueue with mine | other
          · obtain rfl := Option.some.inj (found.symm.trans mine)
            exact Or.inr (Or.inr ⟨.select webhook, List.mem_append_right _ List.mem_cons_self,
              congrArg some same⟩)
          · refine Or.inr (Or.inl ⟨queued, ?_, same⟩)
            cases again with
            | true => exact memQueue
            | false => exact other
        · exact Or.inr (Or.inr ⟨task, List.mem_append_left _ memTask, carried⟩)
      origin := h.origin
      calls := h.calls
      queue := by
        intro queued mem
        cases again with
        | true => exact h.queue queued mem
        | false => exact h.queue queued (List.mem_of_mem_eraseIdx mem)
      tasks := by
        refine forall_mem_concat ?_ h.tasks
        intro same has
        obtain rfl := Option.some.inj has
        exact received
      behind := forall_mem_concat (RecallTask.unloaded rfl) h.behind }

/-! ### Steps -/

theorem Covered.answer (h : s.Covered) {index : Nat} {ok : Bool} {call : RecallCall}
    (found : s.calls[index]? = some call)
    (right : s.convergesRight (.endpoint index ok) = true) :
    (s.answer index ok call).Covered := by
  simp only [convergesRight, found] at right
  have goesOn : ∀ {new : RecallCall} {seen : List String}, new.carries = call.carries →
      new.carries ≠ none → Covered { s.putCall index new with seen } := by
    intro new seen same some
    refine h.endpoint found rfl rfl rfl rfl (fun _ mem => mem) (fun _ => Or.inl) (Or.inr same) ?_
    intro status carried
    exact covers_of_pending (Or.inl ⟨new, mem_set_of_found found, same.trans carried⟩)
  cases call with
  | lookUp webhook =>
      simp only [RecallDesk.answer]
      split
      · rename_i key isKey
        simp only [isKey, Option.all_some, Bool.or_eq_true, Bool.not_eq_true',
          decide_eq_true_eq] at right
        split
        · rename_i carried
          split
          · rename_i seen
            have covers : (s.putCall index .duplicate).covers webhook.status = true := by
              rcases right with failed | unseen | covers
              · rw [carried] at failed
                cases failed
              · exact absurd seen unseen
              · exact covers
            refine h.endpoint found rfl rfl rfl rfl (fun _ mem => mem) (fun _ => Or.inl)
              (Or.inl rfl) ?_
            intro status same
            obtain rfl := Option.some.inj same
            exact covers
          · exact goesOn rfl nofun
        · exact goesOn rfl nofun
      · exact goesOn rfl nofun
  | setex webhook => exact goesOn rfl nofun
  | enqueue webhook =>
      simp only [RecallDesk.answer]
      split
      · refine h.endpoint found rfl rfl rfl rfl (fun _ mem => List.mem_append_left _ mem) ?_
          (Or.inl rfl) ?_
        · intro queued mem
          rcases List.mem_append.1 mem with before | new
          · exact Or.inl before
          · obtain rfl := List.mem_singleton.1 new
            exact Or.inr rfl
        · intro status same
          obtain rfl := Option.some.inj same
          exact covers_of_pending
            (Or.inr (Or.inl ⟨webhook, List.mem_append_right _ List.mem_cons_self, rfl⟩))
      · rename_i failed
        refine h.endpoint found rfl rfl rfl rfl (fun _ mem => mem) (fun _ => Or.inl)
          (Or.inl rfl) ?_
        intro status same
        obtain rfl := Option.some.inj same
        simpa [failed] using right
  | accepted => exact h
  | duplicate => exact h
  | failed => exact h

/-- A status that was loaded otherwise is written, and it is at least as far. -/
theorem rank_processed {loaded meeting : Meeting} {status : RecallStatus}
    (right : status.botStatus = loaded.botStatus ∨
      meeting.botStatus.rank ≤ status.botStatus.rank) :
    meeting.botStatus.rank ≤ (processed loaded status meeting).botStatus.rank := by
  simp only [processed]
  split
  · exact Nat.le_refl _
  · rename_i other
    exact right.resolve_left other

theorem Covered.commit (h : s.Covered) {index : Nat} {loaded : Meeting}
    {webhook : RecallWebhook} {transcript recording : Bool}
    (found : s.tasks[index]? = some (.commit loaded webhook transcript recording))
    (right : webhook.status.botStatus = loaded.botStatus ∨
      s.meeting.botStatus.rank ≤ webhook.status.botStatus.rank) :
    (s.process index true (.commit loaded webhook transcript recording)).Covered := by
  have here := List.mem_of_getElem? found
  have rank := rank_processed right
  have written : webhook.status.botStatus.rank ≤
      (processed loaded webhook.status s.meeting).botStatus.rank := by
    by_cases same : webhook.status.botStatus = loaded.botStatus
    · rw [same]
      exact (h.behind _ here loaded rfl).trans rank
    · simp only [processed, if_neg same]
      exact Nat.le_refl _
  refine h.process found rfl rfl rfl rank ?_ (fun _ mem => mem) (fun _ => Or.inl) ?_ ?_ ?_
  · by_cases same : webhook.status.botStatus = loaded.botStatus
    · exact Or.inl (if_pos same)
    · exact Or.inr ⟨webhook, rfl, (if_neg same).symm⟩
  · split
    · exact Or.inr rfl
    · exact Or.inl rfl
  · intro meeting isLoaded
    split at isLoaded
    · cases isLoaded
    · cases isLoaded
  · intro status same
    obtain rfl := Option.some.inj same
    exact covers_iff.2 (Or.inl written)

theorem Covered.processed (h : s.Covered) {index : Nat} {ok : Bool} {task : RecallTask}
    (found : s.tasks[index]? = some task)
    (right : s.convergesRight (.process index ok) = true) :
    (s.process index ok task).Covered := by
  have here := List.mem_of_getElem? found
  simp only [convergesRight, found] at right
  have goesOn : ∀ {new : RecallTask}, new.carries = task.carries → new.carries ≠ none →
      new.webhook? = task.webhook? →
      (∀ meeting, new.loaded? = some meeting →
        meeting.botStatus.rank ≤ s.meeting.botStatus.rank) → (s.putTask index new).Covered := by
    intro new same some webhook loaded
    refine h.process found rfl rfl rfl (Nat.le_refl _) (Or.inl rfl) (fun _ mem => mem)
      (fun _ => Or.inl) (Or.inr webhook) loaded ?_
    intro status carried
    exact covers_of_pending
      (Or.inr (Or.inr ⟨new, mem_set_of_found found, same.trans carried⟩))
  have ends : ∀ {webhook : RecallWebhook}, task.carries = some webhook.status →
      (s.putTask index .done).covers webhook.status = true → (s.putTask index .done).Covered := by
    intro webhook carries covers
    refine h.process found rfl rfl rfl (Nat.le_refl _) (Or.inl rfl) (fun _ mem => mem)
      (fun _ => Or.inl) (Or.inl rfl) (RecallTask.unloaded rfl) ?_
    intro status carried
    obtain rfl := Option.some.inj (carries.symm.trans carried)
    exact covers
  cases task with
  | select webhook =>
      simp only [RecallDesk.process]
      split
      · have loaded : ∀ meeting, some s.meeting = some meeting →
            meeting.botStatus.rank ≤ s.meeting.botStatus.rank := by
          intro meeting same
          obtain rfl := Option.some.inj same
          exact Nat.le_refl _
        split
        · exact goesOn rfl nofun rfl loaded
        · exact goesOn rfl nofun rfl loaded
      · rename_i failed
        exact ends rfl ((Bool.or_eq_true_iff.1 right).resolve_left failed)
  | transcript meeting webhook =>
      exact goesOn rfl nofun rfl (h.behind (.transcript meeting webhook) here)
  | recording meeting webhook transcript =>
      exact goesOn rfl nofun rfl (h.behind (.recording meeting webhook transcript) here)
  | commit meeting webhook transcript recording =>
      cases ok with
      | true =>
          simp only [if_true, Bool.and_eq_true, Bool.or_eq_true, decide_eq_true_eq] at right
          exact h.commit found right.1.1.1
      | false => exact ends rfl right
  | emit webhook =>
      exact h.process found rfl rfl rfl (Nat.le_refl _) (Or.inl rfl) (fun _ mem => mem)
        (fun _ => Or.inl) (Or.inl rfl) (RecallTask.unloaded rfl) nofun
  | done => exact h

theorem Covered.step (h : s.Covered) (event : RecallEvent)
    (right : s.convergesRight event = true) : (s.step event).Covered := by
  cases event with
  | joining botId =>
      simp only [RecallDesk.step]
      split
      · rename_i created
        refine h.frame rfl rfl rfl rfl ?_ (Or.inl (Nat.le_refl 2))
        rw [created.2]
        exact Nat.le_succ 1
      · exact h
  | webhook webhook => exact h.arrive webhook
  | endpoint index ok =>
      simp only [RecallDesk.step]
      split
      · rename_i call found
        exact h.answer found right
      · exact h
  | expire eventId => exact h.frame rfl rfl rfl rfl (Nat.le_refl _) (Or.inr rfl)
  | deliver index again =>
      simp only [RecallDesk.step]
      split
      · rename_i webhook found
        exact h.deliver found
      · exact h
  | process index ok =>
      simp only [RecallDesk.step]
      split
      · rename_i task found
        exact h.processed found right
      · exact h
  | crash index =>
      simp only [RecallDesk.step]
      split
      · rename_i task found
        refine h.process found rfl rfl rfl (Nat.le_refl _) (Or.inl rfl)
          (fun _ mem => List.mem_append_left _ mem) ?_ (Or.inl rfl) (RecallTask.unloaded rfl) ?_
        · intro webhook mem
          rcases List.mem_append.1 mem with before | back
          · exact Or.inl before
          · exact Or.inr (Option.mem_toList.1 back)
        · intro status carries
          obtain ⟨webhook, has, same⟩ := RecallTask.webhook_of_carries carries
          refine covers_of_pending (Or.inr (Or.inl ⟨webhook, ?_, same⟩))
          exact List.mem_append_right _ (Option.mem_toList.2 has)
      · exact h
  | patch body => exact h.frame rfl rfl rfl rfl (Nat.le_refl _) (Or.inr rfl)
  | advance index =>
      simp only [RecallDesk.step]
      split
      · rename_i call found
        unfold advancePatch
        split
        all_goals exact h.frame rfl rfl rfl rfl (Nat.le_refl _) (Or.inr rfl)
      · exact h

/-! ## Status, artifacts and the event -/

/-- A step keeps a cancelled meeting, and takes the status of the bot no step back. -/
structure Onwards (meeting meeting' : Meeting) : Prop where
  rank : meeting.botStatus.rank ≤ meeting'.botStatus.rank
  cancelled : meeting.status = .cancelled → meeting'.status = .cancelled

theorem Onwards.refl (meeting : Meeting) : Onwards meeting meeting := ⟨Nat.le_refl _, id⟩

theorem Onwards.trans {a b c : Meeting} (h : Onwards a b) (h' : Onwards b c) : Onwards a c :=
  ⟨h.rank.trans h'.rank, fun cancelled => h'.cancelled (h.cancelled cancelled)⟩

theorem onwards_process {index : Nat} {ok : Bool} {task : RecallTask}
    (found : s.tasks[index]? = some task)
    (right : s.convergesRight (.process index ok) = true) :
    Onwards s.meeting (s.process index ok task).meeting := by
  simp only [convergesRight, found] at right
  cases task with
  | commit loaded webhook transcript recording =>
      cases ok with
      | false => exact .refl _
      | true =>
          simp only [if_true, Bool.and_eq_true, Bool.or_eq_true, decide_eq_true_eq] at right
          refine ⟨rank_processed right.1.1.1, fun cancelled => ?_⟩
          have kept : ¬ (webhook.status = .done ∧ loaded.status ≠ .ended) := by
            rintro ⟨done, active⟩
            rcases right.1.1.2 with other | ⟨ended | notCancelled, -⟩
            · exact other done
            · exact active ended
            · exact notCancelled cancelled
          simpa only [RecallDesk.process, processed, if_true, if_neg kept] using cancelled
  | _ => exact .refl _

theorem onwards_step (s : RecallDesk) (event : RecallEvent)
    (right : s.convergesRight event = true) : Onwards s.meeting (s.step event).meeting := by
  cases event with
  | joining botId =>
      simp only [step]
      split
      · rename_i created
        refine ⟨?_, id⟩
        rw [created.2]
        exact Nat.le_succ 1
      · exact .refl _
  | webhook webhook => exact .refl _
  | endpoint index ok =>
      simp only [step]
      split
      · rename_i call found
        cases call with
        | lookUp webhook =>
            simp only [answer]
            split
            · split
              · exact .refl _
              · exact .refl _
            · exact .refl _
        | enqueue webhook =>
            simp only [answer]
            split
            · exact .refl _
            · exact .refl _
        | _ => exact .refl _
      · exact .refl _
  | expire eventId => exact .refl _
  | deliver index again =>
      simp only [step]
      split
      · exact .refl _
      · exact .refl _
  | process index ok =>
      simp only [step]
      split
      · rename_i task found
        exact onwards_process found right
      · exact .refl _
  | crash index =>
      simp only [step]
      split
      · exact .refl _
      · exact .refl _
  | patch body => exact .refl _
  | advance index =>
      simp only [step]
      split
      · rename_i call found
        cases call with
        | cancel meetingId => exact ⟨Nat.le_refl _, fun _ => rfl⟩
        | update meeting body => exact ⟨Nat.le_refl _, id⟩
        | _ => exact .refl _
      · exact .refl _

/-- One artifact of a kind, and as many transcripts as events that were or will be emitted. -/
structure Stored (s : RecallDesk) : Prop where
  single : ∀ kind, s.artifactsOf kind ≤ 1
  emitted : s.ready + (s.tasks.map RecallTask.emits).sum ≤ s.artifactsOf .transcript

theorem Stored.frame (h : s.Stored) (artifacts : s'.artifacts = s.artifacts)
    (ready : s'.ready = s.ready)
    (tasks : (s'.tasks.map RecallTask.emits).sum = (s.tasks.map RecallTask.emits).sum) :
    s'.Stored where
  single := by
    intro kind
    rw [artifactsOf, artifacts]
    exact h.single kind
  emitted := by
    rw [artifactsOf, artifacts, ready, tasks]
    exact h.emitted

/-- A task goes on that emits no event and is about to emit none. -/
theorem Stored.put (h : s.Stored) {index : Nat} {old new : RecallTask}
    (found : s.tasks[index]? = some old) (tasks : s'.tasks = s.tasks.set index new)
    (artifacts : s'.artifacts = s.artifacts) (ready : s'.ready + new.emits ≤ s.ready + old.emits) :
    s'.Stored where
  single := by
    intro kind
    rw [artifactsOf, artifacts]
    exact h.single kind
  emitted := by
    have total := sum_map_set found new RecallTask.emits
    have before := h.emitted
    rw [artifactsOf, artifacts, tasks]
    rw [artifactsOf] at before
    omega

theorem artifactsOf_ingested (meeting : Meeting) (transcript recording : Bool)
    (kind : ArtifactKind) :
    (ingested meeting transcript recording).countP (·.kind = kind) =
      (if transcript ∧ kind = .transcript then 1 else 0) +
        if recording ∧ kind = .recording then 1 else 0 := by
  cases transcript <;> cases recording <;> cases kind <;> rfl

theorem Stored.commit (h : s.Stored) {index : Nat} {loaded : Meeting} {webhook : RecallWebhook}
    {transcript recording : Bool}
    (found : s.tasks[index]? = some (.commit loaded webhook transcript recording))
    (done : webhook.status = .done → transcript = true)
    (noTranscript : transcript = true → s.artifactsOf .transcript = 0)
    (noRecording : recording = true → s.artifactsOf .recording = 0) :
    (s.process index true (.commit loaded webhook transcript recording)).Stored := by
  have counts : ∀ kind,
      (s.process index true (.commit loaded webhook transcript recording)).artifactsOf kind =
        s.artifactsOf kind + ((if transcript ∧ kind = .transcript then 1 else 0) +
          if recording ∧ kind = .recording then 1 else 0) := by
    intro kind
    rw [← artifactsOf_ingested loaded]
    exact List.countP_append
  refine ⟨?_, ?_⟩
  · intro kind
    rw [counts]
    have before := h.single kind
    cases kind with
    | transcript =>
        cases transcript with
        | true => simp [noTranscript rfl]
        | false => simpa using before
    | recording =>
        cases recording with
        | true => simp [noRecording rfl]
        | false => simpa using before
    | summary => simpa using before
  · rw [counts]
    have total := sum_map_set found (if webhook.status = .done then .emit webhook else .done)
      RecallTask.emits
    have before := h.emitted
    change s.ready + ((s.tasks.set index _).map RecallTask.emits).sum ≤ _
    by_cases finished : webhook.status = .done
    · have stores := done finished
      have none := noTranscript stores
      simp only [if_pos finished, RecallTask.emits] at total ⊢
      simp only [stores, and_self, if_true]
      omega
    · simp only [if_neg finished, RecallTask.emits] at total ⊢
      omega

theorem Stored.process (h : s.Stored) {index : Nat} {ok : Bool} {task : RecallTask}
    (found : s.tasks[index]? = some task)
    (right : s.convergesRight (.process index ok) = true) :
    (s.process index ok task).Stored := by
  simp only [convergesRight, found] at right
  cases task with
  | select webhook =>
      simp only [RecallDesk.process]
      split
      · split
        · exact h.put found rfl rfl (Nat.le_refl _)
        · exact h.put found rfl rfl (Nat.le_refl _)
      · exact h.put found rfl rfl (Nat.le_refl _)
  | transcript meeting webhook => exact h.put found rfl rfl (Nat.le_refl _)
  | recording meeting webhook transcript => exact h.put found rfl rfl (Nat.le_refl _)
  | commit meeting webhook transcript recording =>
      cases ok with
      | true =>
          simp only [if_true, Bool.and_eq_true, Bool.or_eq_true, decide_eq_true_eq,
            Bool.not_eq_true'] at right
          obtain ⟨⟨⟨-, ends⟩, noTranscript⟩, noRecording⟩ := right
          refine h.commit found ?_ ?_ ?_
          · exact fun done => (ends.resolve_left (not_not_intro done)).2
          · rintro rfl
            exact noTranscript.resolve_left nofun
          · rintro rfl
            exact noRecording.resolve_left nofun
      | false => exact h.put found rfl rfl (Nat.le_refl _)
  | emit webhook =>
      refine h.put found rfl rfl ?_
      cases ok with
      | true => exact Nat.le_refl _
      | false => exact Nat.le_succ _
  | done => exact h

theorem Stored.step (h : s.Stored) (event : RecallEvent)
    (right : s.convergesRight event = true) : (s.step event).Stored := by
  cases event with
  | joining botId =>
      simp only [RecallDesk.step]
      split
      · exact h.frame rfl rfl rfl
      · exact h
  | webhook webhook => exact h.frame rfl rfl rfl
  | endpoint index ok =>
      simp only [RecallDesk.step]
      split
      · rename_i call found
        cases call with
        | lookUp webhook =>
            simp only [answer]
            split
            · split
              · exact h.frame rfl rfl rfl
              · exact h.frame rfl rfl rfl
            · exact h.frame rfl rfl rfl
        | setex webhook => exact h.frame rfl rfl rfl
        | enqueue webhook =>
            simp only [answer]
            split
            · exact h.frame rfl rfl rfl
            · exact h.frame rfl rfl rfl
        | _ => exact h
      · exact h
  | expire eventId => exact h.frame rfl rfl rfl
  | deliver index again =>
      simp only [RecallDesk.step]
      split
      · exact h.frame rfl rfl (by simp [RecallTask.emits])
      · exact h
  | process index ok =>
      simp only [RecallDesk.step]
      split
      · rename_i task found
        exact h.process found right
      · exact h
  | crash index =>
      simp only [RecallDesk.step]
      split
      · rename_i task found
        exact h.put found rfl rfl (Nat.add_le_add_left (Nat.zero_le _) _)
      · exact h
  | patch body => exact h.frame rfl rfl rfl
  | advance index =>
      simp only [RecallDesk.step]
      split
      · rename_i call found
        unfold advancePatch
        split
        all_goals exact h.frame rfl rfl rfl
      · exact h

/-! ## Runs -/

structure Sound (s : RecallDesk) : Prop where
  covered : s.Covered
  stored : s.Stored

theorem start_sound (meeting : Meeting) : (start meeting).Sound where
  covered :=
    { covered := fun _ mem => nomatch mem
      origin := Or.inl (show BotStatus.requested.rank ≤ 2 by decide)
      calls := fun _ mem => nomatch mem
      queue := fun _ mem => nomatch mem
      tasks := fun _ mem => nomatch mem
      behind := fun _ mem => nomatch mem }
  stored := ⟨fun _ => Nat.zero_le 1, Nat.zero_le _⟩

/-- Nothing is to come any more, so all that was received is written. -/
theorem Covered.furthest (h : s.Covered) (settled : s.settled = true) (some : s.received ≠ []) :
    s.Furthest := by
  have written : ∀ status ∈ s.received, status.botStatus.rank ≤ s.meeting.botStatus.rank := by
    intro status mem
    rcases covers_iff.1 (h.covered status mem) with written | ⟨other, pending, -⟩
    · exact written
    · simp only [RecallDesk.settled, Bool.and_eq_true, List.all_eq_true, List.isEmpty_iff,
        Option.isNone_iff_eq_none] at settled
      obtain ⟨⟨calls, queue⟩, tasks⟩ := settled
      rcases pending with ⟨call, memCall, carries⟩ | ⟨webhook, memQueue, -⟩ |
        ⟨task, memTask, carries⟩
      · rw [calls call memCall] at carries
        cases carries
      · rw [queue] at memQueue
        cases memQueue
      · obtain ⟨webhook, has, -⟩ := RecallTask.webhook_of_carries carries
        rw [tasks task memTask] at has
        cases has
  rcases h.origin with early | ⟨status, mem, same⟩
  · obtain ⟨status, mem⟩ := List.exists_mem_of_ne_nil _ some
    have joining : s.meeting.botStatus = status.botStatus := by
      have below := written status mem
      generalize s.meeting.botStatus = now at early below
      cases status <;> cases now <;> simp_all [RecallStatus.botStatus, BotStatus.rank]
    exact ⟨status, mem, joining, joining ▸ written⟩
  · exact ⟨status, mem, same.symm, same ▸ written⟩

theorem Sound.step (h : s.Sound) (event : RecallEvent) (right : s.convergesRight event = true) :
    (s.step event).Sound := ⟨h.covered.step event right, h.stored.step event right⟩

theorem onwards_run {first events : List RecallEvent} {meeting : Meeting}
    (before : first <+: events)
    (right : Guarded step (fun s event => s.convergesRight event = true) (start meeting) events) :
    Onwards (run meeting first).meeting (run meeting events).meeting := by
  obtain ⟨rest, rfl⟩ := before
  have keeps : ∀ (s : RecallDesk) (event : RecallEvent), s.convergesRight event = true →
      Onwards (run meeting first).meeting s.meeting →
      Onwards (run meeting first).meeting (s.step event).meeting :=
    fun s event right h => h.trans (onwards_step s event right)
  have onwards : run meeting (first ++ rest) = runFrom step (run meeting first) rest :=
    runFrom_append step (start meeting) first rest
  rw [onwards]
  exact runFrom_invariant_of_guarded keeps (.refl _) right.suffix

def inCall : Meeting := newMeeting "meeting" "collab" ⟨0, Scheduling.hour, true⟩ "event"

/-- A webhook passes the endpoint, as call `index`. -/
def posted (index : Nat) (webhook : RecallWebhook) : List RecallEvent :=
  .webhook webhook :: List.replicate 3 (.endpoint index)

/-- The task at the head of the queue is delivered and runs to its end. -/
def worked (index : Nat) : List RecallEvent :=
  .deliver 0 :: List.replicate 5 (.process index)

def joiningCall : RecallWebhook := { eventId := some "e1", status := .joiningCall }

def callEnded : RecallWebhook := { eventId := some "e2", status := .callEnded }

def finished : RecallWebhook where
  eventId := some "e3"
  status := .done
  transcriptUrl := some "transcript"
  recordingUrl := some "recording"

/-- Each status comes in its order, and the first and the last come twice. -/
def recorded : List RecallEvent :=
  .joining "bot" :: posted 0 joiningCall ++ worked 0 ++ posted 1 joiningCall ++
    posted 2 callEnded ++ worked 1 ++ posted 3 finished ++ worked 2 ++ posted 4 finished

/-- The webhooks of the end of the call and of its beginning arrive in this order. -/
def overtaken : List RecallEvent :=
  .joining "bot" :: posted 0 callEnded ++ worked 0 ++ posted 1 joiningCall ++ worked 1

/-- The last webhook comes twice without an event id. -/
def ingestedTwice : List RecallEvent :=
  .joining "bot" :: posted 0 { finished with eventId := none } ++ worked 0 ++
    posted 1 { finished with eventId := none } ++ worked 1

/-- The meeting is cancelled before the last webhook. -/
def cancelledBefore : List RecallEvent :=
  [.joining "bot", .patch { cancel := true }, .advance 0, .advance 0] ++ posted 0 finished ++
    worked 0

/-- The transcript cannot be downloaded. -/
def withoutTranscript : List RecallEvent :=
  .joining "bot" :: posted 0 finished ++
    [.deliver 0, .process 0, .process 0 false, .process 0, .process 0, .process 0]

/-- A webhook is sent again after the task could not be queued. -/
def droppedAgain : List RecallEvent :=
  [.joining "bot", .webhook callEnded, .endpoint 0, .endpoint 0, .endpoint 0 false] ++
    posted 1 callEnded

end RecallDesk

end ColabPlatform.Meetings
