import ColabPlatform.Foundation.Interleaving
import ColabPlatform.Meetings.Scheduling

/-!
# Recording bots and consent

The consents to the recording of a meeting raise the flag `bot_status = requested`, and the
tasks that create a Recall bot read this flag alone.  The file follows the requests and the
tasks of one meeting from await to await, keeps for every bot that is created who consented
at that moment, and finds the runs in which no bot comes without consent.
-/

namespace ColabPlatform.Meetings

open Foundation

/-! ## Consents -/

structure MeetingBotConsent where
  profileId : String
  consentedAt : Int
  revokedAt : Option Int := none
  deriving DecidableEq, Repr

abbrev ConsentTable :=
  Table MeetingBotConsent (fun consent => consent.profileId) (noAlt MeetingBotConsent)

namespace ConsentTable

def active (t : ConsentTable) : List MeetingBotConsent :=
  t.rows.filter (·.revokedAt.isNone)

def consents (t : ConsentTable) (profileId : String) : Bool :=
  (t.lookup profileId).any (·.revokedAt.isNone)

/-- `on_conflict_do_update(constraint="uq_consent_meeting_profile")` -/
def upsert (t : ConsentTable) (profileId : String) (now : Int) : ConsentTable :=
  (t.insert? ⟨profileId, now, none⟩).getD
    (t.modify profileId fun consent => { consent with consentedAt := now, revokedAt := none })

def revoke (t : ConsentTable) (profileId : String) (now : Int) : ConsentTable :=
  t.modify profileId fun consent => { consent with revokedAt := some now }

end ConsentTable

/-! ## Requests and tasks -/

inductive BotAnswer where
  | botNotEnabled
  | notActive
  | consented (bothConsented : Bool)
  | alreadyDispatched
  | noActiveConsent
  | consentRevoked
  | bothMustConsent
  | started (botStatus : BotStatus) (recallBotId : Option String)
  | serverError
  deriving DecidableEq, Repr

/-- A request, with what it does next; `meeting` is the row that it has loaded. -/
inductive BotCall where
  | giveConsent (profileId : String)
  | giveUpsert (profileId : String) (meeting : Meeting)
  | giveCommit (profileId : String) (bothConsented requests : Bool)
  | revokeConsent (profileId : String)
  | revokeSelect (profileId : String) (meeting : Meeting)
  | revokeCommit (profileId : String) (meeting : Meeting)
  | startBot
  | startCount (meeting : Meeting)
  | startCommit (meeting : Meeting)
  | startEnqueue
  | answered (answer : BotAnswer)
  | patch (call : SchedulingCall)
  deriving DecidableEq, Repr

/-- What comes of one POST of a bot. -/
inductive CreateOutcome where
  | created (botId : String)
  /-- Recall has made the bot, and the answer is lost or has a status that is tried again -/
  | lost
  /-- the bot is made, and no id can be read from the answer -/
  | garbled
  | unavailable
  | refused
  deriving DecidableEq, Repr

def CreateOutcome.made : CreateOutcome → Bool
  | .created _ | .lost | .garbled => true
  | .unavailable | .refused => false

/-- A task `dispatch_recall_bot`, with what it does next. -/
inductive DispatchPhase where
  | select
  | create (attempt : Nat)
  | commitJoining (botId : String)
  /-- whether the last POST has made a bot -/
  | commitFailed (made : Bool)
  | done
  deriving DecidableEq, Repr

/-- A bot that was created, with the status of the meeting and the participants whose
consents were in force. -/
structure MadeBot where
  status : MeetingStatus
  consenting : List String
  deriving DecidableEq, Repr

/-- One meeting with its requests and its tasks. -/
structure BotDesk where
  meeting : Meeting
  /-- of the collaboration -/
  participants : List String
  consents : ConsentTable
  now : Int
  /-- the etas of the tasks in the queue -/
  queue : List (Option Int)
  calls : List BotCall
  tasks : List DispatchPhase
  bots : List MadeBot

inductive BotEvent where
  | wait (duration : Nat)
  | giveConsent (profileId : String)
  | revokeConsent (profileId : String)
  | startBot
  | patch (body : MeetingPatchRequest)
  | advance (index : Nat) (ok : Bool := true)
  /-- the broker delivers a task, and may deliver it again -/
  | deliver (index : Nat) (again : Bool := false)
  | dispatch (index : Nat) (ok : Bool := true) (outcome : CreateOutcome := .created "bot")
  /-- the worker of a task is lost, and the task goes back to the queue -/
  | crash (index : Nat)
  /-- a status of the bot has been processed -/
  | webhook (status : RecallStatus)

/-- `_MAX_RETRIES` -/
def maxRetries : Nat := 3

namespace BotDesk

/-- A meeting that has just been created. -/
def start (meeting : Meeting) (participants : List String) : BotDesk where
  meeting := { meeting with status := .scheduled, botStatus := .none, recallBotId := none }
  participants := participants
  consents := .empty
  now := 0
  queue := []
  calls := []
  tasks := []
  bots := []

def put (s : BotDesk) (index : Nat) (call : BotCall) : BotDesk :=
  { s with calls := s.calls.set index call }

def answer (s : BotDesk) (index : Nat) (answer : BotAnswer) : BotDesk :=
  s.put index (.answered answer)

def putTask (s : BotDesk) (index : Nat) (phase : DispatchPhase) : BotDesk :=
  { s with tasks := s.tasks.set index phase }

def setBotStatus (s : BotDesk) (status : BotStatus) : BotDesk :=
  { s with meeting := { s.meeting with botStatus := status } }

/-- The participants with a consent that is not revoked. -/
def consenting (s : BotDesk) : List String := s.participants.filter s.consents.consents

/-- `patch_meeting`, as far as it concerns this meeting. -/
def advancePatch (s : BotDesk) (index : Nat) : SchedulingCall → BotDesk
  | .select _ body => s.put index (.patch (Scheduling.selected s.meeting body))
  | .cancel _ =>
      { s.put index (.patch (.answered .updated)) with meeting := s.meeting.cancelled }
  | .patchEvent meeting body => s.put index (.patch (.update meeting body))
  | .update meeting body =>
      { s.put index (.patch (.answered .updated)) with
        meeting := meeting.reschedule body s.meeting }
  | _ => s

/-- The next statement of a request, or of its call to the broker or the calendar. -/
def advance (s : BotDesk) (index : Nat) : BotCall → BotDesk
  | .giveConsent profileId =>
      if s.meeting.botEnabled = false then s.answer index .botNotEnabled
      else if s.meeting.status = .ended ∨ s.meeting.status = .cancelled then
        s.answer index .notActive
      else s.put index (.giveUpsert profileId s.meeting)
  | .giveUpsert profileId meeting =>
      -- the task is sent before the transaction is committed
      if 2 ≤ (s.consents.upsert profileId s.now).active.length then
        if meeting.botStatus = .none then
          { s.put index (.giveCommit profileId true true) with
            queue := s.queue ++ [some meeting.scheduledAt] }
        else s.put index (.giveCommit profileId true false)
      else s.put index (.giveCommit profileId false false)
  | .giveCommit profileId bothConsented requests =>
      let stored := { s.answer index (.consented bothConsented) with
        consents := s.consents.upsert profileId s.now }
      if requests then stored.setBotStatus .requested else stored
  | .revokeConsent profileId =>
      if s.meeting.botStatus = .none ∨ s.meeting.botStatus = .requested then
        s.put index (.revokeSelect profileId s.meeting)
      else s.answer index .alreadyDispatched
  | .revokeSelect profileId meeting =>
      if s.consents.consents profileId then s.put index (.revokeCommit profileId meeting)
      else s.answer index .noActiveConsent
  | .revokeCommit profileId meeting =>
      let stored := { s.answer index .consentRevoked with
        consents := s.consents.revoke profileId s.now }
      if meeting.botStatus = .requested then stored.setBotStatus .none else stored
  | .startBot =>
      if s.meeting.botEnabled = false then s.answer index .botNotEnabled
      else s.put index (.startCount s.meeting)
  | .startCount meeting =>
      if s.consents.active.length < 2 then s.answer index .bothMustConsent
      else if meeting.botStatus = .none ∨ meeting.botStatus = .requested then
        s.put index (.startCommit meeting)
      else s.answer index (.started meeting.botStatus meeting.recallBotId)
  | .startCommit meeting =>
      -- a status that was loaded as requested is not written again
      if meeting.botStatus = .requested then s.put index .startEnqueue
      else (s.put index .startEnqueue).setBotStatus .requested
  | .startEnqueue =>
      { s.answer index (.started .requested none) with queue := s.queue ++ [none] }
  | .answered _ => s
  | .patch call => s.advancePatch index call

/-- A statement or a call that fails ends the request, and its transaction is rolled back. -/
def fail (s : BotDesk) (index : Nat) : BotCall → BotDesk
  | .answered _ | .patch (.answered _) => s
  | .patch (.patchEvent _ _) => s.put index (.patch (.answered .calendarFailed))
  | _ => s.answer index .serverError

/-- The next statement of a task, or its next POST. -/
def dispatch (s : BotDesk) (index : Nat) (ok : Bool) (outcome : CreateOutcome) :
    DispatchPhase → BotDesk
  | .select =>
      s.putTask index (if ok && s.meeting.botStatus = .requested then .create 0 else .done)
  | .create attempt =>
      { s.putTask index (match outcome with
          | .created botId => .commitJoining botId
          | .lost | .unavailable =>
              if attempt + 1 < maxRetries then .create (attempt + 1)
              else .commitFailed outcome.made
          | .garbled | .refused => .commitFailed outcome.made) with
        bots := if outcome.made then s.bots ++ [⟨s.meeting.status, s.consenting⟩] else s.bots }
  | .commitJoining botId =>
      -- after a commit that fails the second one raises as well
      if ok then
        { s.putTask index .done with
          meeting := { s.meeting with recallBotId := some botId, botStatus := .joining } }
      else s.putTask index .done
  | .commitFailed _ =>
      if ok then (s.putTask index .done).setBotStatus .failed else s.putTask index .done
  | .done => s

def step (s : BotDesk) : BotEvent → BotDesk
  | .wait duration => { s with now := s.now + duration }
  | .giveConsent profileId => { s with calls := s.calls ++ [.giveConsent profileId] }
  | .revokeConsent profileId => { s with calls := s.calls ++ [.revokeConsent profileId] }
  | .startBot => { s with calls := s.calls ++ [.startBot] }
  | .patch body => { s with calls := s.calls ++ [.patch (.select s.meeting.id body)] }
  | .advance index ok =>
      match s.calls[index]? with
      | some call => if ok then s.advance index call else s.fail index call
      | none => s
  | .deliver index again =>
      match s.queue[index]? with
      | some eta =>
          if eta.all (· ≤ s.now) then
            { s with
              queue := if again then s.queue else s.queue.eraseIdx index
              tasks := s.tasks ++ [.select] }
          else s
      | none => s
  | .dispatch index ok outcome =>
      match s.tasks[index]? with
      | some phase => s.dispatch index ok outcome phase
      | none => s
  | .crash index =>
      match s.tasks[index]? with
      | some phase =>
          if phase = .done then s
          else { s.putTask index .done with queue := s.queue ++ [none] }
      | none => s
  | .webhook status =>
      if s.meeting.recallBotId.isSome then
        { s with
          meeting := { s.meeting with
            botStatus := status.botStatus
            status := if status = .done then .ended else s.meeting.status } }
      else s

def run (meeting : Meeting) (participants : List String) (events : List BotEvent) : BotDesk :=
  runFrom step (start meeting participants) events

/-! ## What is promised -/

structure Consented (s : BotDesk) : Prop where
  allowed : ∀ bot ∈ s.bots, bot.status ≠ .cancelled ∧ bot.status ≠ .ended ∧
    ∃ a ∈ bot.consenting, ∃ b ∈ bot.consenting, a ≠ b
  single : s.bots.length ≤ 1

/-! ## The runs in which it is kept -/

def bothConsent (participants : List String) (consents : ConsentTable) : Bool :=
  participants.any fun a => participants.any fun b =>
    a ≠ b && consents.consents a && consents.consents b

def active (s : BotDesk) : Bool := s.meeting.status ≠ .cancelled && s.meeting.status ≠ .ended

/-- A bot may be created now. -/
def allowed (s : BotDesk) : Bool := s.active && bothConsent s.participants s.consents

/-- The flag says that no bot has been dispatched. -/
def undispatched (s : BotDesk) : Bool :=
  s.meeting.botStatus = .none || s.meeting.botStatus = .requested

end BotDesk

namespace DispatchPhase

def creates : DispatchPhase → Bool
  | .create _ => true
  | _ => false

/-- The task has made a bot, and the flag does not say so yet. -/
def unsettled : DispatchPhase → Bool
  | .commitJoining _ => true
  | .commitFailed made => made
  | _ => false

def busy (phase : DispatchPhase) : Bool := phase.creates || phase.unsettled

theorem unsettled_of_creates {phase : DispatchPhase} (creates : phase.creates = true) :
    phase.unsettled = false := by
  cases phase with
  | create attempt => rfl
  | _ => cases creates

end DispatchPhase

namespace BotDesk

def requestKeeps (s : BotDesk) : BotCall → Bool
  | .giveCommit profileId _ requests =>
      !requests || s.undispatched && s.active &&
        bothConsent s.participants (s.consents.upsert profileId s.now)
  | .revokeCommit profileId meeting =>
      let remain := bothConsent s.participants (s.consents.revoke profileId s.now)
      (remain || s.tasks.all (!·.creates)) &&
        if meeting.botStatus = .requested then s.undispatched
        else remain || s.meeting.botStatus ≠ .requested
  | .startCommit meeting => meeting.botStatus = .requested || s.undispatched && s.allowed
  | .patch (.cancel _) => s.meeting.botStatus ≠ .requested && s.tasks.all (!·.creates)
  | _ => true

/-- The flag is raised only while a bot is allowed and none was dispatched, and lowered or a
consent revoked only where no task relies on it; a meeting is cancelled only while the flag is
down and no task is creating; one task at a time creates, by a POST that is not repeated after
it has made a bot, and says so in the flag. -/
def keepsConsent (s : BotDesk) : BotEvent → Bool
  | .advance index ok =>
      match s.calls[index]? with
      | some call => !ok || s.requestKeeps call
      | none => true
  | .dispatch index ok outcome =>
      match s.tasks[index]? with
      | some .select => !ok || s.meeting.botStatus ≠ .requested || s.tasks.all (!·.busy)
      | some (.create attempt) => outcome ≠ .lost || maxRetries ≤ attempt + 1
      | some phase => ok || !phase.unsettled || !s.undispatched
      | none => true
  | .crash index =>
      match s.tasks[index]? with
      | some phase => !phase.unsettled || !s.undispatched
      | none => true
  | _ => true

/-! ## Consent -/

end BotDesk

namespace ConsentTable

theorem consents_upsert (t : ConsentTable) (profileId other : String) (now : Int) :
    (t.upsert profileId now).consents other = (t.consents other || profileId = other) := by
  rw [upsert, consents, consents]
  cases inserted : t.insert? ⟨profileId, now, none⟩ with
  | some t' =>
      rw [Option.getD_some, Table.lookup_insert inserted]
      by_cases same : profileId = other
      · simp [same]
      · simp [same]
  | none =>
      rw [Option.getD_none, Table.lookup_modify]
      by_cases same : profileId = other
      · subst same
        have taken : t.lookup profileId ≠ none :=
          (Table.insert?_eq_none_iff_of_null rfl).1 inserted
        obtain ⟨consent, found⟩ := Option.ne_none_iff_exists'.1 taken
        simp [found]
      · simp [same]

end ConsentTable

namespace BotDesk

variable {s s' : BotDesk}

theorem bothConsent_iff {participants : List String} {consents : ConsentTable} :
    bothConsent participants consents = true ↔
      ∃ a ∈ participants.filter consents.consents, ∃ b ∈ participants.filter consents.consents,
        a ≠ b := by
  simp only [bothConsent, List.any_eq_true, Bool.and_eq_true, decide_eq_true_eq,
    List.mem_filter]
  constructor
  · rintro ⟨a, memA, b, memB, ⟨apart, consentA⟩, consentB⟩
    exact ⟨a, ⟨memA, consentA⟩, b, ⟨memB, consentB⟩, apart⟩
  · rintro ⟨a, ⟨memA, consentA⟩, b, ⟨memB, consentB⟩, apart⟩
    exact ⟨a, memA, b, memB, ⟨apart, consentA⟩, consentB⟩

/-- A consent takes nothing away. -/
theorem bothConsent_upsert {profileId : String} {now : Int}
    (h : bothConsent s.participants s.consents = true) :
    bothConsent s.participants (s.consents.upsert profileId now) = true := by
  obtain ⟨a, memA, b, memB, apart⟩ := bothConsent_iff.1 h
  have still : ∀ c ∈ s.participants.filter s.consents.consents,
      c ∈ s.participants.filter (s.consents.upsert profileId now).consents := by
    intro c mem
    obtain ⟨participant, consents⟩ := List.mem_filter.1 mem
    apply List.mem_filter.2
    rw [ConsentTable.consents_upsert, consents]
    exact ⟨participant, rfl⟩
  exact bothConsent_iff.2 ⟨a, still a memA, b, still b memB, apart⟩

/-! ## Flag, tasks and bots -/

/-- What the flag and the phases of the tasks say about consent and about the bots. -/
structure Sound (s : BotDesk) : Prop where
  made : s.Consented
  requested : s.meeting.botStatus = .requested → s.allowed = true
  creating : ∀ phase ∈ s.tasks, phase.creates = true → s.allowed = true ∧ s.bots = []
  unsettled : s.undispatched = true →
    s.bots = [] ∨ ∃ phase ∈ s.tasks, phase.unsettled = true
  alone : AtMostOne DispatchPhase.busy s.tasks
  identified : s.meeting.recallBotId.isSome = true → s.bots ≠ []
  joining : ∀ botId, .commitJoining botId ∈ s.tasks → s.bots ≠ []

/-! ### Requests -/

/-- A request changes the meeting and the consents. -/
theorem Sound.request (h : s.Sound) (tasks : s'.tasks = s.tasks) (bots : s'.bots = s.bots)
    (identified : s'.meeting.recallBotId = s.meeting.recallBotId)
    (requested : s'.meeting.botStatus = .requested → s'.allowed = true)
    (creating : ∀ phase ∈ s.tasks, phase.creates = true → s.allowed = true → s'.allowed = true)
    (undispatched : s'.undispatched = true → s.undispatched = true) : s'.Sound where
  made := ⟨fun bot mem => h.made.allowed bot (bots ▸ mem), bots ▸ h.made.single⟩
  requested := requested
  creating := by
    intro phase mem creates
    rw [tasks] at mem
    rw [bots]
    obtain ⟨allowed, none⟩ := h.creating phase mem creates
    exact ⟨creating phase mem creates allowed, none⟩
  unsettled := by
    intro now
    rw [tasks, bots]
    exact h.unsettled (undispatched now)
  alone := tasks ▸ h.alone
  identified := by
    rw [identified, bots]
    exact h.identified
  joining := by
    rw [tasks, bots]
    exact h.joining

/-- Neither the flag nor consent changes. -/
theorem Sound.keep (h : s.Sound) (tasks : s'.tasks = s.tasks) (bots : s'.bots = s.bots)
    (identified : s'.meeting.recallBotId = s.meeting.recallBotId)
    (flag : s'.meeting.botStatus = s.meeting.botStatus)
    (allowed : s.allowed = true → s'.allowed = true) : s'.Sound := by
  refine h.request tasks bots identified ?_ (fun _ _ _ => allowed) ?_
  · rw [flag]
    exact fun requested => allowed (h.requested requested)
  · rw [undispatched, undispatched, flag]
    exact id

theorem Sound.put (h : s.Sound) (index : Nat) (call : BotCall) : (s.put index call).Sound :=
  h.keep rfl rfl rfl rfl id

theorem Sound.giveCommit (h : s.Sound) {index : Nat} {profileId : String}
    {bothConsented requests : Bool}
    (right : s.requestKeeps (.giveCommit profileId bothConsented requests) = true) :
    (s.advance index (.giveCommit profileId bothConsented requests)).Sound := by
  have grows : ∀ {active : Bool}, (active && bothConsent s.participants s.consents) = true →
      (active && bothConsent s.participants (s.consents.upsert profileId s.now)) = true := by
    intro active both
    obtain ⟨isActive, consent⟩ := Bool.and_eq_true_iff.1 both
    exact Bool.and_eq_true_iff.2 ⟨isActive, bothConsent_upsert consent⟩
  cases requests with
  | false => exact h.keep rfl rfl rfl rfl grows
  | true =>
      simp only [requestKeeps, Bool.not_true, Bool.false_or, Bool.and_eq_true] at right
      obtain ⟨⟨undispatched, active⟩, both⟩ := right
      refine h.request rfl rfl rfl (fun _ => ?_) (fun _ _ _ => grows) fun _ => undispatched
      exact Bool.and_eq_true_iff.2 ⟨active, both⟩

theorem Sound.revokeCommit (h : s.Sound) {index : Nat} {profileId : String} {meeting : Meeting}
    (right : s.requestKeeps (.revokeCommit profileId meeting) = true) :
    (s.advance index (.revokeCommit profileId meeting)).Sound := by
  simp only [requestKeeps, Bool.and_eq_true] at right
  obtain ⟨free, flag⟩ := right
  have remains : s.allowed = true →
      bothConsent s.participants (s.consents.revoke profileId s.now) = true →
      (s.active && bothConsent s.participants (s.consents.revoke profileId s.now)) = true :=
    fun allowed remain => Bool.and_eq_true_iff.2 ⟨(Bool.and_eq_true_iff.1 allowed).1, remain⟩
  have creating : ∀ phase ∈ s.tasks, phase.creates = true → s.allowed = true →
      (s.active && bothConsent s.participants (s.consents.revoke profileId s.now)) = true := by
    intro phase mem creates allowed
    rcases Bool.or_eq_true_iff.1 free with remain | idle
    · exact remains allowed remain
    · have := List.all_eq_true.1 idle phase mem
      simp [creates] at this
  simp only [advance]
  split
  · rename_i loaded
    rw [if_pos loaded] at flag
    exact h.request rfl rfl rfl nofun creating fun _ => flag
  · rename_i loaded
    rw [if_neg loaded] at flag
    refine h.request rfl rfl rfl ?_ creating id
    intro requested
    rcases Bool.or_eq_true_iff.1 flag with remain | down
    · exact remains (h.requested requested) remain
    · exact absurd requested (of_decide_eq_true down)

theorem Sound.startCommit (h : s.Sound) {index : Nat} {meeting : Meeting}
    (right : s.requestKeeps (.startCommit meeting) = true) :
    (s.advance index (.startCommit meeting)).Sound := by
  simp only [advance]
  split
  · exact h.put index _
  · rename_i loaded
    simp only [requestKeeps, loaded, decide_false, Bool.false_or, Bool.and_eq_true] at right
    exact h.request rfl rfl rfl (fun _ => right.2) (fun _ _ _ => id) fun _ => right.1

theorem Sound.cancel (h : s.Sound) {index : Nat} {meetingId : String}
    (right : s.requestKeeps (.patch (.cancel meetingId)) = true) :
    (s.advance index (.patch (.cancel meetingId))).Sound := by
  simp only [requestKeeps, Bool.and_eq_true, decide_eq_true_eq] at right
  refine h.request rfl rfl rfl (fun requested => absurd requested right.1) ?_ id
  intro phase mem creates
  have := List.all_eq_true.1 right.2 phase mem
  simp [creates] at this

theorem Sound.advance (h : s.Sound) {index : Nat} {call : BotCall}
    (right : s.requestKeeps call = true) : (s.advance index call).Sound := by
  cases call with
  | giveConsent profileId =>
      simp only [BotDesk.advance]
      split
      · exact h.put index _
      · split
        · exact h.put index _
        · exact h.put index _
  | giveUpsert profileId meeting =>
      simp only [BotDesk.advance]
      split
      · split
        · exact h.keep rfl rfl rfl rfl id
        · exact h.put index _
      · exact h.put index _
  | giveCommit profileId bothConsented requests => exact h.giveCommit right
  | revokeConsent profileId =>
      simp only [BotDesk.advance]
      split
      · exact h.put index _
      · exact h.put index _
  | revokeSelect profileId meeting =>
      simp only [BotDesk.advance]
      split
      · exact h.put index _
      · exact h.put index _
  | revokeCommit profileId meeting => exact h.revokeCommit right
  | startBot =>
      simp only [BotDesk.advance]
      split
      · exact h.put index _
      · exact h.put index _
  | startCount meeting =>
      simp only [BotDesk.advance]
      split
      · exact h.put index _
      · split
        · exact h.put index _
        · exact h.put index _
  | startCommit meeting => exact h.startCommit right
  | startEnqueue => exact h.keep rfl rfl rfl rfl id
  | answered answer => exact h
  | patch call =>
      cases call with
      | cancel meetingId => exact h.cancel right
      | update meeting body => exact h.keep rfl rfl rfl rfl id
      | select meetingId body => exact h.put index _
      | patchEvent meeting body => exact h.put index _
      | _ => exact h

theorem Sound.fail (h : s.Sound) (index : Nat) (call : BotCall) : (s.fail index call).Sound := by
  unfold BotDesk.fail
  split
  · exact h
  · exact h
  · exact h.put index _
  · exact h.put index _

/-! ### Tasks -/

/-- A task that has nothing more to do with a bot. -/
theorem Sound.settle (h : s.Sound) {index : Nat} {old new : DispatchPhase}
    (found : s.tasks[index]? = some old) (tasks : s'.tasks = s.tasks.set index new)
    (idle : new.busy = false) (bots : s'.bots = s.bots) (allowed : s'.allowed = s.allowed)
    (requested : s'.meeting.botStatus = .requested → s.meeting.botStatus = .requested)
    (undispatched : s'.undispatched = true → s.undispatched = true ∧ old.unsettled = false)
    (identified : s'.meeting.recallBotId.isSome = true →
      s.meeting.recallBotId.isSome = true ∨ ∃ botId, old = .commitJoining botId) : s'.Sound := by
  obtain ⟨notCreates, notUnsettled⟩ := Bool.or_eq_false_iff.1 idle
  have others : ∀ phase ∈ s'.tasks, phase ≠ new → phase ∈ s.tasks := by
    intro phase mem apart
    rw [tasks] at mem
    rcases mem_set_cases mem with same | ⟨j, -, atJ⟩
    · exact absurd same apart
    · exact List.mem_of_getElem? atJ
  exact
    { made := ⟨fun bot mem => h.made.allowed bot (bots ▸ mem), bots ▸ h.made.single⟩
      requested := fun now => allowed ▸ h.requested (requested now)
      creating := by
        intro phase mem creates
        rw [allowed, bots]
        refine h.creating phase (others phase mem ?_) creates
        rintro rfl
        rw [notCreates] at creates
        cases creates
      unsettled := by
        intro now
        obtain ⟨before, settled⟩ := undispatched now
        rw [bots]
        rcases h.unsettled before with none | ⟨phase, mem, unsettled⟩
        · exact Or.inl none
        · refine Or.inr ⟨phase, tasks ▸ mem_set_of_mem found mem ?_, unsettled⟩
          rintro rfl
          rw [settled] at unsettled
          cases unsettled
      alone := by
        rw [tasks]
        apply h.alone.set found
        intro busy
        rw [idle] at busy
        cases busy
      identified := by
        intro now
        rw [bots]
        rcases identified now with before | ⟨botId, rfl⟩
        · exact h.identified before
        · exact h.joining botId (List.mem_of_getElem? found)
      joining := by
        intro botId mem
        rw [bots]
        refine h.joining botId (others _ mem ?_)
        rintro rfl
        cases notUnsettled }

/-- A task that ends while the flag does not depend on it. -/
theorem Sound.drop (h : s.Sound) {index : Nat} {old : DispatchPhase}
    (found : s.tasks[index]? = some old)
    (right : old.unsettled = false ∨ s.undispatched = false) :
    (s.putTask index .done).Sound := by
  refine h.settle found rfl rfl rfl rfl id (fun now => ⟨now, ?_⟩) Or.inl
  rcases right with settled | dispatched
  · exact settled
  · have before : s.undispatched = true := now
    rw [dispatched] at before
    cases before

/-- A task begins to create, or goes on without having made a bot. -/
theorem Sound.create (h : s.Sound) {index : Nat} {old : DispatchPhase} (attempt : Nat)
    (found : s.tasks[index]? = some old) (allowed : s.allowed = true) (none : s.bots = [])
    (alone : old.busy = true ∨ ∀ phase ∈ s.tasks, phase.busy = false) :
    (s.putTask index (.create attempt)).Sound where
  made := ⟨h.made.allowed, h.made.single⟩
  requested := h.requested
  creating := fun _ _ _ => ⟨allowed, none⟩
  unsettled := fun _ => Or.inl none
  alone := h.alone.set found fun _ => alone
  identified := h.identified
  joining := by
    intro botId mem
    rcases mem_set_cases mem with same | ⟨j, -, atJ⟩
    · cases same
    · exact h.joining botId (List.mem_of_getElem? atJ)

/-- A bot is made. -/
theorem Sound.make (h : s.Sound) {index attempt : Nat} {new : DispatchPhase}
    (found : s.tasks[index]? = some (.create attempt)) (unsettled : new.unsettled = true)
    (tasks : s'.tasks = s.tasks.set index new) (meeting : s'.meeting = s.meeting)
    (allowed : s'.allowed = s.allowed)
    (bots : s'.bots = s.bots ++ [⟨s.meeting.status, s.consenting⟩]) : s'.Sound := by
  have here := List.mem_of_getElem? found
  obtain ⟨may, none⟩ := h.creating _ here rfl
  obtain ⟨active, both⟩ := Bool.and_eq_true_iff.1 may
  simp only [BotDesk.active, Bool.and_eq_true, decide_eq_true_eq] at active
  rw [none, List.nil_append] at bots
  have some : s'.bots ≠ [] := by
    rw [bots]
    nofun
  exact
    { made := by
        refine ⟨?_, by rw [bots]; exact Nat.le_refl 1⟩
        intro bot mem
        rw [bots] at mem
        obtain rfl := List.mem_singleton.1 mem
        exact ⟨active.1, active.2, bothConsent_iff.1 both⟩
      requested := by
        rw [meeting, allowed]
        exact h.requested
      creating := by
        intro phase mem creates
        rw [tasks] at mem
        rcases mem_set_cases mem with rfl | ⟨j, apart, atJ⟩
        · rw [DispatchPhase.unsettled_of_creates creates] at unsettled
          cases unsettled
        · have idle := h.alone.others found rfl apart atJ
          simp [DispatchPhase.busy, creates] at idle
      unsettled := fun _ => Or.inr ⟨new, tasks ▸ mem_set_of_found found, unsettled⟩
      alone := by
        rw [tasks]
        exact h.alone.set found fun _ => Or.inl rfl
      identified := fun _ => some
      joining := fun _ _ => some }

theorem Sound.dispatchCreate (h : s.Sound) {index attempt : Nat} {outcome : CreateOutcome}
    (found : s.tasks[index]? = some (.create attempt))
    (right : outcome ≠ .lost ∨ maxRetries ≤ attempt + 1) (ok : Bool) :
    (s.dispatch index ok outcome (.create attempt)).Sound := by
  have here := List.mem_of_getElem? found
  obtain ⟨allowed, none⟩ := h.creating _ here rfl
  cases outcome with
  | created botId => exact h.make found rfl rfl rfl rfl rfl
  | lost =>
      have last : ¬ attempt + 1 < maxRetries := by
        rcases right with other | last
        · exact absurd rfl other
        · omega
      simp only [BotDesk.dispatch, if_neg last]
      exact h.make found rfl rfl rfl rfl rfl
  | garbled => exact h.make found rfl rfl rfl rfl rfl
  | unavailable =>
      simp only [BotDesk.dispatch]
      split
      · exact h.create (attempt + 1) found allowed none (Or.inl rfl)
      · exact h.settle found rfl rfl rfl rfl id (fun now => ⟨now, rfl⟩) Or.inl
  | refused => exact h.settle found rfl rfl rfl rfl id (fun now => ⟨now, rfl⟩) Or.inl

theorem Sound.dispatch (h : s.Sound) {index : Nat} {phase : DispatchPhase} {ok : Bool}
    {outcome : CreateOutcome} (found : s.tasks[index]? = some phase)
    (right : s.keepsConsent (.dispatch index ok outcome) = true) :
    (s.dispatch index ok outcome phase).Sound := by
  simp only [keepsConsent, found] at right
  cases phase with
  | select =>
      simp only [BotDesk.dispatch]
      split
      · rename_i reads
        obtain ⟨rfl, flag⟩ := Bool.and_eq_true_iff.1 reads
        have requested := of_decide_eq_true flag
        simp only [requested, Bool.not_true, ne_eq, not_true, decide_false, Bool.false_or,
          List.all_eq_true, Bool.not_eq_true'] at right
        have none : s.bots = [] := by
          rcases h.unsettled (by simp [undispatched, requested]) with none | ⟨other, mem, made⟩
          · exact none
          · have idle := right other mem
            simp [DispatchPhase.busy, made] at idle
        exact h.create 0 found (h.requested requested) none (Or.inr right)
      · exact h.drop found (Or.inl rfl)
  | create attempt =>
      apply h.dispatchCreate found
      simpa using right
  | commitJoining botId =>
      simp only [BotDesk.dispatch]
      split
      · exact h.settle found rfl rfl rfl rfl nofun nofun fun _ => Or.inr ⟨botId, rfl⟩
      · rename_i failed
        refine h.drop found ?_
        simpa [failed] using right
  | commitFailed made =>
      simp only [BotDesk.dispatch]
      split
      · exact h.settle found rfl rfl rfl rfl nofun nofun Or.inl
      · rename_i failed
        refine h.drop found ?_
        simpa [failed] using right
  | done => exact h

/-- A task begins. -/
theorem Sound.deliver (h : s.Sound) (tasks : s'.tasks = s.tasks ++ [.select])
    (meeting : s'.meeting = s.meeting) (allowed : s'.allowed = s.allowed)
    (bots : s'.bots = s.bots) : s'.Sound := by
  have old : ∀ phase ∈ s'.tasks, phase ≠ .select → phase ∈ s.tasks := by
    intro phase mem other
    rw [tasks] at mem
    rcases List.mem_append.1 mem with before | new
    · exact before
    · exact absurd (List.mem_singleton.1 new) other
  exact
    { made := ⟨fun bot mem => h.made.allowed bot (bots ▸ mem), bots ▸ h.made.single⟩
      requested := by
        rw [meeting, allowed]
        exact h.requested
      creating := by
        intro phase mem creates
        rw [allowed, bots]
        refine h.creating phase (old phase mem ?_) creates
        rintro rfl
        cases creates
      unsettled := by
        intro now
        rw [BotDesk.undispatched, meeting] at now
        rw [bots]
        rcases h.unsettled now with none | ⟨phase, mem, unsettled⟩
        · exact Or.inl none
        · exact Or.inr ⟨phase, tasks ▸ List.mem_append_left _ mem, unsettled⟩
      alone := tasks ▸ h.alone.concat rfl
      identified := by
        rw [meeting, bots]
        exact h.identified
      joining := by
        intro botId mem
        rw [bots]
        exact h.joining botId (old _ mem nofun) }

/-- A status of the bot has come, so a bot was made and no task is creating one. -/
theorem Sound.webhook (h : s.Sound) (status : RecallStatus)
    (known : s.meeting.recallBotId.isSome = true) : (s.step (.webhook status)).Sound := by
  have some := h.identified known
  have dispatched : status.botStatus ≠ .none ∧ status.botStatus ≠ .requested := by
    cases status <;> exact ⟨nofun, nofun⟩
  simp only [step, if_pos known]
  exact
    { made := ⟨h.made.allowed, h.made.single⟩
      requested := fun requested => absurd requested dispatched.2
      creating := fun phase mem creates => absurd (h.creating phase mem creates).2 some
      unsettled := by
        intro now
        rcases Bool.or_eq_true_iff.1 now with none | requested
        · exact absurd (of_decide_eq_true none) dispatched.1
        · exact absurd (of_decide_eq_true requested) dispatched.2
      alone := h.alone
      identified := fun _ => some
      joining := fun _ _ => some }

theorem Sound.step (h : s.Sound) (event : BotEvent) (right : s.keepsConsent event = true) :
    (s.step event).Sound := by
  cases event with
  | advance index ok =>
      simp only [BotDesk.step]
      split
      · rename_i call found
        simp only [keepsConsent, found] at right
        split
        · rename_i carried
          rw [carried] at right
          exact h.advance right
        · exact h.fail index call
      · exact h
  | deliver index again =>
      simp only [BotDesk.step]
      split
      · split
        · exact h.deliver rfl rfl rfl rfl
        · exact h
      · exact h
  | dispatch index ok outcome =>
      simp only [BotDesk.step]
      split
      · rename_i phase found
        exact h.dispatch found right
      · exact h
  | crash index =>
      simp only [BotDesk.step]
      split
      · rename_i phase found
        simp only [keepsConsent, found, Bool.or_eq_true, Bool.not_eq_true'] at right
        split
        · exact h
        · have dropped := h.drop found right
          exact dropped.keep rfl rfl rfl rfl id
      · exact h
  | webhook status =>
      by_cases known : s.meeting.recallBotId.isSome = true
      · exact h.webhook status known
      · rw [BotDesk.step, if_neg known]
        exact h
  | _ => exact h.keep rfl rfl rfl rfl id

/-! ## Runs -/

theorem start_sound (meeting : Meeting) (participants : List String) :
    (start meeting participants).Sound where
  made := ⟨nofun, Nat.zero_le 1⟩
  requested := nofun
  creating := nofun
  unsettled := fun _ => Or.inl rfl
  alone := .nil
  identified := nofun
  joining := nofun

theorem bots_consented {meeting : Meeting} {participants : List String} {events : List BotEvent}
    (right : Guarded step (fun s event => s.keepsConsent event = true)
      (start meeting participants) events) :
    (run meeting participants events).Consented := by
  have sound : (run meeting participants events).Sound :=
    runFrom_invariant_of_guarded (fun s event right h => h.step event right)
      (start_sound meeting participants) right
  exact sound.made

/-! ## Some runs -/

def recorded : Meeting := newMeeting "meeting" "collab" ⟨0, Scheduling.hour, true⟩ "event"

/-- A consent, as request `index`. -/
def gives (index : Nat) (profileId : String) : List BotEvent :=
  .giveConsent profileId :: List.replicate 3 (.advance index)

def revokes (index : Nat) (profileId : String) : List BotEvent :=
  .revokeConsent profileId :: List.replicate 3 (.advance index)

/-- Both consent, and a task is in the queue. -/
def bothGive : List BotEvent := gives 0 "anna" ++ gives 1 "ben"

/-- Anna takes her consent back and gives it again, so two tasks are left. -/
def recordedOnce : List BotEvent :=
  bothGive ++ revokes 2 "anna" ++ gives 3 "anna" ++
    [.deliver 0, .dispatch 0, .dispatch 0, .dispatch 0, .deliver 0, .dispatch 1, .webhook .done]

theorem recorded_consented :
    (run recorded ["anna", "ben"] recordedOnce).Consented :=
  bots_consented (by decide +kernel)

/-- The meeting is cancelled before the task runs. -/
def cancelledBefore : List BotEvent :=
  bothGive ++ [.patch { cancel := true }, .advance 2, .advance 2, .deliver 0, .dispatch 0,
    .dispatch 0]

/-- Anna takes her consent back after the task has read the flag. -/
def revokedBehind : List BotEvent :=
  bothGive ++ [.deliver 0, .dispatch 0] ++ revokes 2 "anna" ++ [.dispatch 0]

/-- `start_bot` sends a second task, and both read the flag. -/
def startedTwice : List BotEvent :=
  bothGive ++ .startBot :: List.replicate 4 (.advance 2) ++
    [.deliver 0, .deliver 0, .dispatch 0, .dispatch 1, .dispatch 0, .dispatch 1]

/-- The answer to the first POST is lost. -/
def postedTwice : List BotEvent :=
  bothGive ++ [.deliver 0, .dispatch 0, .dispatch 0 true .lost, .dispatch 0]

/-- Two consents come from outside the collaboration. -/
def outsiders : List BotEvent := bothGive ++ [.deliver 0, .dispatch 0, .dispatch 0]

theorem not_consented :
    ¬ (run recorded ["anna", "ben"] cancelledBefore).Consented ∧
      ¬ (run recorded ["anna", "ben"] revokedBehind).Consented ∧
      ¬ (run recorded ["anna", "ben"] startedTwice).Consented ∧
      ¬ (run recorded ["anna", "ben"] postedTwice).Consented ∧
      ¬ (run recorded ["cleo", "dora"] outsiders).Consented := by
  refine ⟨fun h => ?_, fun h => ?_, fun h => ?_, fun h => ?_, fun h => ?_⟩
  · exact absurd rfl (h.allowed ⟨.cancelled, ["anna", "ben"]⟩ (by decide +kernel)).1
  · exact absurd (h.allowed ⟨.scheduled, ["ben"]⟩ (by decide +kernel)).2.2 (by decide)
  · exact absurd h.single (by decide +kernel)
  · exact absurd h.single (by decide +kernel)
  · exact absurd (h.allowed ⟨.scheduled, []⟩ (by decide +kernel)).2.2 (by decide)

end BotDesk

end ColabPlatform.Meetings
