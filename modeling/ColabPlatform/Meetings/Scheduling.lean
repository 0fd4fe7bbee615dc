import ColabPlatform.Foundation.Run
import ColabPlatform.Foundation.Table
import ColabPlatform.Meetings.Model

/-!
# Meetings that do not overlap

A meeting is created after a check for conflicts and a call to the calendar, and is moved
without such a check.  The file follows the requests from one await to the next, and finds
the runs in which the meetings of a collaboration stay apart.
-/

namespace ColabPlatform.Meetings

open Foundation

/-! ## Requests -/

structure MeetingCreateRequest where
  scheduledAt : Int
  duration : Duration
  botEnabled : Bool := false
  deriving DecidableEq, Repr

structure MeetingPatchRequest where
  scheduledAt : Option Int := none
  duration : Option Duration := none
  /-- `status == "cancelled"`, the only status that a request may hold -/
  cancel : Bool := false
  deriving DecidableEq, Repr

inductive SchedulingAnswer where
  | created (meetingId : String)
  | updated
  | meetingConflict (conflictingMeetingId : String)
  | calendarFailed
  | notFound
  | cannotModify (status : MeetingStatus)
  | serverError
  deriving DecidableEq, Repr

/-- A request of `create_meeting` or `patch_meeting`, with what it does next. -/
inductive SchedulingCall where
  | conflicts (collabId : String) (body : MeetingCreateRequest)
  | createEvent (collabId : String) (body : MeetingCreateRequest)
  | insert (collabId : String) (body : MeetingCreateRequest) (gcalEventId : String)
  | select (meetingId : String) (body : MeetingPatchRequest)
  | cancel (meetingId : String)
  | patchEvent (meeting : Meeting) (body : MeetingPatchRequest)
  | update (meeting : Meeting) (body : MeetingPatchRequest)
  | answered (answer : SchedulingAnswer)
  deriving DecidableEq, Repr

/-- `scheduled_at + timedelta(minutes=duration_min)` -/
def MeetingCreateRequest.ending (body : MeetingCreateRequest) : Int :=
  body.duration.after body.scheduledAt

def newMeeting (id collabId : String) (body : MeetingCreateRequest) (gcalEventId : String) :
    Meeting where
  id := id
  collabId := collabId
  scheduledAt := body.scheduledAt
  duration := body.duration
  gcalEventId := some gcalEventId
  botEnabled := body.botEnabled

namespace Meeting

/-- The columns of a moved meeting that are written: those that were `loaded` otherwise. -/
def reschedule (loaded : Meeting) (body : MeetingPatchRequest) (meeting : Meeting) : Meeting :=
  { meeting with
    scheduledAt :=
      if body.scheduledAt.getD loaded.scheduledAt = loaded.scheduledAt then meeting.scheduledAt
      else body.scheduledAt.getD loaded.scheduledAt
    duration :=
      if body.duration.getD loaded.duration = loaded.duration then meeting.duration
      else body.duration.getD loaded.duration }

def cancelled (meeting : Meeting) : Meeting := { meeting with status := .cancelled }

/-- What two meetings of a collaboration have to be, unless one of them is cancelled. -/
def Apart (meeting other : Meeting) : Prop :=
  meeting.collabId = other.collabId → meeting.status ≠ .cancelled → other.status ≠ .cancelled →
    Disjoint meeting.span other.span

theorem Apart.symm {meeting other : Meeting} (h : meeting.Apart other) : other.Apart meeting :=
  fun same active active' => (h same.symm active' active).symm

end Meeting

/-! ## The machine -/

structure Scheduling where
  meetings : Table Meeting (fun meeting => meeting.id) (noAlt Meeting)
  calls : List SchedulingCall

structure SchedulingOutside where
  /-- the statement or the call to the calendar succeeds -/
  ok : Bool := true
  /-- of the meeting, or of its event -/
  id : String := ""

inductive SchedulingEvent where
  | create (collabId : String) (body : MeetingCreateRequest)
  | patch (meetingId : String) (body : MeetingPatchRequest)
  | advance (index : Nat) (outside : SchedulingOutside)

namespace Scheduling

def empty : Scheduling := ⟨.empty, []⟩

def put (s : Scheduling) (index : Nat) (call : SchedulingCall) : Scheduling :=
  { s with calls := s.calls.set index call }

/-- The conflict check of `create_meeting`. -/
def conflict? (s : Scheduling) (collabId : String) (body : MeetingCreateRequest) :
    Option Meeting :=
  s.meetings.rows.find? fun m =>
    m.collabId = collabId && m.status ≠ .cancelled && m.scheduledAt < body.ending &&
      body.scheduledAt < m.ending

/-- `patch_meeting`, from its first statement to its next await. -/
def selected (meeting : Meeting) (body : MeetingPatchRequest) : SchedulingCall :=
  if meeting.status = .ended ∨ meeting.status = .cancelled then
    .answered (.cannotModify meeting.status)
  else if body.cancel then .cancel meeting.id
  else if (body.scheduledAt.isSome || body.duration.isSome) &&
      meeting.gcalEventId.any (· ≠ "") then .patchEvent meeting body
  else .update meeting body

def advance (s : Scheduling) (index : Nat) (outside : SchedulingOutside) :
    SchedulingCall → Scheduling
  | .conflicts collabId body =>
      if outside.ok then
        match s.conflict? collabId body with
        | some other => s.put index (.answered (.meetingConflict other.id))
        | none => s.put index (.createEvent collabId body)
      else s.put index (.answered .serverError)
  | .createEvent collabId body =>
      s.put index (if outside.ok then .insert collabId body outside.id
        else .answered .calendarFailed)
  | .insert collabId body gcalEventId =>
      match if outside.ok then
          s.meetings.insert? (newMeeting outside.id collabId body gcalEventId) else none with
      | some meetings => { s.put index (.answered (.created outside.id)) with meetings }
      | none => s.put index (.answered .serverError)
  | .select meetingId body =>
      if outside.ok then
        match s.meetings.lookup meetingId with
        | some meeting => s.put index (selected meeting body)
        | none => s.put index (.answered .notFound)
      else s.put index (.answered .serverError)
  | .cancel meetingId =>
      if outside.ok then
        { s.put index (.answered .updated) with
          meetings := s.meetings.modify meetingId Meeting.cancelled }
      else s.put index (.answered .serverError)
  | .patchEvent meeting body =>
      s.put index (if outside.ok then .update meeting body else .answered .calendarFailed)
  | .update meeting body =>
      if outside.ok then
        { s.put index (.answered .updated) with
          meetings := s.meetings.modify meeting.id (Meeting.reschedule meeting body) }
      else s.put index (.answered .serverError)
  | .answered _ => s

def step (s : Scheduling) : SchedulingEvent → Scheduling
  | .create collabId body => { s with calls := s.calls ++ [.conflicts collabId body] }
  | .patch meetingId body => { s with calls := s.calls ++ [.select meetingId body] }
  | .advance index outside =>
      match s.calls[index]? with
      | some call => s.advance index outside call
      | none => s

def run (events : List SchedulingEvent) : Scheduling := runFrom step empty events

/-- Meetings of one collaboration that are not cancelled do not overlap. -/
def Apart (s : Scheduling) : Prop :=
  ∀ meeting ∈ s.meetings.rows, ∀ other ∈ s.meetings.rows, meeting.id ≠ other.id →
    meeting.Apart other

/-! ## What a step stores -/

/-- The row that a call stores with its next statement. -/
def storedBy (s : Scheduling) (outside : SchedulingOutside) : SchedulingCall → Option Meeting
  | .insert collabId body gcalEventId =>
      if outside.ok && (s.meetings.lookup outside.id).isNone then
        some (newMeeting outside.id collabId body gcalEventId)
      else none
  | .cancel meetingId =>
      if outside.ok then (s.meetings.lookup meetingId).map Meeting.cancelled else none
  | .update meeting body =>
      if outside.ok then
        (s.meetings.lookup meeting.id).map (Meeting.reschedule meeting body)
      else none
  | _ => none

def stored (s : Scheduling) : SchedulingEvent → Option Meeting
  | .advance index outside => s.calls[index]? >>= s.storedBy outside
  | _ => none

/-- No other meeting of the collaboration is in the way of the meeting. -/
def free (s : Scheduling) (meeting : Meeting) : Bool :=
  meeting.status = .cancelled || s.meetings.rows.all fun other =>
    other.id = meeting.id || other.collabId ≠ meeting.collabId || other.status = .cancelled ||
      !meeting.overlaps other

/-- The interval of a meeting is free when the meeting is stored. -/
def keepsApart (s : Scheduling) (event : SchedulingEvent) : Bool := (s.stored event).all s.free

variable {s : Scheduling}

theorem free_iff {meeting : Meeting} :
    s.free meeting = true ↔
      ∀ other ∈ s.meetings.rows, other.id ≠ meeting.id → meeting.Apart other := by
  have spans : ∀ other : Meeting, meeting.Apart other ↔
      meeting.collabId = other.collabId → meeting.status ≠ .cancelled →
        other.status ≠ .cancelled → meeting.overlaps other = false := by
    intro other
    rw [Meeting.Apart, Meeting.overlaps_eq_false_iff]
  simp only [free, spans, Bool.or_eq_true, decide_eq_true_eq, List.all_eq_true,
    Bool.not_eq_true']
  grind

/-- The conflict check asks whether the interval is free for a new meeting. -/
theorem conflict_eq_none_iff {collabId id gcalEventId : String} {body : MeetingCreateRequest}
    (fresh : ∀ other ∈ s.meetings.rows, other.id ≠ id) :
    s.conflict? collabId body = none ↔ s.free (newMeeting id collabId body gcalEventId) = true := by
  rw [conflict?, List.find?_eq_none]
  simp only [free, newMeeting, Meeting.overlaps, Meeting.ending, MeetingCreateRequest.ending,
    Bool.or_eq_true, List.all_eq_true, decide_eq_true_eq]
  constructor
  · intro none
    right
    intro other mem
    have clear := none other mem
    grind
  · rintro (cancelled | clear) other mem
    · cases cancelled
    · have apart := clear other mem
      have new := fresh other mem
      grind

/-- The meetings of `s'` are those of `s`, with the stored one in its place. -/
def Stores (s s' : Scheduling) : Option Meeting → Prop
  | some meeting => s.meetings.Puts meeting s'.meetings
  | none => s'.meetings = s.meetings

variable {s' : Scheduling}

theorem stores_modify {f : Meeting → Meeting} {meetingId : String}
    (same_key : ∀ row : Meeting, (f row).id = row.id)
    (same_alt : ∀ row : Meeting, noAlt Meeting (f row) = noAlt Meeting row)
    (modified : s'.meetings = s.meetings.modify meetingId f same_key same_alt) :
    s.Stores s' ((s.meetings.lookup meetingId).map f) := by
  cases found : s.meetings.lookup meetingId with
  | none => exact modified.trans (Table.modify_eq_self found)
  | some meeting =>
      obtain rfl := Table.key_of_lookup found
      rw [Option.map_some, Stores, modified]
      exact Table.puts_modify (Table.mem_of_lookup found)

/-- The insertion goes through unless the id is taken. -/
theorem stores_insert {index : Nat} {outside : SchedulingOutside} {collabId gcalEventId : String}
    {body : MeetingCreateRequest} :
    s.Stores (s.advance index outside (.insert collabId body gcalEventId))
      (s.storedBy outside (.insert collabId body gcalEventId)) := by
  cases carried : outside.ok with
  | false => simp [storedBy, advance, carried, Stores, put]
  | true =>
      simp only [storedBy, advance, carried, if_true, Bool.true_and, Option.isNone_iff_eq_none]
      cases inserted : s.meetings.insert? (newMeeting outside.id collabId body gcalEventId) with
      | none =>
          have taken : s.meetings.lookup outside.id ≠ none :=
            (Table.insert?_eq_none_iff_of_null rfl).1 inserted
          rw [if_neg taken]
          rfl
      | some meetings =>
          have absent : s.meetings.lookup outside.id = none := Table.lookup_of_insert? inserted
          rw [if_pos absent]
          exact Table.puts_insert inserted

theorem stores_advance (index : Nat) (outside : SchedulingOutside) (call : SchedulingCall) :
    s.Stores (s.advance index outside call) (s.storedBy outside call) := by
  cases call with
  | conflicts collabId body =>
      simp only [advance, storedBy]
      split
      · split <;> rfl
      · rfl
  | createEvent collabId body => rfl
  | insert collabId body gcalEventId => exact stores_insert
  | select meetingId body =>
      simp only [advance, storedBy]
      split
      · split <;> rfl
      · rfl
  | cancel meetingId =>
      simp only [advance, storedBy]
      split
      · exact stores_modify (fun _ => rfl) (fun _ => rfl) rfl
      · rfl
  | patchEvent meeting body => rfl
  | update meeting body =>
      simp only [advance, storedBy]
      split
      · exact stores_modify (fun _ => rfl) (fun _ => rfl) rfl
      · rfl
  | answered answer => rfl

theorem stores_step (s : Scheduling) (event : SchedulingEvent) :
    s.Stores (s.step event) (s.stored event) := by
  cases event with
  | create collabId body => rfl
  | patch meetingId body => rfl
  | advance index outside =>
      simp only [step, stored]
      cases s.calls[index]? with
      | none => rfl
      | some call => exact stores_advance index outside call

/-- Meetings that are apart stay so exactly if the interval of the stored one is free. -/
theorem apart_step_iff (s : Scheduling) (event : SchedulingEvent) (h : s.Apart) :
    (s.step event).Apart ↔ s.keepsApart event = true := by
  have stores := s.stores_step event
  rw [keepsApart]
  cases stored : s.stored event with
  | none =>
      rw [stored] at stores
      simp only [Option.all_none, iff_true]
      rwa [Apart, show (s.step event).meetings = s.meetings from stores]
  | some meeting =>
      rw [stored] at stores
      rw [Option.all_some, free_iff]
      exact Table.Puts.pairwise_iff stores (fun _ _ apart => apart.symm) h

def hour : Duration := ⟨60, by decide, by decide⟩

/-- The steps of a request that is not refused. -/
def carriedOut (index : Nat) (id : String) : List SchedulingEvent :=
  List.replicate 3 (.advance index { id })

/-- Two requests for overlapping hours that are both checked before a meeting is stored. -/
def bookedTwice : List SchedulingEvent :=
  [.create "collab" ⟨0, hour, false⟩, .create "collab" ⟨1800000000, hour, false⟩,
    .advance 0 {}, .advance 1 {}, .advance 0 { id := "first" }, .advance 1 { id := "second" },
    .advance 0 { id := "first" }, .advance 1 { id := "second" }]

/-- A meeting is moved to the hour of another one. -/
def movedOnto : List SchedulingEvent :=
  .create "collab" ⟨0, hour, false⟩ :: carriedOut 0 "first" ++
    .create "collab" ⟨3600000000, hour, false⟩ :: carriedOut 1 "second" ++
    .patch "second" { scheduledAt := some 0 } :: carriedOut 2 ""

end Scheduling

end ColabPlatform.Meetings
