import ColabPlatform.Collabs.Model
import ColabPlatform.Foundation.Maxima

/-!
# Activity

A message of the chat sets the last activity of its collaboration to the time at which it
was sent, whatever is stored there, and clears the nudge.  The broker may deliver messages
late and more than once, so the last activity is the newest of them exactly if the newest
is the one that was processed last.
-/

namespace ColabPlatform.Collabs

open Foundation
open Billing (Uuid Timestamp)

/-- `chat.message.sent`; what is missing or empty is not set. -/
structure ChatMessageSent where
  collaborationId : Option Uuid := none
  collabId : Option Uuid := none
  sentAt : Option Timestamp := none
  createdAt : Option Timestamp := none
  deriving DecidableEq, Repr

/-- A message that is taken from its queue, to which it returns if the database fails. -/
structure Processing where
  payload : ChatMessageSent
  now : Timestamp
  db : Bool := true
  deriving DecidableEq, Repr

/-! ## What a message stores -/

def updateLastActivity (collabId : Uuid) (activityAt : Timestamp) (row : Collaboration) :
    Collaboration :=
  if row.id = collabId then (Change.activity activityAt).setRow row else row

def Processing.sentAt (processing : Processing) : Timestamp :=
  (processing.payload.sentAt.or processing.payload.createdAt).getD processing.now

/-- `_handle_chat_message_sent` -/
def handleChatMessageSent (row : Collaboration) (processing : Processing) : Collaboration :=
  match processing.payload.collaborationId.or processing.payload.collabId with
  | none => row
  | some collabId =>
      if processing.db then updateLastActivity collabId processing.sentAt row else row

def processAll (row : Collaboration) (processed : List Processing) : Collaboration :=
  processed.foldl handleChatMessageSent row

/-- The message is for the collaboration, and its update is stored. -/
def Processing.reaches (id : Uuid) (processing : Processing) : Bool :=
  processing.db ∧
    processing.payload.collaborationId.or processing.payload.collabId = some id

/-- When the messages of a collaboration were sent, in the order of their updates. -/
def sentTimes (id : Uuid) (processed : List Processing) : List Timestamp :=
  (processed.filter (·.reaches id)).map (·.sentAt)

theorem handleChatMessageSent_eq (row : Collaboration) (processing : Processing) :
    handleChatMessageSent row processing =
      if processing.reaches row.id then (Change.activity processing.sentAt).setRow row
      else row := by
  unfold handleChatMessageSent Processing.reaches
  split
  · simp_all
  · rename_i collabId found
    rw [found]
    by_cases same : row.id = collabId
    · simp [updateLastActivity, same]
    · have other : collabId ≠ row.id := Ne.symm same
      simp [updateLastActivity, same, other]

@[simp] theorem id_handleChatMessageSent (row : Collaboration) (processing : Processing) :
    (handleChatMessageSent row processing).id = row.id := by
  rw [handleChatMessageSent_eq]
  split
  all_goals rfl

@[simp] theorem id_processAll (row : Collaboration) (processed : List Processing) :
    (processAll row processed).id = row.id := by
  induction processed generalizing row with
  | nil => rfl
  | cons processing processed ih => exact (ih _).trans (id_handleChatMessageSent row processing)

@[simp] theorem sentTimes_nil (id : Uuid) : sentTimes id [] = [] := rfl

theorem sentTimes_cons (id : Uuid) (processing : Processing) (processed : List Processing) :
    sentTimes id (processing :: processed) =
      if processing.reaches id then processing.sentAt :: sentTimes id processed
      else sentTimes id processed := by
  by_cases reaches : processing.reaches id
  · simp [sentTimes, reaches]
  · simp [sentTimes, reaches]

/-- The last message wins. -/
theorem lastActivityAt_processAll (row : Collaboration) (processed : List Processing) :
    (processAll row processed).lastActivityAt =
      (sentTimes row.id processed).getLastD row.lastActivityAt := by
  induction processed generalizing row with
  | nil => rfl
  | cons processing processed ih =>
      have rest := ih (handleChatMessageSent row processing)
      rw [id_handleChatMessageSent] at rest
      change (processAll (handleChatMessageSent row processing) processed).lastActivityAt = _
      rw [rest, handleChatMessageSent_eq, sentTimes_cons]
      split
      · rw [List.getLastD_cons]
        rfl
      · rfl

theorem nudgeSentAt_processAll (row : Collaboration) (processed : List Processing) :
    (processAll row processed).nudgeSentAt =
      if sentTimes row.id processed = [] then row.nudgeSentAt else none := by
  induction processed generalizing row with
  | nil => rfl
  | cons processing processed ih =>
      have rest := ih (handleChatMessageSent row processing)
      rw [id_handleChatMessageSent] at rest
      change (processAll (handleChatMessageSent row processing) processed).nudgeSentAt = _
      rw [rest, handleChatMessageSent_eq, sentTimes_cons]
      by_cases reaches : processing.reaches row.id
      · simp [reaches, Change.setRow]
      · simp [reaches]

/-! ## The newest message -/

/-- The last activity is the newest one, and only a message that is newer than all
activity before it clears the nudge. -/
structure TracksLatest (row : Collaboration) (processed : List Processing) : Prop where
  latest : (processAll row processed).lastActivityAt =
    (sentTimes row.id processed).foldl max row.lastActivityAt
  cleared : ∀ before processing rest, processed = before ++ processing :: rest →
    (processAll row before).nudgeSentAt ≠ none →
    (processAll row (before ++ [processing])).nudgeSentAt = none →
    (sentTimes row.id before).foldl max row.lastActivityAt < processing.sentAt

/-- The last message is the newest, and the first one is newer than the last activity
if that was followed by a nudge. -/
structure ProcessedInTurn (row : Collaboration) (times : List Timestamp) : Prop where
  last : ∀ last ∈ times.getLast?, row.lastActivityAt ≤ last ∧ ∀ time ∈ times, time ≤ last
  first : row.nudgeSentAt ≠ none → ∀ first ∈ times.head?, row.lastActivityAt < first

theorem sentTimes_append (id : Uuid) (before rest : List Processing) :
    sentTimes id (before ++ rest) = sentTimes id before ++ sentTimes id rest := by
  simp [sentTimes]

/-- The first message that is stored clears the nudge. -/
theorem cleared_iff {row : Collaboration} {before : List Processing} {processing : Processing} :
    ((processAll row before).nudgeSentAt ≠ none ∧
        (processAll row (before ++ [processing])).nudgeSentAt = none) ↔
      row.nudgeSentAt ≠ none ∧ sentTimes row.id before = [] ∧ processing.reaches row.id := by
  rw [nudgeSentAt_processAll, nudgeSentAt_processAll, sentTimes_append]
  by_cases empty : sentTimes row.id before = []
  · by_cases reaches : processing.reaches row.id
    · simp [empty, sentTimes_cons, reaches]
    · simp [empty, sentTimes_cons, reaches]
  · simp [empty]

theorem head?_sentTimes_eq_some {id : Uuid} {processed : List Processing} {first : Timestamp}
    (h : (sentTimes id processed).head? = some first) :
    ∃ before processing rest, processed = before ++ processing :: rest ∧
      sentTimes id before = [] ∧ processing.reaches id ∧ processing.sentAt = first := by
  induction processed with
  | nil => cases h
  | cons processing processed ih =>
      by_cases reaches : processing.reaches id
      · have same : processing.sentAt = first := by simpa [sentTimes_cons, reaches] using h
        exact ⟨[], processing, processed, rfl, rfl, reaches, same⟩
      · have later : (sentTimes id processed).head? = some first := by
          simpa [sentTimes_cons, reaches] using h
        obtain ⟨before, found, rest, rfl, none, reached, same⟩ := ih later
        exact ⟨processing :: before, found, rest, rfl, by simpa [sentTimes_cons, reaches] using none,
          reached, same⟩

/-- The last activity tracks the newest message exactly if messages are processed in turn. -/
theorem tracks_latest_iff (row : Collaboration) (processed : List Processing) :
    TracksLatest row processed ↔ ProcessedInTurn row (sentTimes row.id processed) := by
  have last := getLastD_eq_foldl_max_iff (sentTimes row.id processed) row.lastActivityAt
  rw [← lastActivityAt_processAll] at last
  constructor
  · intro h
    refine ⟨last.1 h.latest, fun nudged first mem => ?_⟩
    obtain ⟨before, processing, rest, same, empty, reaches, rfl⟩ := head?_sentTimes_eq_some mem
    have clears := cleared_iff.2 ⟨nudged, empty, reaches⟩
    simpa [empty] using h.cleared before processing rest same clears.1 clears.2
  · intro h
    refine ⟨last.2 h.last, ?_⟩
    rintro before processing rest rfl nudged cleared
    obtain ⟨stored, empty, reaches⟩ := cleared_iff.1 ⟨nudged, cleared⟩
    rw [empty]
    apply h.first stored
    rw [sentTimes_append, empty, sentTimes_cons, if_pos reaches]
    rfl

/-! ## A late message -/

/-- A message of a collaboration, sent at `time`. -/
def sent (id : Uuid) (time : Timestamp) : Processing :=
  { payload := { collaborationId := some id, sentAt := some time }, now := 100 }

/-- A collaboration with a nudge after its last activity. -/
def nudged : Collaboration :=
  { id := ⟨"duet"⟩, profileIdA := ⟨"anna"⟩, profileIdB := ⟨"ben"⟩, title := none
    description := none, status := .inProgress, isReadOnly := false, lastActivityAt := 50
    nudgeSentAt := some 60, archiveAt := none, archivedAt := none, completedAt := none }

/-- A message that comes late takes the last activity back, and clears the nudge. -/
theorem late_message_goes_back :
    (processAll nudged [sent nudged.id 70, sent nudged.id 40]).lastActivityAt = 40 ∧
      (processAll nudged [sent nudged.id 40]).nudgeSentAt = none ∧
      ¬ TracksLatest nudged [sent nudged.id 70, sent nudged.id 40] ∧
      ¬ TracksLatest nudged [sent nudged.id 40] := by
  refine ⟨by decide, by decide, fun h => ?_, fun h => ?_⟩
  · exact absurd h.latest (by decide)
  · have newer := h.cleared [] (sent nudged.id 40) [] rfl (by decide) (by decide)
    exact absurd newer (by decide)

end ColabPlatform.Collabs
