import Mathlib.Order.Interval.Set.Disjoint
import Mathlib.Algebra.Order.Ring.Int
import Mathlib.Data.Int.ConditionallyCompleteOrder
import Mathlib.Order.CompletePartialOrder

/-!
# Meetings

The rows of meeting-svc.  Moments are microseconds, and a meeting occupies the half-open
interval from its start to its end.
-/

namespace ColabPlatform.Meetings

inductive MeetingStatus where
  | scheduled
  | started
  | ended
  | cancelled
  deriving DecidableEq, Repr

inductive BotStatus where
  | none
  | requested
  | joining
  | joined
  | left
  | failed
  deriving DecidableEq, Repr

/-- The status codes of Recall that are mapped. -/
inductive RecallStatus where
  | joiningCall
  | inCallRecording
  | callEnded
  | done
  | fatal
  deriving DecidableEq, Repr

/-- `_STATUS_MAP` -/
def RecallStatus.botStatus : RecallStatus → BotStatus
  | .joiningCall => .joining
  | .inCallRecording => .joined
  | .callEnded | .done => .left
  | .fatal => .failed

/-- `Field(ge=15, le=480)` -/
structure Duration where
  minutes : Nat
  least : 15 ≤ minutes
  most : minutes ≤ 480
  deriving DecidableEq, Repr

/-- `start + timedelta(minutes=duration)` -/
def Duration.after (duration : Duration) (start : Int) : Int :=
  start + duration.minutes * 60000000

structure Meeting where
  id : String
  collabId : String
  scheduledAt : Int
  duration : Duration
  gcalEventId : Option String
  status : MeetingStatus := .scheduled
  botEnabled : Bool
  botStatus : BotStatus := .none
  recallBotId : Option String := none
  deriving DecidableEq, Repr

namespace Meeting

def ending (meeting : Meeting) : Int := meeting.duration.after meeting.scheduledAt

-- named, so that the interval is over the same order under any import
local instance partialOrderInt : PartialOrder Int := Int.instLinearOrder.toPartialOrder

/-- What the meeting occupies. -/
def span (meeting : Meeting) : Set Int := Set.Ico meeting.scheduledAt meeting.ending

/-- The test of the conflict check, without its restriction to one collaboration. -/
def overlaps (meeting other : Meeting) : Bool :=
  other.scheduledAt < meeting.ending && meeting.scheduledAt < other.ending

theorem scheduledAt_lt_ending (meeting : Meeting) : meeting.scheduledAt < meeting.ending := by
  have least := meeting.duration.least
  simp only [ending, Duration.after]
  omega

/-- The check finds exactly the meetings whose interval meets the new one. -/
theorem overlaps_eq_false_iff (meeting other : Meeting) :
    meeting.overlaps other = false ↔ Disjoint meeting.span other.span := by
  have positive := meeting.scheduledAt_lt_ending
  have positive' := other.scheduledAt_lt_ending
  rw [span, span, Set.Ico_disjoint_Ico, ← Bool.not_eq_true, overlaps, Bool.and_eq_true,
    decide_eq_true_eq, decide_eq_true_eq]
  omega

end Meeting

end ColabPlatform.Meetings
