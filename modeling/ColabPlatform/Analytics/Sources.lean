import ColabPlatform.Analytics.Rollup
import ColabPlatform.Foundation.Batch
import Mathlib.Data.Rat.Floor

/-!
# The queries of the rollup

The tables that the metrics are computed of, with the columns that the queries read, and
what each query yields for a day.  Every group that a query yields stands for rows of these
tables.
-/

namespace ColabPlatform.Analytics

open Foundation

/-! ## Tables -/

/-- A row of `analytics.events`; times are in microseconds. -/
structure AppEvent where
  event : String
  ts : Int
  userId : Option String

/-- A row of `auth.user`. -/
structure AuthUser where
  id : String
  createdAt : Int

/-- A row of `profile.profile`. -/
structure Profile where
  profileHealthScore : Option ℚ
  updatedAt : Int

/-- A row of `invite.collab_invite`. -/
structure CollabInvite where
  status : String
  createdAt : Int

/-- A row of `collab.feedback`. -/
structure Feedback where
  axis : String
  direction : String
  createdAt : Int

/-- A row of `support.ticket`. -/
structure Ticket where
  id : String
  category : String

/-- A row of `support.csat`. -/
structure Csat where
  ticketId : String
  score : Int
  createdAt : Int

/-- A row of `moderation.report`. -/
structure Report where
  subjectType : String
  subjectId : String
  createdAt : Int

structure Sources where
  events : List AppEvent := []
  users : List AuthUser := []
  profiles : List Profile := []
  invites : List CollabInvite := []
  feedback : List Feedback := []
  tickets : List Ticket := []
  csat : List Csat := []
  reports : List Report := []

/-- `ts::date` -/
def dateOf (ts : Int) : Int := ts / 86400000000

/-! ## Queries -/

namespace Sources

variable (s : Sources) (day : Int)

def eventsOf : List AppEvent := s.events.filter fun event => dateOf event.ts = day

/-- The steps of the funnel and the events that reach them. -/
def steps : List (String × String) :=
  [("signup", "signup"), ("verify_email", "verify_email"), ("age_attest", "age_attest"),
    ("profile_basic", "profile_basic"), ("portfolio", "portfolio_done"),
    ("selfie", "selfie_done"), ("badge", "badge_issued")]

/-- `MIN(CASE WHEN event = … THEN ts END)` -/
def firstTs (event : String) (events : List AppEvent) : Option Int :=
  ((events.filter fun row => row.event = event).map AppEvent.ts).min?

/-- `funnels` with the seven steps beside each: a step and the time at which it was reached. -/
def funnelSteps : List (String × Option Int) :=
  (groupRows AppEvent.userId (s.eventsOf day)).flatMap fun funnel =>
    steps.map fun step => (step.1, firstTs step.2 funnel.2)

/-- `count(…)::numeric / NULLIF(count(*), 0)` -/
def ratio (part whole : Nat) : Option ℚ := if whole = 0 then none else some (part / whole)

def onboardingCompletion : List StepRow :=
  (groupRows Prod.fst (s.funnelSteps day)).map fun group =>
    ⟨group.1, ratio (group.2.countP fun row => row.2.isSome) group.2.length, group.2.length⟩

/-- The users with an event `app_active` on the day. -/
def actives : List String :=
  (((s.eventsOf day).filter fun event => event.event = "app_active").filterMap
    AppEvent.userId).dedup

def segment (user : AuthUser) : String :=
  if dateOf user.createdAt = day then "new" else "existing"

def dauSplit : List GroupRow :=
  (groupRows (segment day) (s.users.filter fun user => user.id ∈ s.actives day)).map fun group =>
    ⟨group.1, group.2.length, group.2.length⟩

/-- `width_bucket(score, 0, 1, 5)` -/
def widthBucket (score : ℚ) : Int :=
  if score < 0 then 0 else if 1 ≤ score then 6 else (score * 5).floor + 1

/-- The health scores of the profiles that were last updated by the day. -/
def healthScores : List ℚ :=
  (s.profiles.filter fun profile => dateOf profile.updatedAt ≤ day).filterMap
    Profile.profileHealthScore

def profileHealthDist : List BucketRow :=
  (groupRows widthBucket (s.healthScores day)).map fun group =>
    ⟨group.1, group.2.length, group.2.length⟩

def requestRatio : List GroupRow :=
  (groupRows CollabInvite.status
      (s.invites.filter fun invite => dateOf invite.createdAt = day)).map fun group =>
    ⟨group.1, group.2.length, group.2.length⟩

def collabFeedback : List FeedbackRow :=
  (groupRows (fun feedback : Feedback => (feedback.axis, feedback.direction))
      (s.feedback.filter fun feedback => dateOf feedback.createdAt = day)).map fun group =>
    ⟨group.1.1, group.1.2, group.2.length, group.2.length⟩

/-- The category of the ticket and the score, for each rating of the day. -/
def ratings : List (String × Int) :=
  (s.csat.filter fun csat => dateOf csat.createdAt = day).flatMap fun csat =>
    (s.tickets.filter fun ticket => ticket.id = csat.ticketId).map fun ticket =>
      (ticket.category, csat.score)

/-- `avg`, which is null of no rows -/
def average (scores : List Int) : Option ℚ :=
  if scores = [] then none else some ((scores.sum : ℚ) / scores.length)

def supportCsat : List CsatRow :=
  (groupRows Prod.fst (s.ratings day)).map fun group =>
    ⟨group.1, average (group.2.map Prod.snd), group.2.length⟩

def pctReported : ReportedRow :=
  let reported := s.reports.filter fun report =>
    dateOf report.createdAt = day ∧ report.subjectType = "profile"
  ⟨(reported.map Report.subjectId).dedup.length, (s.actives day).length⟩

/-- What the seven queries yield, and that nothing is refused. -/
def warehouse : Warehouse where
  onboardingCompletion := .ok (s.onboardingCompletion day)
  dauSplit := .ok (s.dauSplit day)
  profileHealthDist := .ok (s.profileHealthDist day)
  requestRatio := .ok (s.requestRatio day)
  collabFeedback := .ok (s.collabFeedback day)
  supportCsat := .ok (s.supportCsat day)
  pctReported := .ok (s.pctReported day)
  refused := fun _ => none

/-! ## Groups -/

/-- The tables hold rows of the group that these dims are of. -/
def HasGroup : Metric → Dims → Prop
  | .onboardingCompletion, dims =>
      (∃ event ∈ s.events, dateOf event.ts = day) ∧ ∃ step ∈ steps, dims = [("step", step.1)]
  | .dauSplit, dims =>
      ∃ user ∈ s.users, (∃ event ∈ s.events, dateOf event.ts = day ∧ event.event = "app_active" ∧
        event.userId = some user.id) ∧ dims = [("segment", segment day user)]
  | .profileHealthDist, dims =>
      ∃ profile ∈ s.profiles, dateOf profile.updatedAt ≤ day ∧
        ∃ score ∈ profile.profileHealthScore, dims = [("bucket", bucketLabel (widthBucket score))]
  | .requestRatio, dims =>
      ∃ invite ∈ s.invites, dateOf invite.createdAt = day ∧ dims = [("outcome", invite.status)]
  | .collabFeedback, dims =>
      ∃ feedback ∈ s.feedback, dateOf feedback.createdAt = day ∧
        dims = [("axis", feedback.axis), ("direction", feedback.direction)]
  | .supportCsat, dims =>
      ∃ csat ∈ s.csat, dateOf csat.createdAt = day ∧
        ∃ ticket ∈ s.tickets, ticket.id = csat.ticketId ∧ dims = [("category", ticket.category)]
  | .pctReported, dims => dims = []

end Sources

end ColabPlatform.Analytics
