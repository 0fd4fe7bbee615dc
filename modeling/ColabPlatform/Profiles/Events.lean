import ColabPlatform.Common.Ids
import ColabPlatform.Foundation.Table
import ColabPlatform.Profiles.BadgeFsm
import Mathlib.Algebra.Order.BigOperators.Group.List
import Mathlib.Algebra.Order.Ring.Nat

/-!
# Profile service: events of the other services

The RabbitMQ consumer creates a profile shell on `user.created` and feeds the
other events to the badge state machine.  Every message is acknowledged: one
without a profile or without a transition is logged and dropped.  The badge a
user ends up with therefore depends on the order of delivery, and the file says
exactly when it does not.
-/

namespace ColabPlatform.Profiles

open Foundation Common

/-- `uuid.uuid4`: an id that is not in use. -/
structure IdSource where
  draw : List String → String
  fresh : ∀ used, draw used ∉ used

structure Profile where
  id : String
  userId : String
  badgeState : BadgeState
  badgeHeldReason : Option String
  badgeGrantedAt : Option Int
  deriving DecidableEq, Repr

abbrev ProfileTable := Table Profile Profile.id fun row => some row.userId

structure Payload where
  userId : IdField
  subjectId : IdField
  profileId : IdField
  deriving DecidableEq, Repr

structure Message where
  eventName : String
  payload : Payload
  receivedAt : Int
  deriving DecidableEq, Repr

/-- `reviews` are the review tasks that were enqueued, with what triggered them. -/
structure Service where
  profiles : ProfileTable
  reviews : List (String × String)

/-- The events the consumer knows; the first creates a profile shell. -/
def eventMap : String → Option (Option BadgeEvent)
  | "user.created" => some none
  | "user.email_verified" => some (some .userEmailVerified)
  | "identity.inquiry_started" => some (some .identityInquiryStarted)
  | "identity.verified" => some (some .identityVerified)
  | "identity.declined" => some (some .identityDeclined)
  | "identity.needs_review" => some (some .identityNeedsReview)
  | "moderation.cleared" => some (some .moderationCleared)
  | "moderation.upheld" => some (some .moderationUpheld)
  | "moderation.appeal_upheld" => some (some .moderationAppealUpheld)
  | "user.deleted" => some (some .userDeleted)
  | _ => none

inductive EventError where
  | badlyFormedUuid
  | integrity
  deriving DecidableEq, Repr

section Handling

variable (uuid4 : IdSource)

/-- `Profile(user_id=user_id, badge_state="unverified")` -/
def shell (profiles : ProfileTable) (userId : String) : Profile where
  id := uuid4.draw (profiles.rows.map (·.id))
  userId := userId
  badgeState := .unverified
  badgeHeldReason := none
  badgeGrantedAt := none

def createShell (service : Service) (userId : String) : Except EventError Service :=
  match service.profiles.lookupAlt userId with
  | some _ => .ok service
  | none =>
      match service.profiles.insert? (shell uuid4 service.profiles userId) with
      | some profiles => .ok { service with profiles := profiles }
      | none => .error .integrity

/-- The profile of the user, else the one that the payload names. -/
def findProfile (profiles : ProfileTable) (userId : String) (payload : Payload) :
    Except EventError (Option Profile) :=
  match profiles.lookupAlt userId with
  | some profile => .ok (some profile)
  | none =>
      match payload.profileId with
      | .missing => .ok none
      | .malformed _ => .error .badlyFormedUuid
      | .uuid profileId => .ok (profiles.lookup profileId)

/-- What a transition writes to the profile. -/
def TransitionResult.write (result : TransitionResult) (now : Int) (profile : Profile) : Profile :=
  { profile with
    badgeState := result.newState
    badgeHeldReason :=
      if result.newState = .badgeGranted then none
      else result.badgeHeldReason.or profile.badgeHeldReason
    badgeGrantedAt :=
      if result.newState = .badgeGranted then some now else profile.badgeGrantedAt }

@[simp] theorem TransitionResult.write_id (result : TransitionResult) (now : Int)
    (profile : Profile) : (result.write now profile).id = profile.id := rfl

theorem TransitionResult.write_userId (result : TransitionResult) (now : Int)
    (profile : Profile) : some (result.write now profile).userId = some profile.userId := rfl

def advance (service : Service) (profile : Profile) (event : BadgeEvent) (eventName : String)
    (now : Int) : Service :=
  match transition profile.badgeState event with
  | .error _ => service
  | .ok result =>
      { profiles := service.profiles.modify profile.id (result.write now)
          (result.write_id now) (result.write_userId now)
        reviews := service.reviews ++
          (result.sideEffects.filter (· = "ai.review.fire")).map fun _ => (profile.id, eventName) }

def advanceFound (service : Service) (userId : String) (event : BadgeEvent)
    (message : Message) : Except EventError Service :=
  match findProfile service.profiles userId message.payload with
  | .error raised => .error raised
  | .ok none => .ok service
  | .ok (some profile) =>
      .ok (advance service profile event message.eventName message.receivedAt)

def handleEvent (service : Service) (message : Message) : Except EventError Service :=
  match message.payload.userId.or message.payload.subjectId with
  | .missing => .ok service
  | userField =>
      match eventMap message.eventName with
      | none => .ok service
      | some badgeEvent =>
          match userField, badgeEvent with
          | .uuid userId, none => createShell uuid4 service userId
          | .uuid userId, some event => advanceFound service userId event message
          | _, _ => .error .badlyFormedUuid

/-- The service goes on with what the handler returns, or as it was. -/
def orElse (service : Service) : Except EventError Service → Service
  | .ok service => service
  | .error _ => service

/-- The consumer logs what the handler raises and goes on. -/
def deliver (service : Service) (message : Message) : Service :=
  orElse service (handleEvent uuid4 service message)

/-! ## The badge of one user -/

def badgeOf (user : String) (service : Service) : Option BadgeState :=
  (service.profiles.lookupAlt user).map (·.badgeState)

/-- What an event of the user does to the badge; `none` is a user without profile. -/
def follow : Option BadgeState → String → Option BadgeState
  | none, eventName => if eventMap eventName = some none then some .unverified else none
  | some state, eventName =>
      match eventMap eventName with
      | some (some event) => some (applyEvent state event)
      | _ => some state

def Message.isOf (message : Message) (user : String) : Prop :=
  message.payload.userId.or message.payload.subjectId = .uuid user

instance (message : Message) (user : String) : Decidable (message.isOf user) :=
  inferInstanceAs (Decidable (_ = _))

theorem createShell_badgeOf (service : Service) (user : String) :
    ∃ created, createShell uuid4 service user = .ok created ∧
      badgeOf user created = some ((badgeOf user service).getD .unverified) := by
  unfold createShell
  cases found : service.profiles.lookupAlt user with
  | some profile => exact ⟨service, rfl, by simp [badgeOf, found]⟩
  | none =>
      cases inserted : service.profiles.insert? (shell uuid4 service.profiles user) with
      | some profiles =>
          refine ⟨_, rfl, ?_⟩
          simp [badgeOf, found, Table.lookupAlt_insert inserted, shell]
      | none =>
          rcases Table.insert?_eq_none_iff.1 inserted with taken | ⟨other, same, taken⟩
          · exact absurd taken (uuid4.fresh _)
          · obtain rfl : user = other := by simpa [shell] using same
            obtain ⟨row, mem, column⟩ := List.mem_filterMap.1 taken
            exact absurd column (Table.lookupAlt_eq_none_iff.1 found row mem)

/-- Only the profile that an event advances gets another badge. -/
theorem advance_badgeOf (service : Service) {profile : Profile}
    (mem : profile ∈ service.profiles.rows) (event : BadgeEvent) (eventName : String) (now : Int)
    (user : String) :
    badgeOf user (advance service profile event eventName now) =
      if profile.userId = user then some (applyEvent profile.badgeState event)
      else badgeOf user service := by
  have own : service.profiles.lookupAlt profile.userId = some profile :=
    Table.lookupAlt_eq_some_iff.2 ⟨mem, rfl⟩
  unfold advance applyEvent
  cases transition profile.badgeState event with
  | error _ =>
      by_cases same : profile.userId = user
      · subst same
        simp [badgeOf, own]
      · simp [same]
  | ok result =>
      simp only [badgeOf]
      rw [Table.lookupAlt_modify, Option.map_map]
      by_cases same : profile.userId = user
      · subst same
        simp [own, TransitionResult.write]
      · rw [if_neg same]
        refine Option.map_congr fun row found => ?_
        have apart : row.id ≠ profile.id := by
          intro sameId
          obtain rfl := Table.eq_of_key_eq (Table.mem_of_lookupAlt found) mem sameId
          have isUser := (Table.lookupAlt_eq_some_iff.1 found).2
          exact same (Option.some.inj isUser)
        simp [apart]

theorem mem_of_findProfile {profiles : ProfileTable} {user : String} {payload : Payload}
    {profile : Profile} (found : findProfile profiles user payload = .ok (some profile)) :
    profile ∈ profiles.rows := by
  unfold findProfile at found
  cases own : profiles.lookupAlt user with
  | some row =>
      simp only [own, Except.ok.injEq, Option.some.injEq] at found
      subst found
      exact Table.mem_of_lookupAlt own
  | none =>
      cases named : payload.profileId with
      | missing => simp [own, named] at found
      | malformed text => simp [own, named] at found
      | uuid profileId =>
          simp only [own, named, Except.ok.injEq] at found
          exact Table.mem_of_lookup found

theorem advanceFound_badgeOf (service : Service) (user : String) (event : BadgeEvent)
    (message : Message) :
    badgeOf user (orElse service (advanceFound service user event message)) =
      (badgeOf user service).map fun state => applyEvent state event := by
  unfold advanceFound
  cases own : service.profiles.lookupAlt user with
  | some profile =>
      have found : findProfile service.profiles user message.payload = .ok (some profile) := by
        simp [findProfile, own]
      obtain ⟨mem, isUser⟩ := Table.lookupAlt_eq_some_iff.1 own
      rw [found]
      simp only [orElse]
      rw [advance_badgeOf service mem, if_pos (Option.some.inj isUser)]
      simp [badgeOf, own]
  | none =>
      have absent : badgeOf user service = none := by simp [badgeOf, own]
      rw [absent, Option.map_none]
      cases found : findProfile service.profiles user message.payload with
      | error raised => exact absent
      | ok other =>
          cases other with
          | none => exact absent
          | some other =>
              have mem := mem_of_findProfile found
              have apart : other.userId ≠ user := fun same =>
                Table.lookupAlt_eq_none_iff.1 own other mem (congrArg some same)
              simp only [orElse]
              rw [advance_badgeOf service mem, if_neg apart, absent]

/-- The handler's effect on the badge of the user that a message is about. -/
theorem badgeOf_deliver (service : Service) {message : Message} {user : String}
    (own : message.isOf user) :
    badgeOf user (deliver uuid4 service message) =
      follow (badgeOf user service) message.eventName := by
  change badgeOf user (orElse service (handleEvent uuid4 service message)) = _
  unfold handleEvent
  simp only [show message.payload.userId.or message.payload.subjectId = .uuid user from own]
  cases known : eventMap message.eventName with
  | none => cases badge : badgeOf user service <;> simp [orElse, follow, known, badge]
  | some badgeEvent =>
      cases badgeEvent with
      | none =>
          obtain ⟨created, done, badge⟩ := createShell_badgeOf uuid4 service user
          simp only [done, orElse]
          rw [badge]
          cases badgeOf user service <;> simp [follow, known]
      | some event =>
          simp only
          rw [advanceFound_badgeOf]
          cases badgeOf user service <;> simp [follow, known]

theorem badgeOf_run {user : String} {messages : List Message}
    (own : ∀ message ∈ messages, message.isOf user) (service : Service) :
    badgeOf user (runFrom (deliver uuid4) service messages) =
      runFrom follow (badgeOf user service) (messages.map (·.eventName)) := by
  induction messages generalizing service with
  | nil => rfl
  | cons message messages ih =>
      rw [runFrom_cons, List.map_cons, runFrom_cons,
        ih (fun other mem => own other (by simp [mem])),
        badgeOf_deliver uuid4 service (own message (by simp))]

end Handling

/-! ## The order of delivery -/

/-- A user's way to an approved identity, in causal order. -/
def lifecycle : List String :=
  ["user.created", "user.email_verified", "identity.inquiry_started", "identity.verified"]

/-- The badges on this way. -/
def onTheWay : List (Option BadgeState) :=
  [none, some .unverified, some .emailVerified, some .identityPending, some .identityApproved]

/-- The events that a user with the badge has still ahead. -/
def ahead : Option BadgeState → List String
  | none => lifecycle
  | some .unverified => lifecycle.drop 1
  | some .emailVerified => lifecycle.drop 2
  | some .identityPending => lifecycle.drop 3
  | some _ => []

theorem follow_ahead : ∀ badge ∈ onTheWay, ∀ eventName ∈ lifecycle,
    follow badge eventName ∈ onTheWay ∧
      ahead (follow badge eventName) = await (ahead badge) eventName := by
  decide +kernel

theorem ahead_injective : ∀ badge ∈ onTheWay, ∀ other ∈ onTheWay,
    ahead badge = ahead other → badge = other := by
  decide +kernel

/-- The badge counts how much of the way was taken in causal order. -/
theorem ahead_run {badge : Option BadgeState} (start : badge ∈ onTheWay)
    {eventNames : List String} (known : ∀ eventName ∈ eventNames, eventName ∈ lifecycle) :
    runFrom follow badge eventNames ∈ onTheWay ∧
      ahead (runFrom follow badge eventNames) = awaited (ahead badge) eventNames := by
  induction eventNames generalizing badge with
  | nil => exact ⟨start, rfl⟩
  | cons eventName eventNames ih =>
      obtain ⟨stays, counts⟩ := follow_ahead badge start eventName (known eventName (by simp))
      obtain ⟨reaches, takes⟩ := ih stays fun other mem => known other (by simp [mem])
      refine ⟨reaches, takes.trans ?_⟩
      rw [counts]
      rfl

theorem isSome_iff_ahead : ∀ badge ∈ onTheWay,
    badge.isSome = true ↔ (ahead badge).length ≤ (lifecycle.drop 1).length := by
  decide +kernel

/-- There is a profile exactly if its creation was delivered. -/
theorem isSome_follow_iff {eventNames : List String}
    (known : ∀ eventName ∈ eventNames, eventName ∈ lifecycle) :
    (runFrom follow none eventNames).isSome = true ↔ "user.created" ∈ eventNames := by
  have start : none ∈ onTheWay := by decide
  obtain ⟨reaches, takes⟩ := ahead_run start known
  rw [isSome_iff_ahead _ reaches, takes, ← List.singleton_sublist]
  exact length_awaited_le_iff ["user.created"] (lifecycle.drop 1) eventNames

/-- The badge is that of the causal order exactly if the events that this order
takes into account came in it. -/
theorem follow_eq_inOrder_iff {eventNames : List String}
    (known : ∀ eventName ∈ eventNames, eventName ∈ lifecycle) :
    runFrom follow none eventNames = runFrom follow none (inOrder lifecycle eventNames) ↔
      (shown lifecycle eventNames).Sublist eventNames := by
  have start : none ∈ onTheWay := by decide
  obtain ⟨reaches, takes⟩ := ahead_run start known
  have knownInOrder : ∀ eventName ∈ inOrder lifecycle eventNames, eventName ∈ lifecycle :=
    fun eventName mem => List.mem_of_mem_filter mem
  obtain ⟨reaches', takes'⟩ := ahead_run start knownInOrder
  rw [← awaited_eq_inOrder_iff]
  change _ ↔ awaited (ahead none) eventNames = awaited (ahead none) (inOrder lifecycle eventNames)
  rw [← takes, ← takes']
  exact ⟨congrArg ahead, ahead_injective _ reaches _ reaches'⟩

/-- Ids one letter longer than all that are in use. -/
def longerId : IdSource where
  draw used := String.ofList (List.replicate ((used.map (·.length)).sum + 1) 'a')
  fresh used := by
    intro taken
    have longer := List.le_sum_of_mem (List.mem_map_of_mem (f := String.length) taken)
    rw [String.length_ofList, List.length_replicate] at longer
    exact absurd longer (Nat.not_succ_le_self _)

def emptyService : Service := ⟨.empty, []⟩

def sampleMessage (eventName : String) : Message :=
  ⟨eventName, ⟨.uuid "ana", .missing, .missing⟩, 100⟩

def earlyVerification : List Message :=
  ["user.created", "user.email_verified", "identity.verified",
    "identity.inquiry_started"].map sampleMessage

end ColabPlatform.Profiles
