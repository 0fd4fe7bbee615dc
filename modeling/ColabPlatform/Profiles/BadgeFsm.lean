import ColabPlatform.Foundation.Milestones
import Mathlib.Data.Rat.Defs
import Mathlib.Algebra.Order.Ring.Rat

/-!
# Profile service: the badge state machine

The transition table of the Valid Profile Badge, and what a history of events
must have shown for the badge to be granted.
-/

namespace ColabPlatform.Profiles

open Foundation

inductive BadgeState where
  | unverified
  | emailVerified
  | identityPending
  | identityApproved
  | aiReviewPending
  | badgeGranted
  | badgeHeld
  | badgeRevoked
  deriving DecidableEq, Repr

inductive BadgeEvent where
  | userEmailVerified
  | identityInquiryStarted
  | identityVerified
  | identityDeclined
  | identityNeedsReview
  | moderationCleared
  | moderationUpheld
  | moderationAppealUpheld
  | userDeleted
  | aiReviewStarted
  | profileReviewCompletedPass
  | profileReviewCompletedSoftWarn
  | profileReviewCompletedHide
  | profileReviewCompletedSevere
  | profileUpdatedMaterial
  | badgeRecheckRequested
  deriving DecidableEq, Repr

structure TransitionResult where
  newState : BadgeState
  sideEffects : List String
  badgeHeldReason : Option String := none
  terminal : Bool := false
  deriving DecidableEq, Repr

open BadgeState BadgeEvent in
/-- The table; `none` is a pair without an entry. -/
def transitions : BadgeState → BadgeEvent → Option TransitionResult
  | unverified, userEmailVerified => some ⟨emailVerified, ["profile.email_verified"], none, false⟩
  | unverified, userDeleted => some ⟨unverified, [], none, true⟩
  | emailVerified, identityInquiryStarted => some ⟨identityPending, [], none, false⟩
  | emailVerified, userDeleted => some ⟨emailVerified, [], none, true⟩
  | identityPending, identityVerified => some ⟨identityApproved, ["ai.review.fire"], none, false⟩
  | identityPending, identityDeclined => some ⟨emailVerified, [], none, false⟩
  | identityPending, identityNeedsReview =>
      some ⟨identityPending, ["moderation.queue.identity"], none, false⟩
  | identityPending, userDeleted => some ⟨identityPending, [], none, true⟩
  | identityApproved, aiReviewStarted => some ⟨aiReviewPending, [], none, false⟩
  | identityApproved, userDeleted => some ⟨identityApproved, [], none, true⟩
  | aiReviewPending, profileReviewCompletedPass =>
      some ⟨badgeGranted, ["profile.badge_granted"], none, false⟩
  | aiReviewPending, profileReviewCompletedSoftWarn =>
      some ⟨badgeHeld, ["profile.badge_held"], some "soft_flag", false⟩
  | aiReviewPending, profileReviewCompletedHide =>
      some ⟨badgeHeld, ["profile.badge_held"], some "content_hidden", false⟩
  | aiReviewPending, profileReviewCompletedSevere =>
      some ⟨badgeHeld, ["profile.badge_held", "user.temp_mute_requested"],
        some "severe_flag", false⟩
  | aiReviewPending, userDeleted => some ⟨aiReviewPending, [], none, true⟩
  | badgeGranted, moderationUpheld => some ⟨badgeRevoked, ["profile.badge_revoked"], none, false⟩
  | badgeGranted, profileUpdatedMaterial => some ⟨aiReviewPending, ["ai.review.fire"], none, false⟩
  | badgeGranted, badgeRecheckRequested => some ⟨aiReviewPending, ["ai.review.fire"], none, false⟩
  | badgeGranted, userDeleted => some ⟨badgeGranted, [], none, true⟩
  | badgeHeld, moderationCleared => some ⟨badgeGranted, ["profile.badge_granted"], none, false⟩
  | badgeHeld, moderationUpheld => some ⟨badgeRevoked, ["profile.badge_revoked"], none, false⟩
  | badgeHeld, userDeleted => some ⟨badgeHeld, [], none, true⟩
  | badgeRevoked, moderationAppealUpheld =>
      some ⟨badgeGranted, ["profile.badge_granted"], none, false⟩
  | badgeRevoked, userDeleted => some ⟨badgeRevoked, [], none, true⟩
  | _, _ => none

/-- A pair of a state and an event that has no entry in the table. -/
structure NoTransition where
  state : BadgeState
  event : BadgeEvent
  deriving DecidableEq, Repr

def transition (state : BadgeState) (event : BadgeEvent) :
    Except NoTransition TransitionResult :=
  match transitions state event with
  | some result => .ok result
  | none => .error ⟨state, event⟩

abbrev Score := ℚ

/-- The review-completed event of an aggregate score. -/
def scoreToEvent (score : Score) : BadgeEvent :=
  if score < 40 / 100 then .profileReviewCompletedPass
  else if score < 70 / 100 then .profileReviewCompletedSoftWarn
  else if score < 90 / 100 then .profileReviewCompletedHide
  else .profileReviewCompletedSevere

/-! ## Events one after the other -/

/-- An event without a transition leaves the state as it is. -/
def applyEvent (state : BadgeState) (event : BadgeEvent) : BadgeState :=
  match transition state event with
  | .ok result => result.newState
  | .error _ => state

/-- The events that end in a granted badge. -/
def BadgeEvent.grants : BadgeEvent → Bool
  | .profileReviewCompletedPass | .moderationCleared | .moderationAppealUpheld => true
  | _ => false

theorem grants_iff (event : BadgeEvent) :
    event.grants = true ↔ event = .profileReviewCompletedPass ∨
      event = .moderationCleared ∨ event = .moderationAppealUpheld := by
  cases event <;> simp [BadgeEvent.grants]

/-- What has been seen of a user whose badge is in the state. -/
def BadgeState.certifies : BadgeState → List (BadgeEvent → Prop)
  | unverified => []
  | emailVerified | identityPending => [(· = .userEmailVerified)]
  | identityApproved | aiReviewPending | badgeHeld | badgeRevoked =>
      [(· = .userEmailVerified), (· = .identityVerified)]
  | badgeGranted => [(· = .userEmailVerified), (· = .identityVerified), (·.grants = true)]

/-- No event leads to a state that certifies more than it and the state before did. -/
theorem certifies_applyEvent (state : BadgeState) (event : BadgeEvent) :
    (applyEvent state event).certifies <+: state.certifies ∨
      ∃ milestone : BadgeEvent → Prop, milestone event ∧
        (applyEvent state event).certifies = state.certifies ++ [milestone] := by
  cases state <;> cases event <;>
    first
      | exact Or.inl ⟨_, rfl⟩
      | refine Or.inr ⟨_, ?_, rfl⟩
        rfl

theorem occurs_certifies (events : List BadgeEvent) :
    Occurs (runFrom applyEvent .unverified events).certifies events :=
  occurs_of_run certifies_applyEvent rfl events

/-- A badge is granted only after the email, then the identity was verified and
then a review passed, moderation cleared the profile or an appeal was upheld. -/
theorem granted_earned (events : List BadgeEvent)
    (granted : runFrom applyEvent .unverified events = .badgeGranted) :
    ∃ last : BadgeEvent, last.grants = true ∧
      [BadgeEvent.userEmailVerified, .identityVerified, last].Sublist events := by
  have occurs := occurs_certifies events
  rw [granted] at occurs
  obtain ⟨seen, meets, sub⟩ := List.sublistForall₂_iff.1 occurs
  cases meets with
  | cons email meets =>
      cases meets with
      | cons identity meets =>
          cases meets with
          | cons grants meets =>
              cases meets
              obtain rfl := email
              obtain rfl := identity
              exact ⟨_, grants, sub⟩

end ColabPlatform.Profiles
