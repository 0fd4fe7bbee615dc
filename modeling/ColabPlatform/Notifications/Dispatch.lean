import ColabPlatform.Notifications.Preferences

/-!
# Notification service: dispatching to the channels

`dispatch_notification` tries the devices of the user, decides about an email and a banner,
and records on the row of the notification what came of it.  The fallback to email asks for
the preference that the direct email has just been refused by, so it never sends one.
-/

namespace ColabPlatform.Notifications

open Foundation

/-! ## What is dispatched -/

/-- `KEY_NOTIFICATION_TYPES` -/
def keyNotificationTypes : List NotificationType :=
  [.newMatch, .requestAccepted, .aiMockupReady, .collabNudge, .collabStatusChange]

structure PushDevice where
  id : Nat
  userId : String
  platform : String
  snsEndpointArn : Option String
  endpointEnabled : Bool
  deriving DecidableEq, Repr

/-- A row of `notification`, with what a dispatch records. -/
structure NotificationRow where
  id : Nat
  userId : String
  notifType : NotificationType
  deliveredPushAt : Option Int := none
  pushFailedAt : Option Int := none
  pushFailureReason : Option String := none
  deliveredEmailAt : Option Int := none
  emailFailedAt : Option Int := none
  emailFailureReason : Option String := none
  deriving DecidableEq, Repr

structure DispatchRequest where
  notifId : Nat
  userId : String
  notifType : NotificationType
  /-- `recipient_email` of the payload -/
  recipientEmail : Option String := none
  pushTitle : String := ""
  pushBody : String := ""
  pushDeepLink : Option String := none
  emailSubject : Option String := none
  emailTemplate : Option String := none
  emailContext : List (String × String) := []
  emailFrom : Option String := none
  inappTitle : Option String := none
  inappBody : Option String := none
  inappActionUrl : Option String := none
  forceEmail : Bool := false

structure Push where
  endpointArn : String
  platform : String
  title : String
  body : String
  notifId : Nat
  notifType : NotificationType
  deepLink : Option String
  deriving DecidableEq, Repr

structure Email where
  toAddress : String
  subject : String
  templateName : String
  context : List (String × String)
  fromAddress : String
  deriving DecidableEq, Repr

structure Banner where
  userId : String
  notifId : Nat
  notifType : NotificationType
  title : String
  body : String
  actionUrl : Option String
  createdAt : Int
  deriving DecidableEq, Repr

/-- What one dispatch has sent; a push may have been refused. -/
structure Outbox where
  pushes : List Push := []
  emails : List Email := []
  banners : List Banner := []

/-- The time, whether SNS accepts a push or the code of its error, and whether SES accepts an
email. -/
structure Channels where
  now : Int
  sns : PushDevice → Except String Unit
  ses : Email → Bool

structure Dispatcher where
  redis : Redis
  notifications : List NotificationRow
  preferences : PreferenceTable
  devices : List PushDevice

def noreplyAddress : String := "noreply@mail.colab.app"

def marketingAddress : String := "hello@mail.colab.app"

/-- A text that is there and not empty. -/
def given (text : Option String) : Option String := text.filter fun text => text ≠ ""

namespace DispatchRequest

/-- The email of the request, if it has a template and a subject. -/
def email (r : DispatchRequest) : Option Email :=
  match given r.emailTemplate, given r.emailSubject with
  | some template, some subject =>
      some ⟨r.recipientEmail.getD "", subject, template, r.emailContext,
        if r.notifType = .marketing then (given r.emailFrom).getD marketingAddress
        else noreplyAddress⟩
  | _, _ => none

def banner (r : DispatchRequest) (now : Int) : Option Banner :=
  match given r.inappTitle, given r.inappBody with
  | some title, some body =>
      some ⟨r.userId, r.notifId, r.notifType, title, body, r.inappActionUrl, now⟩
  | _, _ => none

def push (r : DispatchRequest) (device : PushDevice) (endpointArn : String) : Push :=
  ⟨endpointArn, device.platform, r.pushTitle, r.pushBody, r.notifId, r.notifType, r.pushDeepLink⟩

end DispatchRequest

/-! ## The push channel -/

/-- `_get_active_push_devices` -/
def activePushDevices (devices : List PushDevice) (userId : String) : List PushDevice :=
  devices.filter fun device => device.userId = userId && device.endpointEnabled

/-- `_mark_endpoint_disabled` -/
def markEndpointDisabled (devices : List PushDevice) (device : PushDevice) : List PushDevice :=
  devices.map fun row =>
    if row.id = device.id then { row with endpointEnabled := false, snsEndpointArn := none }
    else row

/-- The rows of the devices, the attempts so far, and `push_delivered` and `push_failed`. -/
structure PushRound where
  devices : List PushDevice
  pushes : List Push := []
  delivered : Bool := false
  failed : Bool := false

/-- One turn of the loop over the devices. -/
def PushRound.tryDevice (c : Channels) (r : DispatchRequest) (round : PushRound)
    (device : PushDevice) : PushRound :=
  match given device.snsEndpointArn with
  | none => round
  | some endpointArn =>
      let pushes := round.pushes ++ [r.push device endpointArn]
      match c.sns device with
      | .ok () => { round with pushes, delivered := true }
      | .error code =>
          if code = "EndpointDisabled" then
            { round with
              pushes
              devices := markEndpointDisabled round.devices device
              failed := true }
          else { round with pushes, failed := true }

/-! ## The dispatch -/

namespace Dispatcher

def prefers (s : Dispatcher) (r : DispatchRequest) (channel : NotificationChannel) : Bool :=
  s.preferences.getPreference r.userId r.notifType channel

def pushRound (c : Channels) (r : DispatchRequest) (s : Dispatcher) : PushRound :=
  if s.prefers r .push then
    (activePushDevices s.devices r.userId).foldl (PushRound.tryDevice c r) { devices := s.devices }
  else { devices := s.devices }

/-- `email_should_send`, after the push channel -/
def emailShouldSend (s : Dispatcher) (r : DispatchRequest) (round : PushRound) : Bool :=
  if r.forceEmail then true
  else if s.prefers r .email then true
  else if keyNotificationTypes.contains r.notifType then
    let pushDevices := activePushDevices round.devices r.userId
    let pushUnreachable := !s.prefers r .push || pushDevices.isEmpty || round.failed
    if pushUnreachable then s.prefers r .email else false
  else false

end Dispatcher

/-- `push_updates` and `email_updates`, where an email was accepted, refused or not sent. -/
def NotificationRow.record (row : NotificationRow) (now : Int) (round : PushRound)
    (accepted : Option Bool) : NotificationRow :=
  let row :=
    if round.delivered then { row with deliveredPushAt := some now }
    else if round.failed then
      { row with pushFailedAt := some now, pushFailureReason := some "sns_error" }
    else row
  match accepted with
  | some true => { row with deliveredEmailAt := some now }
  | some false => { row with emailFailedAt := some now, emailFailureReason := some "ses_error" }
  | none => row

/-- `dispatch_notification` -/
def dispatchNotification (c : Channels) (r : DispatchRequest) (s : Dispatcher) :
    Outbox × Dispatcher :=
  match idempotencySetnx s.redis c.now (.dispatch r.notifId) 86400 r.notifId with
  | .error _ => ({}, s)
  | .ok redis =>
      match s.notifications.find? fun row => row.id = r.notifId with
      | none => ({}, { s with redis })
      | some _ =>
          let round := s.pushRound c r
          let email := if s.emailShouldSend r round then r.email else none
          let banner := if s.prefers r .inApp then r.banner c.now else none
          (⟨round.pushes, email.toList, banner.toList⟩,
            { s with
              redis
              devices := round.devices
              notifications := s.notifications.map fun row =>
                if row.id = r.notifId then row.record c.now round (email.map c.ses) else row })

/-- `_create_and_dispatch`, with the id that the row gets when it is flushed -/
def createAndDispatch (c : Channels) (r : DispatchRequest) (s : Dispatcher) :
    Outbox × Dispatcher :=
  dispatchNotification c r
    { s with notifications := ⟨r.notifId, r.userId, r.notifType, none, none, none, none, none,
        none⟩ :: s.notifications }

/-! ## What it sends -/

/-- Without an override the email preference alone decides about the email. -/
theorem emailShouldSend_eq {s : Dispatcher} {r : DispatchRequest} (round : PushRound)
    (ordinary : r.forceEmail = false) : s.emailShouldSend r round = s.prefers r .email := by
  unfold Dispatcher.emailShouldSend
  rw [ordinary]
  cases s.prefers r .email <;> simp

/-- The row of the notification is there, and nothing was dispatched for it. -/
structure Dispatcher.Undispatched (s : Dispatcher) (c : Channels) (notifId : Nat) : Prop where
  gate : s.redis.get c.now (.dispatch notifId) = none
  row : ∃ row ∈ s.notifications, row.id = notifId
  unsent : ∀ row ∈ s.notifications, row.id = notifId →
    row.deliveredPushAt = none ∧ row.pushFailedAt = none

theorem Dispatcher.Undispatched.passes {s : Dispatcher} {c : Channels} {notifId : Nat}
    (undispatched : s.Undispatched c notifId) :
    idempotencySetnx s.redis c.now (.dispatch notifId) 86400 notifId =
      .ok (s.redis.setEx c.now 86400 (.dispatch notifId) notifId) := by
  rw [idempotencySetnx, undispatched.gate]

/-- A new row is dispatched for the first time. -/
theorem undispatched_create {s : Dispatcher} {c : Channels} {r : DispatchRequest}
    (gate : s.redis.get c.now (.dispatch r.notifId) = none)
    (new : ∀ row ∈ s.notifications, row.id ≠ r.notifId) :
    Dispatcher.Undispatched { s with notifications := ⟨r.notifId, r.userId, r.notifType, none,
      none, none, none, none, none⟩ :: s.notifications } c r.notifId := by
  refine ⟨gate, ⟨_, List.mem_cons_self .., rfl⟩, ?_⟩
  intro row mem same
  rcases List.mem_cons.1 mem with rfl | mem
  · exact ⟨rfl, rfl⟩
  · exact absurd same (new row mem)

theorem dispatchNotification_of_undispatched {s : Dispatcher} {c : Channels}
    {r : DispatchRequest} (undispatched : s.Undispatched c r.notifId) :
    dispatchNotification c r s =
      let round := s.pushRound c r
      let email := if s.emailShouldSend r round then r.email else none
      let banner := if s.prefers r .inApp then r.banner c.now else none
      (⟨round.pushes, email.toList, banner.toList⟩,
        { s with
          redis := s.redis.setEx c.now 86400 (.dispatch r.notifId) r.notifId
          devices := round.devices
          notifications := s.notifications.map fun row =>
            if row.id = r.notifId then row.record c.now round (email.map c.ses) else row }) := by
  obtain ⟨row, mem, same⟩ := undispatched.row
  have found : (s.notifications.find? fun row => row.id = r.notifId).isSome := by
    rw [List.find?_isSome]
    exact ⟨row, mem, decide_eq_true same⟩
  obtain ⟨found, there⟩ := Option.isSome_iff_exists.1 found
  rw [dispatchNotification, undispatched.passes]
  simp only [there]

/-- A push is delivered or has failed, not both. -/
theorem record_outcome {row : NotificationRow} (now : Int) (round : PushRound)
    (accepted : Option Bool) (unsent : row.deliveredPushAt = none ∧ row.pushFailedAt = none) :
    ¬ ((row.record now round accepted).deliveredPushAt.isSome ∧
      (row.record now round accepted).pushFailedAt.isSome) := by
  obtain ⟨delivered, failed⟩ := unsent
  unfold NotificationRow.record
  cases round.delivered <;> cases round.failed <;> rcases accepted with _ | _ | _ <;>
    simp [delivered, failed]

/-- What a dispatch does to the email channel and to the outcome of the push. -/
structure FollowsEmailPreference (c : Channels) (r : DispatchRequest) (s : Dispatcher) :
    Prop where
  /-- the email preference on, or not set: the email goes out, be the user reached or not -/
  direct : s.prefers r .email = true →
    ∃ email, r.email = some email ∧ (dispatchNotification c r s).1.emails = [email]
  /-- the email preference off: none goes out, of whatever type and be the user reached or not -/
  silent : s.prefers r .email = false → (dispatchNotification c r s).1.emails = []
  outcome : ∀ row ∈ (dispatchNotification c r s).2.notifications, row.id = r.notifId →
    ¬ (row.deliveredPushAt.isSome ∧ row.pushFailedAt.isSome)

/-- A user without devices whose email for new matches is off. -/
def unreachableUser : Dispatcher where
  redis := .empty
  notifications := [⟨0, "u", .newMatch, none, none, none, none, none, none⟩]
  preferences := PreferenceTable.setPreference .empty ("u", .newMatch, .email) false
  devices := []

def newMatchRequest : DispatchRequest where
  notifId := 0
  userId := "u"
  notifType := .newMatch
  emailSubject := some "You have a new match on Colab!"
  emailTemplate := some "new_match.html"

end ColabPlatform.Notifications
