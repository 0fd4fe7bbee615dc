import ColabPlatform.Foundation.Run
import ColabPlatform.Notifications.Dispatch

/-!
# Notification service: seeding over partial rows

`seed_preferences` flushes the rows of all types and channels together.  A single row that is
already there refuses the flush, the session is rolled back, and the rest stays missing, which
the dispatch reads as enabled.  The file says when a call completes the rows, and what follows
for the two types that are off by default.
-/

namespace ColabPlatform.Notifications

open Foundation Foundation.Program

/-! ## One call -/

section Call

variable {ω : Type}

/-- The pairs that a user has no row for. -/
def missing (t : PreferenceTable) (userId : String) :
    List (NotificationType × NotificationChannel) :=
  (notificationTypes ×ˢ notificationChannels).filter fun pair =>
    t.lookup (userId, pair.1, pair.2) = none

/-- What seeding promises; the table itself holds at most one row for each key. -/
structure SeedCompleted (userId : String) (before : NotifDb ω) (inserted : Nat)
    (after : NotifDb ω) : Prop where
  complete : AllPreferences after.preferences userId
  kept : ∀ key row, before.preferences.lookup key = some row →
    after.preferences.lookup key = some row
  defaults : ∀ key row, before.preferences.lookup key = none →
    after.preferences.lookup key = some row →
      key.1 = userId ∧ row = defaultPreference userId key.2.1 key.2.2
  count : inserted = (missing before.preferences userId).length
  pending : after.other = before.other

def SeedingCompletes (userId : String) (s : Session (NotifDb ω)) : Prop :=
  ∃ inserted s', (seedPreferences userId : Program Empty (NotifDb ω) Nat).run s = .ok inserted s' ∧
    SeedCompleted userId s.working inserted s'.working

/-- The user has no row, or has them all and the session holds nothing that is not committed. -/
def Seedable (userId : String) (s : Session (NotifDb ω)) : Prop :=
  (s.closed = false ∧ NoPreferences s.working.preferences userId) ∨
    (AllPreferences s.working.preferences userId ∧ s.committed.other = s.working.other ∧
      ∀ key, s.committed.preferences.lookup key = s.working.preferences.lookup key)

theorem missing_eq_nil_iff {t : PreferenceTable} {userId : String} :
    missing t userId = [] ↔ AllPreferences t userId := by
  rw [missing, List.filter_eq_nil_iff]
  constructor
  · intro there type channel
    simpa [Option.isSome_iff_ne_none] using there (type, channel) (mem_pairs type channel)
  · intro all pair _
    simpa [Option.isSome_iff_ne_none] using all pair.1 pair.2

theorem length_missing_of_none {t : PreferenceTable} {userId : String}
    (none : NoPreferences t userId) : (missing t userId).length = 33 := by
  have every : missing t userId = notificationTypes ×ˢ notificationChannels := by
    rw [missing, List.filter_eq_self]
    intro pair _
    exact decide_eq_true (none pair.1 pair.2)
  rw [every]
  rfl

/-- The batch is flushed into a table that holds no row of the user. -/
theorem seedCompleted_of_insertAll? {userId : String} {before : NotifDb ω}
    {preferences : PreferenceTable}
    (seeded : before.preferences.insertAll? (defaultPreferences userId) = some preferences) :
    SeedCompleted userId before 33 { before with preferences } := by
  have none := noPreferences_of_insertAll? seeded
  have now := lookup_insertAll?_defaults seeded
  constructor
  · intro type channel
    change (preferences.lookup _).isSome
    rw [now, if_pos rfl]
    rfl
  · intro key row there
    change preferences.lookup key = some row
    rw [now, if_neg, there]
    rintro rfl
    rw [none] at there
    contradiction
  · intro key row absent there
    change preferences.lookup key = some row at there
    rw [now] at there
    by_cases own : key.1 = userId
    · rw [if_pos own, Option.some.injEq] at there
      exact ⟨own, there.symm⟩
    · rw [if_neg own, absent] at there
      contradiction
  · exact (length_missing_of_none none).symm
  · rfl

/-- The session is rolled back to `after`, and nothing is inserted. -/
theorem seedCompleted_zero_iff {userId : String} {before after : NotifDb ω} :
    SeedCompleted userId before 0 after ↔ AllPreferences before.preferences userId ∧
      after.other = before.other ∧
        ∀ key, after.preferences.lookup key = before.preferences.lookup key := by
  constructor
  · intro completed
    have all : AllPreferences before.preferences userId :=
      missing_eq_nil_iff.1 (List.length_eq_zero_iff.1 completed.count.symm)
    refine ⟨all, completed.pending, fun key => ?_⟩
    cases there : before.preferences.lookup key with
    | some row => exact completed.kept key row there
    | none =>
        cases later : after.preferences.lookup key with
        | none => rfl
        | some row =>
            obtain ⟨own, -⟩ := completed.defaults key row there later
            have present := all key.2.1 key.2.2
            rw [← own, there] at present
            contradiction
  · rintro ⟨all, pending, same⟩
    constructor
    · intro type channel
      rw [same]
      exact all type channel
    · intro key row there
      rw [same, there]
    · intro key row absent there
      rw [same, absent] at there
      contradiction
    · rw [missing_eq_nil_iff.2 all]
      rfl
    · exact pending

theorem seedingCompletes_iff {userId : String} {s : Session (NotifDb ω)} :
    SeedingCompletes userId s ↔ Seedable userId s := by
  have rolledBack : (∃ inserted s', (EStateM.Result.ok 0 s.rolledBack :
        EStateM.Result (Raised Empty) (Session (NotifDb ω)) Nat) = .ok inserted s' ∧
      SeedCompleted userId s.working inserted s'.working) ↔
        SeedCompleted userId s.working 0 s.committed := by
    constructor
    · rintro ⟨_, _, ended, completed⟩
      cases ended
      exact completed
    · intro completed
      exact ⟨0, s.rolledBack, rfl, completed⟩
  unfold SeedingCompletes Seedable
  rw [run_seedPreferences]
  cases closed : s.closed with
  | true =>
      rw [if_pos rfl, rolledBack, seedCompleted_zero_iff]
      simp
  | false =>
      rw [if_neg Bool.false_ne_true, ← isSome_insertAll?_defaults]
      cases seeded : s.working.preferences.insertAll? (defaultPreferences userId) with
      | none =>
          rw [rolledBack, seedCompleted_zero_iff]
          simp
      | some preferences =>
          refine iff_of_true ?_ (.inl ⟨rfl, rfl⟩)
          exact ⟨33, _, rfl, seedCompleted_of_insertAll? seeded⟩

end Call

/-! ## Any order of deliveries and changes -/

/-- Something went out on a channel; `wanted` if the user had switched it on by then. -/
structure Sending where
  userId : String
  type : NotificationType
  channel : NotificationChannel
  wanted : Bool
  deriving DecidableEq, Repr

/-- The service, and what happened: the deliveries of `user.created`, what the users last chose,
and what was sent. -/
structure NotifHistory where
  dispatcher : Dispatcher
  created : List String
  chosen : PreferenceKey → Option Bool
  sent : List Sending

inductive PreferenceEvent where
  | userCreated (userId : String)
  | patch (userId : String) (updates : List PreferenceUpdate)
  | unsubscribe (userId : String) (type : NotificationType) (channel : NotificationChannel)
  | dispatch (c : Channels) (r : DispatchRequest)
  /-- `_run_digest`: who was active, and the addresses -/
  | digest (active : String → Bool) (emailOf : String → Option String)
  | register (devices : List PushDevice)

/-- The handling of `user.created`, in a session of its own. -/
def handleUserCreated (userId : String) (t : PreferenceTable) : PreferenceTable :=
  (atomically true (seedPreferences userId : Program Empty (NotifDb Unit) Nat)
    ⟨t, ()⟩).2.preferences

def choose (userId : String) (updates : List PreferenceUpdate)
    (chosen : PreferenceKey → Option Bool) : PreferenceKey → Option Bool :=
  updates.foldl (fun chosen update =>
    Function.update chosen (userId, update.type, update.channel) (some update.enabled)) chosen

/-- No task passes `force_email`. -/
def DispatchRequest.ordinary (r : DispatchRequest) : DispatchRequest :=
  { r with forceEmail := false }

def Outbox.channels (outbox : Outbox) : List NotificationChannel :=
  outbox.pushes.map (fun _ => .push) ++ outbox.emails.map (fun _ => .email) ++
    outbox.banners.map fun _ => .inApp

/-- The users that a digest is sent to. -/
def digestRecipients (t : PreferenceTable) (active : String → Bool)
    (emailOf : String → Option String) : List String :=
  (t.rows.filter fun pref =>
    pref.type = .weeklyDigest && pref.channel = .email && pref.enabled && active pref.userId &&
      (given (emailOf pref.userId)).isSome).map NotificationPreference.userId

namespace NotifHistory

/-- The service before its first user. -/
def start (redis : Redis) (notifications : List NotificationRow) (devices : List PushDevice) :
    NotifHistory :=
  ⟨⟨redis, notifications, .empty, devices⟩, [], fun _ => none, []⟩

def preferences (h : NotifHistory) : PreferenceTable := h.dispatcher.preferences

def setPreferences (h : NotifHistory) (preferences : PreferenceTable) : NotifHistory :=
  { h with dispatcher := { h.dispatcher with preferences } }

def sending (h : NotifHistory) (userId : String) (type : NotificationType)
    (channel : NotificationChannel) : Sending :=
  ⟨userId, type, channel, h.chosen (userId, type, channel) = some true⟩

def step (h : NotifHistory) : PreferenceEvent → NotifHistory
  | .userCreated userId =>
      { h.setPreferences (handleUserCreated userId h.preferences) with
        created := userId :: h.created }
  | .patch userId updates =>
      { h.setPreferences (patchPreferences userId updates h.preferences) with
        chosen := choose userId updates h.chosen }
  | .unsubscribe userId type channel =>
      { h.setPreferences (oneClickUnsubscribe userId type channel h.preferences) with
        chosen := choose userId [⟨type, channel, false⟩] h.chosen }
  | .dispatch c r =>
      let (outbox, dispatcher) := createAndDispatch c r.ordinary h.dispatcher
      { h with
        dispatcher
        sent := h.sent ++ outbox.channels.map (h.sending r.userId r.notifType) }
  | .digest active emailOf =>
      { h with
        sent := h.sent ++ (digestRecipients h.preferences active emailOf).map fun userId =>
          h.sending userId .weeklyDigest .email }
  | .register devices => { h with dispatcher := { h.dispatcher with devices } }

/-- What is off by default goes only to those who switched it on. -/
def Safe (h : NotifHistory) : Prop :=
  ∀ sending ∈ h.sent, sending.type ∈ defaultOffTypes → sending.wanted = true

instance (h : NotifHistory) : Decidable h.Safe :=
  inferInstanceAs (Decidable (∀ sending ∈ h.sent, _))

/-- `user.created` is delivered for a user with no row or with all of them, and what is off by
default is dispatched after such a delivery, or to a user whose rows of the type are there. -/
def SeedsFirst (h : NotifHistory) : PreferenceEvent → Prop
  | .userCreated userId => NoPreferences h.preferences userId ∨ AllPreferences h.preferences userId
  | .dispatch _ r => r.notifType ∈ defaultOffTypes → r.userId ∈ h.created ∨
      ∀ channel, (h.preferences.lookup (r.userId, r.notifType, channel)).isSome
  | _ => True

end NotifHistory

/-! ## What the changes keep -/

/-- Where a type that is off by default is on, the user chose so. -/
def OnByChoice (chosen : PreferenceKey → Option Bool) (t : PreferenceTable) : Prop :=
  ∀ key row, t.lookup key = some row → key.2.1 ∈ defaultOffTypes → row.enabled = true →
    chosen key = some true

theorem patchPreferences_cons (userId : String) (update : PreferenceUpdate)
    (updates : List PreferenceUpdate) (t : PreferenceTable) :
    patchPreferences userId (update :: updates) t = patchPreferences userId updates
      (t.setPreference (userId, update.type, update.channel) update.enabled) := rfl

theorem choose_cons (userId : String) (update : PreferenceUpdate)
    (updates : List PreferenceUpdate) (chosen : PreferenceKey → Option Bool) :
    choose userId (update :: updates) chosen = choose userId updates
      (Function.update chosen (userId, update.type, update.channel) (some update.enabled)) := rfl

section Changes

variable {t : PreferenceTable} {chosen : PreferenceKey → Option Bool}

theorem OnByChoice.set (kept : OnByChoice chosen t) (key : PreferenceKey) (enabled : Bool) :
    OnByChoice (Function.update chosen key (some enabled)) (t.setPreference key enabled) := by
  intro k row there off on
  rw [lookup_setPreference] at there
  by_cases same : key = k
  · subst same
    rw [if_pos rfl, Option.some.injEq] at there
    rw [Function.update_self, ← on, ← there]
  · rw [if_neg same] at there
    rw [Function.update_of_ne (Ne.symm same)]
    exact kept k row there off on

theorem OnByChoice.patch (userId : String) (updates : List PreferenceUpdate)
    (kept : OnByChoice chosen t) :
    OnByChoice (choose userId updates chosen) (patchPreferences userId updates t) := by
  induction updates generalizing t chosen with
  | nil => exact kept
  | cons update updates ih =>
      rw [patchPreferences_cons, choose_cons]
      exact ih (kept.set _ _)

theorem AllPreferences.set {userId : String} (all : AllPreferences t userId)
    (key : PreferenceKey) (enabled : Bool) :
    AllPreferences (t.setPreference key enabled) userId := by
  intro type channel
  rw [lookup_setPreference]
  split
  · rfl
  · exact all type channel

theorem AllPreferences.patch {userId : String} (author : String)
    (updates : List PreferenceUpdate) (all : AllPreferences t userId) :
    AllPreferences (patchPreferences author updates t) userId := by
  induction updates generalizing t with
  | nil => exact all
  | cons update updates ih =>
      rw [patchPreferences_cons]
      exact ih (all.set _ _)

theorem handleUserCreated_eq (userId : String) (t : PreferenceTable) :
    handleUserCreated userId t = (t.insertAll? (defaultPreferences userId)).getD t := by
  unfold handleUserCreated atomically
  rw [run_seedPreferences]
  simp only [Session.closed_start, Session.working_start, Bool.false_eq_true, if_false]
  cases t.insertAll? (defaultPreferences userId) <;> rfl

/-- A delivery adds the defaults for a new user, and changes nothing for one who has all rows. -/
theorem lookup_handleUserCreated {userId : String}
    (seedable : NoPreferences t userId ∨ AllPreferences t userId) (k : PreferenceKey) :
    (handleUserCreated userId t).lookup k =
      (t.lookup k).or
        (if k.1 = userId then some (defaultPreference userId k.2.1 k.2.2) else none) := by
  rw [handleUserCreated_eq]
  cases seeded : t.insertAll? (defaultPreferences userId) with
  | some t' =>
      have none := noPreferences_of_insertAll? seeded
      rw [Option.getD_some, lookup_insertAll?_defaults seeded]
      by_cases own : k.1 = userId
      · subst own
        rw [if_pos rfl, if_pos rfl, none k.2.1 k.2.2, Option.none_or]
      · rw [if_neg own, if_neg own, Option.or_none]
  | none =>
      have taken : ¬ NoPreferences t userId := fun none => by
        simpa [seeded] using isSome_insertAll?_defaults.2 none
      rw [Option.getD_none]
      by_cases own : k.1 = userId
      · subst own
        have present := seedable.resolve_left taken k.2.1 k.2.2
        exact (Option.or_of_isSome present).symm
      · rw [if_neg own, Option.or_none]

end Changes

/-! ## What a dispatch and a digest send -/

theorem Outbox.mem_channels_iff {outbox : Outbox} {channel : NotificationChannel} :
    channel ∈ outbox.channels ↔ (channel = .push ∧ outbox.pushes ≠ []) ∨
      (channel = .email ∧ outbox.emails ≠ []) ∨ (channel = .inApp ∧ outbox.banners ≠ []) := by
  simp only [channels, List.mem_append, List.mem_map, ne_eq, List.eq_nil_iff_forall_not_mem,
    not_forall, not_not]
  cases channel <;> simp

/-- Without an override a channel is used only if the preference for it is on. -/
theorem prefers_of_mem_channels {c : Channels} {r : DispatchRequest} {s : Dispatcher}
    {channel : NotificationChannel} (ordinary : r.forceEmail = false)
    (used : channel ∈ (dispatchNotification c r s).1.channels) : s.prefers r channel = true := by
  by_contra off
  rw [Bool.not_eq_true] at off
  rw [Outbox.mem_channels_iff] at used
  unfold dispatchNotification at used
  split at used
  · simp at used
  · split at used
    · simp at used
    · rcases used with ⟨rfl, used⟩ | ⟨rfl, used⟩ | ⟨rfl, used⟩
      · simp [Dispatcher.pushRound, off] at used
      · simp [emailShouldSend_eq _ ordinary, off] at used
      · simp [off] at used

theorem prefers_of_created {c : Channels} {r : DispatchRequest} {s : Dispatcher}
    {channel : NotificationChannel}
    (used : channel ∈ (createAndDispatch c r.ordinary s).1.channels) :
    s.prefers r channel = true := by
  unfold createAndDispatch at used
  have on := prefers_of_mem_channels rfl used
  exact on

theorem preferences_createAndDispatch (c : Channels) (r : DispatchRequest) (s : Dispatcher) :
    (createAndDispatch c r s).2.preferences = s.preferences := by
  unfold createAndDispatch dispatchNotification
  split
  · rfl
  · split <;> rfl

theorem mem_digestRecipients {t : PreferenceTable} {active : String → Bool}
    {emailOf : String → Option String} {userId : String}
    (mem : userId ∈ digestRecipients t active emailOf) :
    ∃ row, t.lookup (userId, .weeklyDigest, .email) = some row ∧ row.enabled = true := by
  obtain ⟨row, found, rfl⟩ := List.mem_map.1 mem
  simp only [List.mem_filter, Bool.and_eq_true, decide_eq_true_eq] at found
  obtain ⟨there, ⟨⟨⟨digest, email⟩, enabled⟩, -⟩, -⟩ := found
  have key : row.key = (row.userId, .weeklyDigest, .email) := by
    rw [NotificationPreference.key, digest, email]
  exact ⟨row, key ▸ Table.lookup_of_mem there, enabled⟩

/-! ## The invariant of a run -/

namespace NotifHistory

structure Kept (h : NotifHistory) : Prop where
  onByChoice : OnByChoice h.chosen h.preferences
  created : ∀ userId ∈ h.created, AllPreferences h.preferences userId
  safe : h.Safe

theorem kept_start (redis : Redis) (notifications : List NotificationRow)
    (devices : List PushDevice) : (start redis notifications devices).Kept := by
  constructor
  · intro key row there
    exact absurd there (by simp [start, preferences])
  · intro userId mem
    exact absurd mem List.not_mem_nil
  · intro sending mem
    exact absurd mem List.not_mem_nil

section Step

variable {h : NotifHistory}

/-- A row that is on counts as wanted. -/
theorem Kept.wanted {userId : String} {type : NotificationType} {channel : NotificationChannel}
    {row : NotificationPreference} (kept : h.Kept) (off : type ∈ defaultOffTypes)
    (there : h.preferences.lookup (userId, type, channel) = some row)
    (on : row.enabled = true) : (h.sending userId type channel).wanted = true :=
  decide_eq_true (kept.onByChoice _ row there off on)

theorem Kept.userCreated {userId : String} (kept : h.Kept)
    (seedable : NoPreferences h.preferences userId ∨ AllPreferences h.preferences userId) :
    (h.step (.userCreated userId)).Kept := by
  have now := lookup_handleUserCreated seedable
  constructor
  · intro key row there off on
    change (handleUserCreated userId h.preferences).lookup key = some row at there
    rw [now] at there
    cases before : h.preferences.lookup key with
    | some row' =>
        rw [before, Option.some_or, Option.some.injEq] at there
        subst there
        exact kept.onByChoice key row' before off on
    | none =>
        -- the row is new, and a type that is off by default is seeded off
        rw [before, Option.none_or, Option.ite_none_right_eq_some] at there
        rw [← Option.some.inj there.2] at on
        simp [defaultPreference, off] at on
  · intro u mem type channel
    change ((handleUserCreated userId h.preferences).lookup (u, type, channel)).isSome
    rw [now, Option.isSome_or, Bool.or_eq_true]
    rcases List.mem_cons.1 mem with rfl | earlier
    · rw [if_pos rfl]
      exact .inr rfl
    · exact .inl (kept.created u earlier type channel)
  · exact kept.safe

theorem Kept.patch (userId : String) (updates : List PreferenceUpdate) (kept : h.Kept) :
    (h.step (.patch userId updates)).Kept where
  onByChoice := kept.onByChoice.patch userId updates
  created u mem := (kept.created u mem).patch userId updates
  safe := kept.safe

theorem Kept.sent {sendings : List Sending} (kept : h.Kept)
    (wanted : ∀ sending ∈ sendings, sending.type ∈ defaultOffTypes → sending.wanted = true) :
    Kept { h with sent := h.sent ++ sendings } where
  onByChoice := kept.onByChoice
  created := kept.created
  safe sending mem := (List.mem_append.1 mem).elim (kept.safe sending) (wanted sending)

theorem Kept.dispatch {c : Channels} {r : DispatchRequest} (kept : h.Kept)
    (seeded : r.notifType ∈ defaultOffTypes → r.userId ∈ h.created ∨
      ∀ channel, (h.preferences.lookup (r.userId, r.notifType, channel)).isSome) :
    (h.step (.dispatch c r)).Kept := by
  have same := preferences_createAndDispatch c r.ordinary h.dispatcher
  have dispatched : Kept { h with
      dispatcher := (createAndDispatch c r.ordinary h.dispatcher).2 } := by
    constructor
    · intro key row there
      exact kept.onByChoice key row (by rwa [preferences, same] at there)
    · intro u mem type channel
      rw [preferences, same]
      exact kept.created u mem type channel
    · exact kept.safe
  refine dispatched.sent ?_
  intro sending mem off
  obtain ⟨channel, used, rfl⟩ := List.mem_map.1 mem
  have there : (h.preferences.lookup (r.userId, r.notifType, channel)).isSome :=
    (seeded off).elim (fun created => kept.created _ created _ _) fun rows => rows channel
  obtain ⟨row, there⟩ := Option.isSome_iff_exists.1 there
  have on : h.preferences.getPreference r.userId r.notifType channel = true :=
    prefers_of_created used
  rw [PreferenceTable.getPreference, there] at on
  exact kept.wanted off there on

theorem Kept.digest (active : String → Bool) (emailOf : String → Option String)
    (kept : h.Kept) : (h.step (.digest active emailOf)).Kept := by
  refine kept.sent ?_
  intro sending mem off
  obtain ⟨userId, recipient, rfl⟩ := List.mem_map.1 mem
  obtain ⟨row, there, on⟩ := mem_digestRecipients recipient
  exact kept.wanted off there on

theorem Kept.step {e : PreferenceEvent} (kept : h.Kept) (right : h.SeedsFirst e) :
    (h.step e).Kept := by
  cases e with
  | userCreated userId => exact kept.userCreated right
  | patch userId updates => exact kept.patch userId updates
  | unsubscribe userId type channel => exact kept.patch userId [⟨type, channel, false⟩]
  | dispatch c r => exact kept.dispatch right
  | digest active emailOf => exact kept.digest active emailOf
  | register devices => exact ⟨kept.onByChoice, kept.created, kept.safe⟩

end Step

end NotifHistory

/-- A call completes the rows exactly when none of them is there, or all are and nothing else is
pending; if all deliveries of `user.created` are such, what is off by default is sent to nobody
who has not switched it on. -/
theorem seeding_completes_and_protects {ω : Type} (userId : String) (s : Session (NotifDb ω))
    (redis : Redis) (notifications : List NotificationRow) (devices : List PushDevice)
    (events : List PreferenceEvent) :
    (SeedingCompletes userId s ↔ Seedable userId s) ∧
      (Guarded NotifHistory.step NotifHistory.SeedsFirst
          (.start redis notifications devices) events →
        (runFrom NotifHistory.step (.start redis notifications devices) events).Safe) := by
  refine ⟨seedingCompletes_iff, fun guarded => ?_⟩
  have kept := runFrom_invariant_of_guarded (fun _ _ right kept => kept.step right)
    (NotifHistory.kept_start redis notifications devices) guarded
  exact kept.safe

/-! ## One row that is already there -/

/-- The user has chosen once, before `user.created` is delivered. -/
def partlySeeded : NotifDb Unit :=
  ⟨PreferenceTable.setPreference .empty ("u", .newMatch, .push) true, ()⟩

def campaign : DispatchRequest where
  notifId := 0
  userId := "u"
  notifType := .marketing
  emailSubject := some "Make the most of Colab"
  emailTemplate := some "marketing.html"

def campaignChannels : Channels := ⟨0, fun _ => .ok (), fun _ => true⟩

theorem protects_after_delivery :
    SeedingCompletes "u" (Session.start true (⟨.empty, ()⟩ : NotifDb Unit)) ∧
      (runFrom NotifHistory.step (.start .empty [] [])
        [.userCreated "u", .dispatch campaignChannels campaign]).Safe := by
  obtain ⟨completes, protects⟩ := seeding_completes_and_protects "u"
    (Session.start true (⟨.empty, ()⟩ : NotifDb Unit)) .empty [] []
    [.userCreated "u", .dispatch campaignChannels campaign]
  constructor
  · exact completes.2 (.inl ⟨rfl, fun _ _ => rfl⟩)
  · apply protects
    exact ⟨.inl fun _ _ => rfl, fun _ => .inl (List.mem_singleton_self _), trivial⟩

/-- The other rows are not added, and a campaign that nobody asked for is sent. -/
theorem partial_rows_stay_partial :
    ¬ SeedingCompletes "u" (Session.start true partlySeeded) ∧
      ¬ (runFrom NotifHistory.step (.start .empty [] [])
        [.patch "u" [⟨.newMatch, .push, true⟩], .userCreated "u",
          .dispatch campaignChannels campaign]).Safe := by
  constructor
  · rintro ⟨inserted, s', ran, completed⟩
    have rolledBack : (seedPreferences "u" : Program Empty (NotifDb Unit) Nat).run
        (Session.start true partlySeeded) = .ok 0 (Session.start true partlySeeded).rolledBack := by
      rfl
    rw [rolledBack] at ran
    cases ran
    have absent : partlySeeded.preferences.lookup ("u", .marketing, .email) = none := by decide
    have added := completed.complete .marketing .email
    change (partlySeeded.preferences.lookup _).isSome at added
    rw [absent] at added
    contradiction
  · decide

end ColabPlatform.Notifications
