import ColabPlatform.Foundation.Batch
import ColabPlatform.Foundation.Session
import ColabPlatform.Notifications.Model
import Mathlib.Data.List.ProdSigma

/-!
# Notification service: preferences

The rows of `notification_preference`, how they are read, changed and seeded.  A row that is
not there is read as enabled.
-/

namespace ColabPlatform.Notifications

open Foundation Foundation.Program

/-! ## Rows -/

inductive NotificationChannel where
  | push | email | inApp
  deriving DecidableEq, Repr

def notificationTypes : List NotificationType :=
  [.newMatch, .newRequest, .requestAccepted, .chatMessage, .fileShared, .aiMockupReady,
    .collabNudge, .collabStatusChange, .weeklyDigest, .supportReply, .marketing]

def notificationChannels : List NotificationChannel := [.push, .email, .inApp]

structure NotificationPreference where
  userId : String
  type : NotificationType
  channel : NotificationChannel
  enabled : Bool
  deriving DecidableEq, Repr

/-- `uq_preference_user_type_channel` -/
abbrev PreferenceKey := String × NotificationType × NotificationChannel

def NotificationPreference.key (row : NotificationPreference) : PreferenceKey :=
  (row.userId, row.type, row.channel)

abbrev PreferenceTable :=
  Table NotificationPreference NotificationPreference.key (noAlt NotificationPreference)

def NotificationPreference.switch (enabled : Bool) (row : NotificationPreference) :
    NotificationPreference := { row with enabled }

theorem key_switch (enabled : Bool) (row : NotificationPreference) :
    (row.switch enabled).key = row.key := rfl

namespace PreferenceTable

/-- `_get_preference` -/
def getPreference (t : PreferenceTable) (userId : String) (type : NotificationType)
    (channel : NotificationChannel) : Bool :=
  match t.lookup (userId, type, channel) with
  | none => true
  | some pref => pref.enabled

/-- The row is updated, or added when it is not there. -/
def setPreference (t : PreferenceTable) (key : PreferenceKey) (enabled : Bool) :
    PreferenceTable :=
  match t.lookup key with
  | none => (t.insert? ⟨key.1, key.2.1, key.2.2, enabled⟩).getD t
  | some _ => t.modify key (NotificationPreference.switch enabled) (key_switch enabled)

end PreferenceTable

structure PreferenceUpdate where
  type : NotificationType
  channel : NotificationChannel
  enabled : Bool
  deriving DecidableEq, Repr

/-- `patch_preferences` -/
def patchPreferences (userId : String) (updates : List PreferenceUpdate) (t : PreferenceTable) :
    PreferenceTable :=
  updates.foldl (fun t update => t.setPreference (userId, update.type, update.channel)
    update.enabled) t

/-- `one_click_unsubscribe` -/
def oneClickUnsubscribe (userId : String) (type : NotificationType)
    (channel : NotificationChannel) (t : PreferenceTable) : PreferenceTable :=
  t.setPreference (userId, type, channel) false

/-! ## Seeding -/

/-- `DEFAULT_OFF_TYPES` -/
def defaultOffTypes : List NotificationType := [.marketing, .weeklyDigest]

def defaultPreference (userId : String) (type : NotificationType)
    (channel : NotificationChannel) : NotificationPreference :=
  ⟨userId, type, channel, type ∉ defaultOffTypes⟩

def defaultPreferences (userId : String) : List NotificationPreference :=
  notificationTypes.flatMap fun type =>
    notificationChannels.map fun channel => defaultPreference userId type channel

/-- The database as the session sees it, with whatever else it holds. -/
structure NotifDb (ω : Type) where
  preferences : PreferenceTable
  other : ω

variable {ω ε : Type}

/-- The flush of rows that were added to the session. -/
def addPreferences (rows : List NotificationPreference) (db : NotifDb ω) :
    Except DbError (NotifDb ω) :=
  match db.preferences.insertAll? rows with
  | some preferences => .ok { db with preferences }
  | none => .error .integrity

/-- `seed_preferences` -/
def seedPreferences (userId : String) : Program ε (NotifDb ω) Nat :=
  tryCatch
    (do
      write (addPreferences (defaultPreferences userId))
      return (defaultPreferences userId).length)
    fun _ => do
      rollback
      return 0

/-! ## What is read after a change -/

section Lookup

variable (t : PreferenceTable)

theorem lookup_setPreference (key k : PreferenceKey) (enabled : Bool) :
    (t.setPreference key enabled).lookup k =
      if key = k then some ⟨key.1, key.2.1, key.2.2, enabled⟩ else t.lookup k := by
  unfold PreferenceTable.setPreference
  cases found : t.lookup key with
  | none =>
      cases inserted : t.insert? ⟨key.1, key.2.1, key.2.2, enabled⟩ with
      | none => exact absurd found ((Table.insert?_eq_none_iff_of_null rfl).1 inserted)
      | some t' => exact Table.lookup_insert inserted k
  | some row =>
      change
        (t.modify key (NotificationPreference.switch enabled) (key_switch enabled)).lookup k = _
      rw [Table.lookup_modify]
      by_cases same : key = k
      · subst same
        have own : row.key = key := Table.key_of_lookup found
        rw [if_pos rfl, if_pos rfl, found, ← own]
        rfl
      · rw [if_neg same, if_neg same]

theorem defaultPreferences_eq (userId : String) : defaultPreferences userId =
    (notificationTypes ×ˢ notificationChannels).map fun pair =>
      defaultPreference userId pair.1 pair.2 := by
  rfl

theorem mem_pairs (type : NotificationType) (channel : NotificationChannel) :
    (type, channel) ∈ notificationTypes ×ˢ notificationChannels := by
  rw [List.mem_product]
  exact ⟨by cases type <;> decide, by cases channel <;> decide⟩

theorem mem_defaultPreferences_iff {userId : String} {row : NotificationPreference} :
    row ∈ defaultPreferences userId ↔ row = defaultPreference userId row.type row.channel := by
  rw [defaultPreferences_eq, List.mem_map]
  constructor
  · rintro ⟨pair, -, rfl⟩
    rfl
  · intro same
    exact ⟨(row.type, row.channel), mem_pairs row.type row.channel, same.symm⟩

theorem nodup_defaultPreferences (userId : String) :
    ((defaultPreferences userId).map NotificationPreference.key).Nodup := by
  rw [defaultPreferences_eq, List.map_map]
  have types : notificationTypes.Nodup := by decide
  have channels : notificationChannels.Nodup := by decide
  apply (types.product channels).map
  intro pair pair' same
  exact (Prod.mk.inj same).2

theorem find_defaultPreferences (userId : String) (k : PreferenceKey) :
    ((defaultPreferences userId).find? fun row => row.key = k) =
      if k.1 = userId then some (defaultPreference userId k.2.1 k.2.2) else none := by
  cases found : (defaultPreferences userId).find? fun row => row.key = k with
  | none =>
      rw [List.find?_eq_none] at found
      by_cases own : k.1 = userId
      · subst own
        have absent := found (defaultPreference k.1 k.2.1 k.2.2) (mem_defaultPreferences_iff.2 rfl)
        exact absurd (decide_eq_true rfl) absent
      · rw [if_neg own]
  | some row =>
      have key : row.key = k := by simpa using List.find?_some found
      have default := mem_defaultPreferences_iff.1 (List.mem_of_find?_eq_some found)
      subst key
      have own : row.key.1 = userId := by rw [default]; rfl
      rw [if_pos own]
      exact congrArg some default

end Lookup

/-- The user has no row at all. -/
def NoPreferences (t : PreferenceTable) (userId : String) : Prop :=
  ∀ type channel, t.lookup (userId, type, channel) = none

/-- The user has a row for every type and channel. -/
def AllPreferences (t : PreferenceTable) (userId : String) : Prop :=
  ∀ type channel, (t.lookup (userId, type, channel)).isSome

theorem isSome_insertAll?_defaults {t : PreferenceTable} {userId : String} :
    (t.insertAll? (defaultPreferences userId)).isSome ↔ NoPreferences t userId := by
  rw [Table.isSome_insertAll?_iff (nodup_defaultPreferences userId) fun _ _ => rfl]
  constructor
  · intro free type channel
    exact free (defaultPreference userId type channel) (mem_defaultPreferences_iff.2 rfl)
  · intro none row mem
    rw [mem_defaultPreferences_iff.1 mem]
    exact none row.type row.channel

theorem noPreferences_of_insertAll? {t t' : PreferenceTable} {userId : String}
    (seeded : t.insertAll? (defaultPreferences userId) = some t') : NoPreferences t userId := by
  rw [← isSome_insertAll?_defaults, seeded]
  rfl

theorem lookup_insertAll?_defaults {t t' : PreferenceTable} {userId : String}
    (seeded : t.insertAll? (defaultPreferences userId) = some t') (k : PreferenceKey) :
    t'.lookup k =
      if k.1 = userId then some (defaultPreference userId k.2.1 k.2.2) else t.lookup k := by
  rw [Table.lookup_insertAll? (nodup_defaultPreferences userId) seeded, find_defaultPreferences]
  split <;> rfl

/-- The whole batch is flushed, or the session is rolled back. -/
theorem run_seedPreferences (userId : String) (s : Session (NotifDb ω)) :
    (seedPreferences userId : Program ε (NotifDb ω) Nat).run s =
      if s.closed then .ok 0 s.rolledBack
      else match s.working.preferences.insertAll? (defaultPreferences userId) with
        | some preferences => .ok 33 { s with working := { s.working with preferences } }
        | none => .ok 0 s.rolledBack := by
  have flush : (write (addPreferences (defaultPreferences userId)) >>= fun _ =>
        pure (defaultPreferences userId).length : Program ε (NotifDb ω) Nat).run s =
      if s.closed then .error (.db .closedTransaction) s
      else match s.working.preferences.insertAll? (defaultPreferences userId) with
        | some preferences => .ok 33 { s with working := { s.working with preferences } }
        | none => .error (.db .integrity) s := by
    rw [EStateM.run_bind, run_write, addPreferences]
    cases s.closed with
    | true => rfl
    | false => cases s.working.preferences.insertAll? (defaultPreferences userId) <;> rfl
  rw [seedPreferences, run_tryCatch, flush]
  cases s.closed with
  | true => rfl
  | false => cases s.working.preferences.insertAll? (defaultPreferences userId) <;> rfl

end ColabPlatform.Notifications
