import ColabPlatform.Media.Model

/-!
# Media stays within its room

The room that a request names and the key that it names are checked apart from each other.
The file finds the requests whose answers stay within the room of the key.
-/

namespace ColabPlatform.Media

open Foundation Common
open Chat (ChatRoom ChatMessage ChatState ModerationStatus getProfileId)
open Moderation (HttpError internalError)

-- named, so that membership is decided alike under any import
local instance pairLawfulBEq : LawfulBEq (String × String) := Prod.instLawfulBEq

namespace MediaState

/-! ## What is promised -/

/-- The profile is a participant of a room for which the key was issued. -/
def mayRead (s : MediaState) (profileId s3Key : String) : Bool :=
  s.issued.any fun entry => entry.2 = s3Key && (s.roomOf entry.1 profileId).isSome

/-- A message that refers to the key is hidden. -/
def hides (s : MediaState) (s3Key : String) : Bool :=
  s.chat.messages.rows.any fun message => message.mediaKey = some s3Key &&
    (message.moderationStatus = .hidden || message.moderationStatus = .autoHidden)

/-- The key of the request may be served to the profile of the request. -/
def mayServe (s : MediaState) (request : SignedUrlRequest) : Bool :=
  request.profile.id?.any fun profileId =>
    s.mayRead profileId request.s3Key && !s.hides request.s3Key

/-- The key of the request was issued for the room of the request, in which the profile is. -/
def mayConfirm (s : MediaState) (request : ConfirmRequest) : Bool :=
  (request.roomId, request.s3Key) ∈ s.issued &&
    request.profile.id?.any fun profileId => (s.roomOf request.roomId profileId).isSome

/-- Links are answered for keys that may be served, and to others the request fails and
changes nothing. -/
structure LinkInRoom (settings : MediaSettings) (s : MediaState) (request : SignedUrlRequest)
    (outside : SignedOutside) : Prop where
  url : ∀ url, (s.getSignedUrl settings request outside).2 = .signedUrl url →
    url.key = request.s3Key ∧ s.mayServe request = true
  others : s.mayServe request = false →
    (s.getSignedUrl settings request outside).1 = s ∧
      ∃ error, (s.getSignedUrl settings request outside).2 = .failed error

/-- A message is stored in the room of its key, and with another key the request fails and
changes nothing. -/
structure MessageInRoom (settings : MediaSettings) (s : MediaState) (request : ConfirmRequest)
    (outside : ConfirmOutside) : Prop where
  message : ∀ message ∈ (s.confirmUpload settings request outside).1.chat.messages.rows,
    message ∉ s.chat.messages.rows → ∀ key, message.mediaKey = some key →
      (message.roomId, key) ∈ s.issued ∧
        (s.roomOf message.roomId message.senderProfileId).isSome = true
  others : s.mayConfirm request = false →
    (s.confirmUpload settings request outside).1 = s ∧
      ∃ error, (s.confirmUpload settings request outside).2 = .failed error

def InRoom (settings : MediaSettings) (s : MediaState) : MediaEvent → Prop
  | .signedUrl request outside => s.LinkInRoom settings request outside
  | .confirm request outside => s.MessageInRoom settings request outside
  | .uploadUrl _ _ | .elsewhere _ _ => True

/-! ## The requests that keep it -/

/-- A link is cached, or it is signed and stored. -/
def hasLink (settings : MediaSettings) (s : MediaState) (request : SignedUrlRequest)
    (outside : SignedOutside) : Bool :=
  ((s.cacheRow request.s3Key outside.row).bind (cachedUrl settings outside.now)).isSome ||
    outside.signs && outside.commits

/-- A request that passes its checks and is not stopped by a failure names a key that may be
served, or one that was issued for its room. -/
def keepsRoom (settings : MediaSettings) (s : MediaState) : MediaEvent → Bool
  | .signedUrl request outside =>
      match s.acceptSigned request with
      | .error _ => true
      | .ok _ => !s.hasLink settings request outside || s.mayServe request
  | .confirm request outside =>
      match s.acceptConfirm request with
      | .error _ => true
      | .ok profileId => (s.storeConfirmed settings request profileId outside).isNone ||
          (request.roomId, request.s3Key) ∈ s.issued
  | .uploadUrl _ _ | .elsewhere _ _ => true

/-! ## Links are for the key of their row -/

variable {settings : MediaSettings} {s : MediaState}

def Keyed (s : MediaState) : Prop :=
  ∀ attachment ∈ s.attachments.rows, ∀ url, attachment.signedUrlCache = some url →
    url.key = attachment.s3Key

theorem Keyed.updateCache (h : s.Keyed) (s3Key : String) (expiresAt : Int) :
    (s.updateCache s3Key ⟨s3Key, expiresAt⟩).Keyed := by
  intro attachment mem url cached
  obtain ⟨old, oldMem, rfl⟩ := List.mem_map.1 mem
  unfold ChatAttachment.refresh at cached ⊢
  by_cases same : old.s3Key = s3Key
  · rw [if_pos same] at cached ⊢
    obtain rfl := Option.some.inj cached
    exact same.symm
  · rw [if_neg same] at cached ⊢
    exact h old oldMem url cached

/-- What a confirmation that is stored adds. -/
theorem storeConfirmed_eq_some {request : ConfirmRequest} {profileId : String}
    {outside : ConfirmOutside} {stored : MediaState}
    (h : s.storeConfirmed settings request profileId outside = some stored) :
    s.chat.messages.insert? (confirmedMessage request profileId outside) =
        some stored.chat.messages ∧
      stored.chat.published = s.chat.published ∧
      s.attachments.insert? (confirmedAttachment settings request outside) =
        some stored.attachments := by
  obtain ⟨chat, addedMessage, rest⟩ := Option.bind_eq_some_iff.1 h
  obtain ⟨attachments, addedAttachment, rest⟩ := Option.bind_eq_some_iff.1 rest
  split at rest
  · obtain rfl := Option.some.inj rest
    obtain ⟨inserted, published⟩ := Chat.addMessage_eq_some addedMessage
    exact ⟨inserted, published, addedAttachment⟩
  · cases rest

/-- A confirmation is refused, fails or is stored; if it is stored, only its answer depends on
the status. -/
theorem confirmUpload_cases (settings : MediaSettings) (s : MediaState) (request : ConfirmRequest)
    (outside : ConfirmOutside) :
    ((s.confirmUpload settings request outside).1 = s ∧
      (∃ error, (s.confirmUpload settings request outside).2 = .failed error) ∧
      ∀ profileId, s.acceptConfirm request = .ok profileId →
        s.storeConfirmed settings request profileId outside = none) ∨
    ∃ profileId stored, s.acceptConfirm request = .ok profileId ∧
      s.storeConfirmed settings request profileId outside = some stored ∧
      (s.confirmUpload settings request outside).1 = stored := by
  cases accepted : s.acceptConfirm request with
  | error error =>
      have result : s.confirmUpload settings request outside = (s, .failed error) := by
        simp only [confirmUpload, accepted]
      rw [result]
      exact Or.inl ⟨rfl, ⟨error, rfl⟩, nofun⟩
  | ok profileId =>
      cases stores : s.storeConfirmed settings request profileId outside with
      | none =>
          have result : s.confirmUpload settings request outside = (s, .failed internalError) := by
            simp only [confirmUpload, accepted, stores]
          rw [result]
          refine Or.inl ⟨rfl, ⟨internalError, rfl⟩, fun profileId' same => ?_⟩
          obtain rfl := Except.ok.inj same
          exact stores
      | some stored =>
          refine Or.inr ⟨profileId, stored, rfl, stores, ?_⟩
          simp only [confirmUpload, accepted, stores]
          split <;> rfl

theorem Keyed.step (h : s.Keyed) (event : MediaEvent) : (step settings s event).Keyed := by
  cases event with
  | uploadUrl request fileUuid =>
      simp only [MediaState.step, getUploadUrl]
      split <;> exact h
  | confirm request outside =>
      rcases confirmUpload_cases settings s request outside with
        ⟨same, -⟩ | ⟨profileId, stored, -, stores, same⟩
      · simp only [MediaState.step, same]
        exact h
      · simp only [MediaState.step, same]
        obtain ⟨-, -, inserted⟩ := storeConfirmed_eq_some stores
        intro attachment mem url cached
        rw [(Table.insert?_eq_some inserted).2] at mem
        rcases List.mem_cons.1 mem with rfl | old
        · obtain rfl := Option.some.inj cached
          rfl
        · exact h attachment old url cached
  | signedUrl request outside =>
      simp only [MediaState.step, getSignedUrl]
      split
      · exact h
      · split
        · exact h
        · split
          · exact h.updateCache _ _
          · exact h
  | elsewhere chat objects => exact h

/-! ## One request -/

theorem acceptConfirm_eq_ok {request : ConfirmRequest} {profileId : String}
    (h : s.acceptConfirm request = .ok profileId) :
    request.profile = .uuid profileId ∧ (s.roomOf request.roomId profileId).isSome = true := by
  unfold acceptConfirm at h
  cases profile : request.profile with
  | missing => rw [profile] at h; cases h
  | malformed text => rw [profile] at h; cases h
  | uuid id =>
      rw [profile] at h
      cases valid : validateMimeAndSize request.kind request.mime request.sizeBytes with
      | error error => rw [valid] at h; cases h
      | ok _ =>
          cases found : s.roomOf request.roomId id with
          | none => simp [getProfileId, valid, found, bind, Except.bind, throw, throwThe,
              MonadExceptOf.throw] at h
          | some room =>
              simp only [getProfileId, valid, found, bind, Except.bind, pure, Except.pure] at h
              split at h
              · cases h
              · split at h
                · cases h
                · obtain rfl := Except.ok.inj h
                  exact ⟨rfl, by rw [found]; rfl⟩

theorem Keyed.key_of_cached (h : s.Keyed) {s3Key : String} {row : Nat} {now : Int}
    {url : SignedUrl} (cached : (s.cacheRow s3Key row).bind (cachedUrl settings now) = some url) :
    url.key = s3Key := by
  obtain ⟨attachment, found, valid⟩ := Option.bind_eq_some_iff.1 cached
  have mem : attachment ∈ s.attachmentsOf s3Key := by
    rcases Option.or_eq_some_iff.1 found with taken | ⟨-, first⟩
    · exact List.mem_of_getElem? taken
    · exact List.mem_of_head? first
  obtain ⟨stored, isKey⟩ := List.mem_filter.1 mem
  unfold cachedUrl at valid
  split at valid
  · rename_i cachedLink expires hasLink isUntil
    split at valid
    · obtain rfl := Option.some.inj valid
      exact (h attachment stored cachedLink hasLink).trans (of_decide_eq_true isKey)
    · cases valid
  · cases valid

theorem linkInRoom_of_failed {request : SignedUrlRequest} {outside : SignedOutside}
    (error : HttpError) (result : s.getSignedUrl settings request outside = (s, .failed error)) :
    s.LinkInRoom settings request outside := by
  constructor
  · intro url answered
    rw [result] at answered
    cases answered
  · intro _
    rw [result]
    exact ⟨rfl, error, rfl⟩

/-- A link that is answered has to be one that may be served. -/
theorem linkInRoom_iff_of_url {request : SignedUrlRequest} {outside : SignedOutside}
    (url : SignedUrl) (answered : (s.getSignedUrl settings request outside).2 = .signedUrl url)
    (isKey : url.key = request.s3Key) :
    s.LinkInRoom settings request outside ↔ s.mayServe request = true := by
  constructor
  · intro h
    exact (h.url url answered).2
  · intro serves
    constructor
    · intro url' answered'
      obtain rfl := MediaAnswer.signedUrl.inj (answered.symm.trans answered')
      exact ⟨isKey, serves⟩
    · intro refuses
      rw [serves] at refuses
      cases refuses

theorem linkInRoom_iff (keyed : s.Keyed) (request : SignedUrlRequest) (outside : SignedOutside) :
    s.LinkInRoom settings request outside ↔
      s.keepsRoom settings (.signedUrl request outside) = true := by
  cases accepted : s.acceptSigned request with
  | error error =>
      refine iff_of_true (linkInRoom_of_failed error ?_) ?_
      · simp only [getSignedUrl, accepted]
      · simp only [keepsRoom, accepted]
  | ok _ =>
      simp only [keepsRoom, accepted, hasLink]
      cases cached : (s.cacheRow request.s3Key outside.row).bind (cachedUrl settings outside.now) with
      | some url =>
          rw [linkInRoom_iff_of_url url (by simp only [getSignedUrl, accepted, cached])
            (keyed.key_of_cached cached)]
          simp
      | none =>
          by_cases stored : (outside.signs && outside.commits) = true
          · rw [linkInRoom_iff_of_url ⟨request.s3Key, outside.now + settings.signedUrlTtlSeconds⟩
              (by simp only [getSignedUrl, accepted, cached, if_pos stored]) rfl]
            simp [stored]
          · refine iff_of_true (linkInRoom_of_failed internalError ?_) ?_
            · simp only [getSignedUrl, accepted, cached, if_neg stored]
            · simp [stored]

theorem messageInRoom_iff (request : ConfirmRequest) (outside : ConfirmOutside) :
    s.MessageInRoom settings request outside ↔
      s.keepsRoom settings (.confirm request outside) = true := by
  rcases confirmUpload_cases settings s request outside with
    ⟨same, failed, unstored⟩ | ⟨profileId, stored, accepted, stores, result⟩
  · have kept : s.MessageInRoom settings request outside := by
      constructor
      · intro message mem fresh
        rw [same] at mem
        exact absurd mem fresh
      · exact fun _ => ⟨same, failed⟩
    refine iff_of_true kept ?_
    simp only [keepsRoom]
    split
    · rfl
    · rename_i profileId accepted
      simp [unstored profileId accepted]
  · obtain ⟨profile, participates⟩ := acceptConfirm_eq_ok accepted
    obtain ⟨inserted, -, -⟩ := storeConfirmed_eq_some stores
    simp only [keepsRoom, accepted, stores, Option.isNone_some, Bool.false_or, decide_eq_true_eq]
    constructor
    · intro h
      have asked := h.message
      rw [result, Table.forall_new_iff inserted] at asked
      exact (asked request.s3Key rfl).1
    · intro issued
      constructor
      · rw [result, Table.forall_new_iff inserted]
        intro key isKey
        obtain rfl := Option.some.inj isKey
        exact ⟨issued, participates⟩
      · intro refuses
        simp [mayConfirm, issued, profile, IdField.id?, participates] at refuses

/-! ## Runs -/

theorem inRoom_iff (keyed : s.Keyed) (event : MediaEvent) :
    s.InRoom settings event ↔ s.keepsRoom settings event = true := by
  cases event with
  | uploadUrl request fileUuid => exact iff_of_true trivial rfl
  | confirm request outside => exact messageInRoom_iff request outside
  | signedUrl request outside => exact linkInRoom_iff keyed request outside
  | elsewhere chat objects => exact iff_of_true trivial rfl

theorem keyed_initial (chat : ChatState) (objects : List String) : (initial chat objects).Keyed :=
  nofun

theorem run_keyed (settings : MediaSettings) (chat : ChatState) (objects : List String)
    (events : List MediaEvent) : (run settings (initial chat objects) events).Keyed :=
  runFrom_invariant (fun _ event h => h.step event) (keyed_initial chat objects) events

/-- Two rooms without messages. -/
def twoRooms : ChatState where
  rooms := (Table.empty.insert? ⟨"kitchen", ["anna", "ben"], .opened⟩ >>=
    fun rooms => rooms.insert? ⟨"garden", ["cleo", "dora"], .opened⟩).getD .empty
  messages := .empty
  revisions := .empty
  published := []

def photoKey : String := makeS3Key "kitchen" "image" "f" "image/jpeg"

/-- Anna uploads a photo for the kitchen. -/
def photoUploaded : List MediaEvent :=
  [.uploadUrl ⟨.uuid "anna", "kitchen", "image", "image/jpeg", 1000⟩ "f",
    .elsewhere twoRooms [photoKey]]

/-- Dora names her own room and the key of the kitchen. -/
def foreignLink : MediaEvent := .signedUrl ⟨.uuid "dora", photoKey, "garden"⟩ { now := 0 }

/-- A scan that finds nothing. -/
def cleanScan : ModerationRun :=
  ⟨⟨{}, "prod", "case", 0, []⟩, .completed [], .completed "hex", true⟩

def foreignMessage : MediaEvent :=
  .confirm ⟨.uuid "dora", "garden", "image", photoKey, "image/jpeg", 1000, none⟩
    { msgId := "m", attachmentId := "a", now := 0, moderation := cleanScan }

/-- A moderator has hidden the message with the photo. -/
def photoHidden : ChatState :=
  { twoRooms with
    messages := (Table.empty.insert?
      { confirmedMessage ⟨.uuid "anna", "kitchen", "image", photoKey, "image/jpeg", 1000, none⟩
          "anna" { msgId := "m", attachmentId := "a", now := 0, moderation := cleanScan } with
        moderationStatus := .hidden }).getD .empty }

def hiddenLink : MediaEvent := .signedUrl ⟨.uuid "ben", photoKey, "kitchen"⟩ { now := 0 }

end MediaState

end ColabPlatform.Media
