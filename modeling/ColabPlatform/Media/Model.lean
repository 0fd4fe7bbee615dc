import ColabPlatform.Chat.Messages
import ColabPlatform.Foundation.Run

/-!
# Media service

Uploads to a chat room, the messages that refer to them and the links under which they are
served.  The service shares the tables of the chat; what else happens to these tables and to
the store of objects is an event of the model.
-/

namespace ColabPlatform.Media

open Foundation Common
open Chat (ChatRoom ChatMessage ChatState MessageType ModerationStatus getProfileId statusOf)
open Moderation (HttpError Label Score ToolRun internalError)

/-! ## Kinds of uploads -/

structure MimeCap where
  maxBytes : Nat
  mimes : List String
  deriving DecidableEq, Repr

/-- `MIME_CAPS` -/
def mimeCaps : List (String × MimeCap) :=
  [("image", ⟨10 * 1024 * 1024,
      ["image/jpeg", "image/png", "image/gif", "image/webp", "image/heic"]⟩),
    ("audio", ⟨50 * 1024 * 1024,
      ["audio/mp4", "audio/mpeg", "audio/wav", "audio/ogg", "audio/aac"]⟩),
    ("video", ⟨250 * 1024 * 1024, ["video/mp4", "video/quicktime", "video/webm"]⟩),
    ("doc", ⟨25 * 1024 * 1024,
      ["application/pdf", "application/msword",
        "application/vnd.openxmlformats-officedocument.wordprocessingml.document",
        "text/plain"]⟩),
    ("voice", ⟨10 * 1024 * 1024, ["audio/mp4", "audio/mpeg"]⟩)]

/-- `repr` of a text without quotes -/
def quoted (text : String) : String := "\x27" ++ text ++ "\x27"

def validateMimeAndSize (kind mime : String) (sizeBytes : Nat) : Except HttpError Unit :=
  match mimeCaps.lookup kind with
  | none => .error ⟨400, "Unknown kind: " ++ kind⟩
  | some caps =>
      if mime ∉ caps.mimes then
        .error ⟨400, "MIME type " ++ quoted mime ++ " not allowed for kind " ++ quoted kind⟩
      else if sizeBytes > caps.maxBytes then
        .error ⟨413, "File too large: " ++ toString sizeBytes ++ " > " ++ toString caps.maxBytes ++
          " bytes for kind " ++ quoted kind⟩
      else .ok ()

def extensions : List (String × String) :=
  [("image/jpeg", "jpg"), ("image/png", "png"), ("image/gif", "gif"), ("image/webp", "webp"),
    ("image/heic", "heic"), ("audio/mp4", "m4a"), ("audio/mpeg", "mp3"), ("audio/wav", "wav"),
    ("audio/ogg", "ogg"), ("audio/aac", "aac"), ("video/mp4", "mp4"), ("video/quicktime", "mov"),
    ("video/webm", "webm"), ("application/pdf", "pdf"), ("text/plain", "txt")]

def makeS3Key (roomId kind fileUuid mime : String) : String :=
  "chat/" ++ roomId ++ "/" ++ kind ++ "/" ++ fileUuid ++ "." ++ (extensions.lookup mime).getD "bin"

/-- The type of a message for a kind. -/
def messageType (kind : String) : MessageType :=
  match kind with
  | "image" => .image
  | "video" => .video
  | "audio" => .audio
  | "doc" => .doc
  | _ => .voice

/-! ## Tables -/

/-- A link serves one object until it expires. -/
structure SignedUrl where
  key : String
  expiresAt : Int
  deriving DecidableEq, Repr

structure ChatAttachment where
  id : String
  msgId : String
  kind : String
  s3Key : String
  signedUrlCache : Option SignedUrl
  signedUrlCacheUntil : Option Int
  deriving DecidableEq, Repr

structure MediaSettings where
  signedUrlTtlSeconds : Int := 300
  signedUrlCacheRefreshThresholdSeconds : Int := 60
  deriving DecidableEq, Repr

/-- `objects` are the keys in the bucket; `issued` are the keys that were handed out for an
upload, each with the room it was asked for. -/
structure MediaState where
  chat : ChatState
  attachments : Table ChatAttachment ChatAttachment.id (noAlt ChatAttachment)
  objects : List String
  issued : List (String × String)

/-- The room, if the profile is one of its participants. -/
def MediaState.roomOf (s : MediaState) (roomId profileId : String) : Option ChatRoom :=
  (s.chat.rooms.lookup roomId).filter fun room => profileId ∈ room.participantIds

/-! ## Moderation -/

/-- What the moderation service does with a request: `answered` is false if the request or its
answer is lost, or comes too late. -/
structure ModerationRun where
  deployment : Moderation.Deployment
  rekognition : ToolRun (List Label)
  phash : ToolRun String
  answered : Bool := true

inductive ScanEndpoint where
  | image
  | audio
  | video
  deriving DecidableEq, Repr

def scanEndpoint (kind : String) : ScanEndpoint :=
  if kind ∈ ["audio", "voice"] then .audio
  else if kind = "video" then .video
  else .image

/-- The context names no subject. -/
def scanBody (s3Key : String) : Moderation.RequestBody :=
  .json ⟨none, some s3Key, some ⟨none, .missing, .missing, none⟩⟩

/-- The `score` of what `_call_moderation_media` returns.  The endpoints for audio and video
answer with the id of a job, and every failure is replaced by a score of 0. -/
def callModerationMedia (run : ModerationRun) (s3Key kind : String) : Option Score :=
  if run.answered then
    match scanEndpoint kind with
    | .audio | .video => none
    | .image =>
        match Moderation.scanImage run.deployment "media-svc" (scanBody s3Key) run.rekognition
            run.phash with
        | .ok (response, _) => some response.score
        | .error _ => some 0
  else some 0

/-- `_phash_dup_check`: there is no registry to compare with. -/
def phashDupCheck (_ : String) : Bool := false

/-- The score that decides. -/
def mediaScore (run : ModerationRun) (s3Key kind : String) : Score :=
  let score := (callModerationMedia run s3Key kind).getD 0
  if kind = "image" ∧ phashDupCheck s3Key = true then min (score + 3 / 10) 1 else score

/-! ## Endpoints -/

structure UploadUrlRequest where
  profile : IdField
  roomId : String
  kind : String
  mime : String
  sizeBytes : Nat
  deriving DecidableEq, Repr

structure ConfirmRequest where
  profile : IdField
  roomId : String
  kind : String
  s3Key : String
  mime : String
  sizeBytes : Nat
  durationMs : Option Nat := none
  deriving DecidableEq, Repr

structure SignedUrlRequest where
  profile : IdField
  s3Key : String
  roomId : String
  deriving DecidableEq, Repr

inductive MediaAnswer where
  | uploadUrl (s3Key : String)
  | processing (pendingMsgId : String)
  | signedUrl (url : SignedUrl)
  | failed (error : HttpError)
  deriving DecidableEq, Repr

namespace MediaState

/-- What `get_upload_url` checks. -/
def acceptUpload (s : MediaState) (request : UploadUrlRequest) : Except HttpError Unit := do
  let profileId ← getProfileId request.profile
  validateMimeAndSize request.kind request.mime request.sizeBytes
  match s.roomOf request.roomId profileId with
  | none => throw ⟨403, "Room not found or access denied"⟩
  | some _ => return ()

/-- `POST /media/upload-url` -/
def getUploadUrl (s : MediaState) (request : UploadUrlRequest) (fileUuid : String) :
    MediaState × MediaAnswer :=
  match s.acceptUpload request with
  | .error error => (s, .failed error)
  | .ok _ =>
      let key := makeS3Key request.roomId request.kind fileUuid request.mime
      ({ s with issued := s.issued ++ [(request.roomId, key)] }, .uploadUrl key)

/-- What `confirm_upload` checks before the scan. -/
def acceptConfirm (s : MediaState) (request : ConfirmRequest) : Except HttpError String := do
  let profileId ← getProfileId request.profile
  validateMimeAndSize request.kind request.mime request.sizeBytes
  match s.roomOf request.roomId profileId with
  | none => throw ⟨403, "Room not found or access denied"⟩
  | some room =>
      if room.state ≠ .opened then throw ⟨403, "Room is read-only"⟩
      if request.s3Key ∉ s.objects then
        throw ⟨400, "S3 object not found; upload may have failed"⟩
      return profileId

/-- What comes from outside `confirm_upload`. -/
structure ConfirmOutside where
  msgId : String
  attachmentId : String
  now : Int
  moderation : ModerationRun
  /-- the link can be signed -/
  signs : Bool := true
  commits : Bool := true

def confirmedMessage (request : ConfirmRequest) (profileId : String) (outside : ConfirmOutside) :
    ChatMessage where
  id := outside.msgId
  roomId := request.roomId
  senderProfileId := profileId
  type := messageType request.kind
  body := none
  mediaKey := some request.s3Key
  mime := some request.mime
  sizeBytes := some request.sizeBytes
  durationMs := request.durationMs
  replyTo := none
  clientNonce := none
  editedAt := none
  deletedAt := none
  moderationScore := some (mediaScore outside.moderation request.s3Key request.kind)
  moderationStatus := statusOf false (mediaScore outside.moderation request.s3Key request.kind)
  createdAt := outside.now

def confirmedAttachment (settings : MediaSettings) (request : ConfirmRequest)
    (outside : ConfirmOutside) : ChatAttachment where
  id := outside.attachmentId
  msgId := outside.msgId
  kind := request.kind
  s3Key := request.s3Key
  signedUrlCache := some ⟨request.s3Key, outside.now + settings.signedUrlTtlSeconds⟩
  signedUrlCacheUntil := some (outside.now + settings.signedUrlTtlSeconds)

/-- The inserts and the commit. -/
def storeConfirmed (settings : MediaSettings) (s : MediaState) (request : ConfirmRequest)
    (profileId : String) (outside : ConfirmOutside) : Option MediaState := do
  let chat ← s.chat.addMessage? (confirmedMessage request profileId outside)
  let attachments ← s.attachments.insert? (confirmedAttachment settings request outside)
  if outside.signs && outside.commits then some { s with chat, attachments } else none

/-- `POST /media/confirm`.  A visible message would be published, but the import of its schema
fails. -/
def confirmUpload (settings : MediaSettings) (s : MediaState) (request : ConfirmRequest)
    (outside : ConfirmOutside) : MediaState × MediaAnswer :=
  match s.acceptConfirm request with
  | .error error => (s, .failed error)
  | .ok profileId =>
      match s.storeConfirmed settings request profileId outside with
      | none => (s, .failed internalError)
      | some stored =>
          if (confirmedMessage request profileId outside).moderationStatus.visible then
            (stored, .failed internalError)
          else (stored, .processing outside.msgId)

/-- What `get_signed_url` checks. -/
def acceptSigned (s : MediaState) (request : SignedUrlRequest) : Except HttpError Unit := do
  let profileId ← getProfileId request.profile
  match s.roomOf request.roomId profileId with
  | none => throw ⟨403, "Access denied"⟩
  | some _ => return ()

/-- What comes from outside `get_signed_url`; `row` is the one that `LIMIT 1` takes. -/
structure SignedOutside where
  now : Int
  row : Nat := 0
  signs : Bool := true
  commits : Bool := true
  deriving DecidableEq, Repr

/-- The cached link of an attachment, if it is valid for long enough. -/
def cachedUrl (settings : MediaSettings) (now : Int) (attachment : ChatAttachment) :
    Option SignedUrl :=
  match attachment.signedUrlCache, attachment.signedUrlCacheUntil with
  | some url, some expires =>
      if expires > now + settings.signedUrlCacheRefreshThresholdSeconds then some url else none
  | _, _ => none

def attachmentsOf (s : MediaState) (s3Key : String) : List ChatAttachment :=
  s.attachments.rows.filter (·.s3Key = s3Key)

/-- The row that is looked at; there is one whenever there is any. -/
def cacheRow (s : MediaState) (s3Key : String) (row : Nat) : Option ChatAttachment :=
  (s.attachmentsOf s3Key)[row]?.or (s.attachmentsOf s3Key).head?

def ChatAttachment.refresh (s3Key : String) (url : SignedUrl) (attachment : ChatAttachment) :
    ChatAttachment :=
  if attachment.s3Key = s3Key then
    { attachment with signedUrlCache := some url, signedUrlCacheUntil := some url.expiresAt }
  else attachment

def updateCache (s : MediaState) (s3Key : String) (url : SignedUrl) : MediaState :=
  { s with
    attachments := s.attachments.modifyAll (ChatAttachment.refresh s3Key url)
      (fun attachment => by unfold ChatAttachment.refresh; split <;> rfl) nofun }

/-- `GET /media/{s3_key}/signed-url` -/
def getSignedUrl (settings : MediaSettings) (s : MediaState) (request : SignedUrlRequest)
    (outside : SignedOutside) : MediaState × MediaAnswer :=
  match s.acceptSigned request with
  | .error error => (s, .failed error)
  | .ok _ =>
      match (s.cacheRow request.s3Key outside.row).bind (cachedUrl settings outside.now) with
      | some url => (s, .signedUrl url)
      | none =>
          let url : SignedUrl := ⟨request.s3Key, outside.now + settings.signedUrlTtlSeconds⟩
          if outside.signs && outside.commits then (s.updateCache request.s3Key url, .signedUrl url)
          else (s, .failed internalError)

end MediaState

/-! ## Runs -/

inductive MediaEvent where
  | uploadUrl (request : UploadUrlRequest) (fileUuid : String)
  | confirm (request : ConfirmRequest) (outside : MediaState.ConfirmOutside)
  | signedUrl (request : SignedUrlRequest) (outside : MediaState.SignedOutside)
  /-- the chat service and the moderators write the tables of the chat, and clients the bucket -/
  | elsewhere (chat : ChatState) (objects : List String)

namespace MediaState

/-- Nothing has been uploaded yet. -/
def initial (chat : ChatState) (objects : List String) : MediaState := ⟨chat, .empty, objects, []⟩

def step (settings : MediaSettings) (s : MediaState) : MediaEvent → MediaState
  | .uploadUrl request fileUuid => (s.getUploadUrl request fileUuid).1
  | .confirm request outside => (s.confirmUpload settings request outside).1
  | .signedUrl request outside => (s.getSignedUrl settings request outside).1
  | .elsewhere chat objects => { s with chat, objects }

def run (settings : MediaSettings) (s : MediaState) (events : List MediaEvent) : MediaState :=
  runFrom (step settings) s events

end MediaState

end ColabPlatform.Media
