import ColabPlatform.Common.Auth
import ColabPlatform.Foundation.Run
import ColabPlatform.Foundation.Table
import ColabPlatform.Identity.Persona

/-!
# Identity service: the verification of a user

A webhook is processed in one transaction: its event is logged, the verification
of the user is written over and the verdict goes to the outbox.  An exception
rolls all of it back.
-/

namespace ColabPlatform.Identity

open Foundation Common

inductive VerificationStatus where
  | pending | approved | declined | needsReview
  deriving DecidableEq, Repr

/-- `identity_status_enum`; another text raises a `LookupError`. -/
def VerificationStatus.ofText (text : String) : Option VerificationStatus :=
  if text = "pending" then some .pending
  else if text = "approved" then some .approved
  else if text = "declined" then some .declined
  else if text = "needs_review" then some .needsReview
  else none

structure IdentityVerification where
  userId : String
  personaInquiryId : Option String
  status : VerificationStatus
  faceAgeSignal : Option String
  decisionAt : Option Int
  deriving DecidableEq, Repr

structure PersonaWebhookEvent where
  eventId : String
  eventName : String
  inquiryId : String
  deriving DecidableEq, Repr

/-- A row of `event_outbox` with the fields of its payload. -/
structure EventOutbox where
  eventName : String
  userId : String
  personaInquiryId : String
  status : VerificationStatus
  faceAgeSignal : Option String
  dedupeKey : String
  deriving DecidableEq, Repr

structure Db where
  verifications : Table IdentityVerification IdentityVerification.userId
    (noAlt IdentityVerification)
  events : Table PersonaWebhookEvent PersonaWebhookEvent.eventId (noAlt PersonaWebhookEvent)
  outbox : Table EventOutbox EventOutbox.dedupeKey (noAlt EventOutbox)
  deriving DecidableEq

def Db.empty : Db := ⟨.empty, .empty, .empty⟩

inductive DbError where
  | lookupError | dataError | integrityError
  deriving DecidableEq, Repr

/-! ## Webhooks -/

/-- `generatedId` is the `uuid4` for an event without an id. -/
structure Delivery where
  payload : Payload
  generatedId : String
  now : Int
  deriving DecidableEq, Repr

namespace Delivery

def eventId (delivery : Delivery) : String :=
  if delivery.payload.eventId ≠ "" then delivery.payload.eventId else delivery.generatedId

def webhookEvent (delivery : Delivery) : PersonaWebhookEvent :=
  ⟨delivery.eventId, delivery.payload.dataType, delivery.payload.inquiryId⟩

/-- The columns hold what is written to them. -/
def Loggable (delivery : Delivery) : Prop :=
  delivery.eventId.length ≤ 255 ∧ delivery.payload.dataType.length ≤ 128 ∧
    delivery.payload.inquiryId.length ≤ 255 ∧ delivery.payload.storable = true

instance : DecidablePred Loggable := fun delivery =>
  inferInstanceAs (Decidable (delivery.eventId.length ≤ 255 ∧ _))

end Delivery

/-- A status of approved does not stand against the age signal. -/
def inquiryStatusOf (payload : Payload) : String :=
  if getInquiryStatus payload = "approved" ∧ isUnderageSignal (getFaceAgeSignal payload) = true then
    "needs_review"
  else getInquiryStatus payload

/-- `event_map` -/
def eventMap : VerificationStatus → Option String
  | .approved => some "identity.verified"
  | .declined => some "identity.declined"
  | .needsReview => some "identity.needs_review"
  | .pending => none

def dedupeKey (eventName inquiryId : String) : String := eventName ++ ":" ++ inquiryId

def checkStatus (text : String) : Except DbError VerificationStatus :=
  (VerificationStatus.ofText text).elim (.error .lookupError) .ok

/-- `face_age_signal` has 32 characters. -/
def checkFaceAge (faceAge : Option String) : Except DbError Unit :=
  if faceAge.all (·.length ≤ 32) then .ok () else .error .dataError

/-- An inquiry id that is empty does not replace the one of the row. -/
def IdentityVerification.decide (iv : IdentityVerification) (status : VerificationStatus)
    (faceAge : Option String) (now : Int) (inquiryId : String) : IdentityVerification where
  userId := iv.userId
  personaInquiryId := if inquiryId ≠ "" then some inquiryId else iv.personaInquiryId
  status := status
  faceAgeSignal := faceAge
  decisionAt := some now

def saveVerification (db : Db) (userUuid : String) (status : VerificationStatus)
    (faceAge : Option String) (now : Int) (inquiryId : String) : Except DbError Db :=
  match db.verifications.lookup userUuid with
  | none =>
      (db.verifications.insert? ⟨userUuid, some inquiryId, status, faceAge, some now⟩).elim
        (.error .integrityError) fun verifications => .ok { db with verifications }
  | some _ => .ok { db with
      verifications := db.verifications.modify userUuid (·.decide status faceAge now inquiryId) }

def enqueueOutbox (db : Db) (row : EventOutbox) : Except DbError Db :=
  (db.outbox.insert? row).elim (.error .integrityError) fun outbox => .ok { db with outbox }

/-- The part of `_process_webhook` after the reference id was read. -/
def decideInquiry (db : Db) (delivery : Delivery) (userUuid : String) : Except DbError Db := do
  let inquiryId := delivery.payload.inquiryId
  let faceAge := getFaceAgeSignal delivery.payload
  let status ← checkStatus (inquiryStatusOf delivery.payload)
  checkFaceAge faceAge
  let db ← saveVerification db userUuid status faceAge delivery.now inquiryId
  match eventMap status with
  | none => return db
  | some eventToEmit =>
      enqueueOutbox db
        ⟨eventToEmit, userUuid, inquiryId, status, faceAge, dedupeKey eventToEmit inquiryId⟩

/-- `_process_webhook` -/
def processWebhook (db : Db) (delivery : Delivery) : Except DbError Db :=
  if delivery.Loggable then
    match db.events.insert? delivery.webhookEvent with
    | none => .ok db
    | some events =>
        match delivery.payload.referenceId with
        | .missing | .malformed _ => .ok { db with events }
        | .uuid userUuid => decideInquiry { db with events } delivery userUuid
  else .error .dataError

/-! ## Inquiries -/

def VerificationStatus.final (status : VerificationStatus) : Bool :=
  decide (status = .approved ∨ status = .declined)

/-- `inquiry_start`, when Persona creates the inquiry of the given id. -/
def inquiryStart (db : Db) (userUuid inquiryId : String) : Except DbError Db :=
  match db.verifications.lookup userUuid with
  | some existing =>
      if existing.status.final ∧ existing.personaInquiryId ≠ none ∧
          existing.personaInquiryId ≠ some "" then .ok db
      else if inquiryId.length ≤ 255 then
        .ok { db with verifications := db.verifications.modify userUuid fun iv =>
          { iv with personaInquiryId := some inquiryId, status := .pending } }
      else .error .dataError
  | none =>
      if inquiryId.length ≤ 255 then
        (db.verifications.insert? ⟨userUuid, some inquiryId, .pending, none, none⟩).elim
          (.error .integrityError) fun verifications => .ok { db with verifications }
      else .error .dataError

/-! ## Runs -/

inductive Request where
  | start (userUuid inquiryId : String)
  | webhook (delivery : Delivery)
  deriving DecidableEq, Repr

def Request.handle (db : Db) : Request → Except DbError Db
  | .start userUuid inquiryId => inquiryStart db userUuid inquiryId
  | .webhook delivery => processWebhook db delivery

/-- A request that fails stores nothing. -/
def step (db : Db) (request : Request) : Db :=
  match request.handle db with
  | .ok db' => db'
  | .error _ => db

/-! ## What a webhook writes -/

/-- The verification of a user after a webhook. -/
def decided (db : Db) (delivery : Delivery) (userUuid : String) (status : VerificationStatus) :
    IdentityVerification :=
  ((db.verifications.lookup userUuid).getD ⟨userUuid, some "", .pending, none, none⟩).decide
    status (getFaceAgeSignal delivery.payload) delivery.now delivery.payload.inquiryId

/-- The outbox row of a verdict. -/
def Delivery.emitted (delivery : Delivery) (userUuid : String) (status : VerificationStatus)
    (eventName : String) : EventOutbox :=
  ⟨eventName, userUuid, delivery.payload.inquiryId, status, getFaceAgeSignal delivery.payload,
    dedupeKey eventName delivery.payload.inquiryId⟩

/-- The verification is written, and the verdict is in the outbox. -/
structure Decides (db : Db) (delivery : Delivery) (userUuid : String)
    (status : VerificationStatus) (db' : Db) : Prop where
  status_eq : VerificationStatus.ofText (inquiryStatusOf delivery.payload) = some status
  faceAge : (getFaceAgeSignal delivery.payload).all (·.length ≤ 32) = true
  events : db'.events = db.events
  verifications : db.verifications.Puts (decided db delivery userUuid status) db'.verifications
  outbox : match eventMap status with
    | none => db'.outbox = db.outbox
    | some eventName =>
        db.outbox.insert? (delivery.emitted userUuid status eventName) = some db'.outbox

theorem saveVerification_puts {db db' : Db} {delivery : Delivery} {userUuid : String}
    {status : VerificationStatus}
    (saved : saveVerification db userUuid status (getFaceAgeSignal delivery.payload)
      delivery.now delivery.payload.inquiryId = .ok db') :
    db'.events = db.events ∧ db'.outbox = db.outbox ∧
      db.verifications.Puts (decided db delivery userUuid status) db'.verifications := by
  unfold saveVerification at saved
  split at saved
  · rename_i absent
    cases stored : db.verifications.insert? ⟨userUuid, some delivery.payload.inquiryId, status,
        getFaceAgeSignal delivery.payload, some delivery.now⟩ with
    | none => simp [stored] at saved
    | some verifications =>
        simp only [stored, Option.elim_some, Except.ok.injEq] at saved
        subst saved
        refine ⟨rfl, rfl, ?_⟩
        have row : decided db delivery userUuid status = ⟨userUuid,
            some delivery.payload.inquiryId, status, getFaceAgeSignal delivery.payload,
            some delivery.now⟩ := by
          by_cases named : delivery.payload.inquiryId = "" <;>
            simp [decided, absent, IdentityVerification.decide, named]
        rw [row]
        exact Table.puts_insert stored
  · rename_i iv present
    simp only [Except.ok.injEq] at saved
    subst saved
    refine ⟨rfl, rfl, ?_⟩
    have row : decided db delivery userUuid status = iv.decide status
        (getFaceAgeSignal delivery.payload) delivery.now delivery.payload.inquiryId := by
      simp [decided, present]
    obtain ⟨mem, rfl⟩ := Table.lookup_eq_some_iff.1 present
    rw [row]
    dsimp only
    exact Table.puts_modify mem

theorem ok_of_checkStatus {text : String} {status : VerificationStatus}
    (checked : checkStatus text = .ok status) : VerificationStatus.ofText text = some status := by
  unfold checkStatus at checked
  cases parsed : VerificationStatus.ofText text <;> simp_all

theorem ok_of_checkFaceAge {faceAge : Option String} {done : Unit}
    (checked : checkFaceAge faceAge = .ok done) : faceAge.all (·.length ≤ 32) = true := by
  unfold checkFaceAge at checked
  split at checked
  · assumption
  · cases checked

theorem ok_of_enqueueOutbox {db db' : Db} {row : EventOutbox}
    (queued : enqueueOutbox db row = .ok db') :
    db'.events = db.events ∧ db'.verifications = db.verifications ∧
      db.outbox.insert? row = some db'.outbox := by
  unfold enqueueOutbox at queued
  cases stored : db.outbox.insert? row with
  | none => simp [stored] at queued
  | some outbox =>
      simp only [stored, Option.elim_some, Except.ok.injEq] at queued
      subst queued
      exact ⟨rfl, rfl, rfl⟩

theorem decides_of_decideInquiry {db db' : Db} {delivery : Delivery} {userUuid : String}
    (processed : decideInquiry db delivery userUuid = .ok db') :
    ∃ status, Decides db delivery userUuid status db' := by
  unfold decideInquiry at processed
  obtain ⟨status, checked, processed⟩ := bind_eq_ok.1 processed
  obtain ⟨_, aged, processed⟩ := bind_eq_ok.1 processed
  obtain ⟨saved, save, processed⟩ := bind_eq_ok.1 processed
  obtain ⟨events, outbox, puts⟩ := saveVerification_puts save
  have parsed := ok_of_checkStatus checked
  have short := ok_of_checkFaceAge aged
  refine ⟨status, ?_⟩
  cases emitted : eventMap status with
  | none =>
      simp only [emitted] at processed
      obtain rfl : saved = db' := Except.ok.inj processed
      exact ⟨parsed, short, events, puts, by simpa only [emitted] using outbox⟩
  | some eventName =>
      simp only [emitted] at processed
      obtain ⟨same, kept, queued⟩ := ok_of_enqueueOutbox processed
      refine ⟨parsed, short, same.trans events, kept ▸ puts, ?_⟩
      simp only [emitted]
      rwa [outbox] at queued

/-- The outcomes of a webhook that is answered with 200. -/
theorem processWebhook_cases {db db' : Db} {delivery : Delivery}
    (processed : processWebhook db delivery = .ok db') :
    delivery.Loggable ∧
      ((db.events.Clashes delivery.webhookEvent ∧ db' = db) ∨
        ∃ events, db.events.insert? delivery.webhookEvent = some events ∧
          ((delivery.payload.referenceId.id? = none ∧ db' = { db with events }) ∨
            ∃ userUuid status, delivery.payload.referenceId = .uuid userUuid ∧
              Decides { db with events } delivery userUuid status db')) := by
  unfold processWebhook at processed
  split at processed
  · rename_i loggable
    refine ⟨loggable, ?_⟩
    cases logged : db.events.insert? delivery.webhookEvent with
    | none =>
        simp only [logged, Except.ok.injEq] at processed
        exact Or.inl ⟨Table.insert?_eq_none_iff.1 logged, processed.symm⟩
    | some events =>
        simp only [logged] at processed
        refine Or.inr ⟨events, rfl, ?_⟩
        cases reference : delivery.payload.referenceId with
        | missing =>
            simp only [reference, Except.ok.injEq] at processed
            exact Or.inl ⟨rfl, processed.symm⟩
        | malformed text =>
            simp only [reference, Except.ok.injEq] at processed
            exact Or.inl ⟨rfl, processed.symm⟩
        | uuid userUuid =>
            simp only [reference] at processed
            obtain ⟨status, decides⟩ := decides_of_decideInquiry processed
            exact Or.inr ⟨userUuid, status, rfl, decides⟩
  · cases processed

/-- A new webhook of a known user is decided. -/
theorem decides_of_processWebhook {db db' : Db} {delivery : Delivery} {userUuid : String}
    (processed : processWebhook db delivery = .ok db')
    (reference : delivery.payload.referenceId = .uuid userUuid)
    (new : delivery.eventId ∉ db.events.rows.map (·.eventId)) :
    ∃ events status, db.events.insert? delivery.webhookEvent = some events ∧
      Decides { db with events } delivery userUuid status db' := by
  obtain ⟨-, ⟨clash, -⟩ | ⟨events, logged, ⟨unknown, -⟩ | ⟨user, status, same, decides⟩⟩⟩ :=
    processWebhook_cases processed
  · obtain known | ⟨_, none, -⟩ := clash
    · exact absurd known new
    · cases none
  · rw [reference] at unknown
    cases unknown
  · obtain rfl : userUuid = user := by simpa [reference] using same
    exact ⟨events, status, logged, decides⟩

/-! ## The new state -/

@[simp] theorem decided_userId (db : Db) (delivery : Delivery) (userUuid : String)
    (status : VerificationStatus) : (decided db delivery userUuid status).userId = userUuid := by
  unfold decided IdentityVerification.decide
  cases found : db.verifications.lookup userUuid with
  | none => rfl
  | some iv =>
      have key : iv.userId = userUuid := Table.key_of_lookup found
      exact key

theorem Decides.lookup {db db' : Db} {delivery : Delivery} {userUuid : String}
    {status : VerificationStatus} (h : Decides db delivery userUuid status db')
    (user : String) :
    db'.verifications.lookup user =
      if userUuid = user then some (decided db delivery userUuid status)
      else db.verifications.lookup user := by
  simpa using h.verifications user

/-- The outbox grows by the verdict's row only. -/
theorem Decides.mem_outbox {db db' : Db} {delivery : Delivery} {userUuid : String}
    {status : VerificationStatus} (h : Decides db delivery userUuid status db')
    {row : EventOutbox} :
    row ∈ db'.outbox.rows ↔ row ∈ db.outbox.rows ∨
      ∃ eventName, eventMap status = some eventName ∧
        row = delivery.emitted userUuid status eventName := by
  have outbox := h.outbox
  cases emitted : eventMap status with
  | none =>
      simp only [emitted] at outbox
      simp [outbox]
  | some eventName =>
      simp only [emitted] at outbox
      rw [(Table.insert?_eq_some outbox).2]
      simp [or_comm]

/-- What the start of an inquiry writes. -/
theorem inquiryStart_cases {db db' : Db} {userUuid inquiryId : String}
    (started : inquiryStart db userUuid inquiryId = .ok db') :
    db'.events = db.events ∧ db'.outbox = db.outbox ∧
      (db'.verifications = db.verifications ∨
        ∃ iv, iv.userId = userUuid ∧ iv.status = .pending ∧
          iv.personaInquiryId = some inquiryId ∧
          db.verifications.Puts iv db'.verifications) := by
  unfold inquiryStart at started
  split at started
  · rename_i existing found
    split at started
    · simp only [Except.ok.injEq] at started
      exact ⟨by rw [started], by rw [started], Or.inl (by rw [started])⟩
    · split at started
      · simp only [Except.ok.injEq] at started
        subst started
        obtain ⟨mem, rfl⟩ := Table.lookup_eq_some_iff.1 found
        refine ⟨rfl, rfl, Or.inr ⟨{ existing with
          personaInquiryId := some inquiryId, status := .pending }, rfl, rfl, rfl, ?_⟩⟩
        dsimp only
        exact Table.puts_modify mem
      · cases started
  · split at started
    · cases stored : db.verifications.insert? ⟨userUuid, some inquiryId, .pending, none, none⟩ with
      | none => simp [stored] at started
      | some verifications =>
          simp only [stored, Option.elim_some, Except.ok.injEq] at started
          subst started
          exact ⟨rfl, rfl, Or.inr ⟨_, rfl, rfl, rfl, Table.puts_insert stored⟩⟩
    · cases started

/-- What holds now, and after each request that does not fail, holds after the step. -/
theorem step_cases {motive : Db → Prop} (db : Db) (request : Request) (unchanged : motive db)
    (handled : ∀ db', request.handle db = .ok db' → motive db') : motive (step db request) := by
  unfold step
  cases outcome : request.handle db with
  | error raised => exact unchanged
  | ok db' => exact handled db' outcome

end ColabPlatform.Identity
