import ColabPlatform.Identity.Webhook

/-!
# Identity service: verdicts under reordering and repetition

Whatever arrives last is written over what is recorded, and a verdict that an
inquiry has had already rolls its delivery back.  So the order and the repetition
of webhooks matter exactly where one of them is stale or repeats a verdict.
-/

namespace ColabPlatform.Identity

open Foundation Common

/-! ## Webhooks that do not fail -/

theorem saveVerification_ok (db : Db) (userUuid : String) (status : VerificationStatus)
    (faceAge : Option String) (now : Int) (inquiryId : String) :
    ∃ db', saveVerification db userUuid status faceAge now inquiryId = .ok db' := by
  unfold saveVerification
  split
  · rename_i absent
    cases stored : db.verifications.insert? ⟨userUuid, some inquiryId, status, faceAge,
        some now⟩ with
    | none =>
        -- the lookup has just found that there is no row of this user
        exact absurd absent ((Table.insert?_eq_none_iff_of_null rfl).1 stored)
    | some verifications => exact ⟨_, rfl⟩
  · exact ⟨_, rfl⟩

theorem enqueueOutbox_ok {db : Db} {row : EventOutbox}
    (free : row.dedupeKey ∉ db.outbox.rows.map (·.dedupeKey)) :
    ∃ db', enqueueOutbox db row = .ok db' := by
  unfold enqueueOutbox
  cases stored : db.outbox.insert? row with
  | none =>
      have absent : db.outbox.lookup row.dedupeKey = none := Table.lookup_eq_none_iff.2 free
      exact absurd absent ((Table.insert?_eq_none_iff_of_null rfl).1 stored)
  | some outbox => exact ⟨_, rfl⟩

namespace Delivery

def status? (delivery : Delivery) : Option VerificationStatus :=
  VerificationStatus.ofText (inquiryStatusOf delivery.payload)

/-- The event that the webhook is mapped to. -/
def verdict (delivery : Delivery) : Option String := delivery.status?.bind eventMap

/-- The tables hold what is written, and the status is one of the four. -/
def Storable (delivery : Delivery) : Prop :=
  delivery.Loggable ∧ (getFaceAgeSignal delivery.payload).all (·.length ≤ 32) = true ∧
    delivery.status?.isSome

instance : DecidablePred Storable := fun delivery =>
  inferInstanceAs (Decidable (delivery.Loggable ∧ _))

/-- The verdict is the first of its kind about its inquiry. -/
def Unsent (db : Db) (delivery : Delivery) : Prop :=
  ∀ eventName ∈ delivery.verdict,
    dedupeKey eventName delivery.payload.inquiryId ∉ db.outbox.rows.map (·.dedupeKey)

instance (db : Db) : DecidablePred (Unsent db) := fun delivery =>
  inferInstanceAs (Decidable (∀ eventName ∈ delivery.verdict, _))

end Delivery

theorem decideInquiry_ok {db : Db} {delivery : Delivery} (userUuid : String)
    (storable : delivery.Storable) (unsent : delivery.Unsent db) :
    ∃ db', decideInquiry db delivery userUuid = .ok db' := by
  obtain ⟨-, short, known⟩ := storable
  obtain ⟨status, parsed⟩ := Option.isSome_iff_exists.1 known
  have text : VerificationStatus.ofText (inquiryStatusOf delivery.payload) = some status := parsed
  have checked : checkStatus (inquiryStatusOf delivery.payload) = .ok status := by
    simp [checkStatus, text]
  have aged : checkFaceAge (getFaceAgeSignal delivery.payload) = .ok () := by
    simp [checkFaceAge, short]
  obtain ⟨saved, save⟩ := saveVerification_ok db userUuid status
    (getFaceAgeSignal delivery.payload) delivery.now delivery.payload.inquiryId
  obtain ⟨-, outbox, -⟩ := saveVerification_puts save
  cases emitted : eventMap status with
  | none =>
      refine ⟨saved, bind_eq_ok.2 ⟨_, checked, bind_eq_ok.2 ⟨_, aged, bind_eq_ok.2
        ⟨_, save, ?_⟩⟩⟩⟩
      simp only [emitted]
      rfl
  | some eventName =>
      have verdict : eventName ∈ delivery.verdict := by
        simp [Delivery.verdict, parsed, emitted]
      have free := unsent eventName verdict
      rw [← outbox] at free
      obtain ⟨db', queued⟩ : ∃ db', enqueueOutbox saved
          (delivery.emitted userUuid status eventName) = .ok db' := enqueueOutbox_ok free
      refine ⟨db', bind_eq_ok.2 ⟨_, checked, bind_eq_ok.2 ⟨_, aged, bind_eq_ok.2
        ⟨_, save, ?_⟩⟩⟩⟩
      simp only [emitted]
      exact queued

/-- A webhook that is new and of a known user is processed exactly if what it writes can be
stored and its verdict was not sent before. -/
theorem processWebhook_ok_iff {db : Db} {delivery : Delivery} {userUuid : String}
    (reference : delivery.payload.referenceId = .uuid userUuid)
    (new : delivery.eventId ∉ db.events.rows.map (·.eventId)) :
    (∃ db', processWebhook db delivery = .ok db') ↔
      delivery.Storable ∧ delivery.Unsent db := by
  constructor
  · rintro ⟨db', processed⟩
    obtain ⟨loggable, -⟩ := processWebhook_cases processed
    obtain ⟨events, status, -, decides⟩ := decides_of_processWebhook processed reference new
    have parsed : delivery.status? = some status := decides.status_eq
    refine ⟨⟨loggable, decides.faceAge, by simp [parsed]⟩, fun eventName verdict => ?_⟩
    have emitted : eventMap status = some eventName := by
      simpa [Delivery.verdict, parsed] using verdict
    have queued := decides.outbox
    simp only [emitted] at queued
    exact fun taken => (Table.insert?_eq_some queued).1 (Or.inl taken)
  · rintro ⟨storable, unsent⟩
    cases logged : db.events.insert? delivery.webhookEvent with
    | none =>
        have absent : db.events.lookup delivery.webhookEvent.eventId = none :=
          Table.lookup_eq_none_iff.2 new
        exact absurd absent ((Table.insert?_eq_none_iff_of_null rfl).1 logged)
    | some events =>
        obtain ⟨db', decided⟩ : ∃ db', decideInquiry { db with events } delivery userUuid =
            .ok db' := decideInquiry_ok userUuid storable unsent
        exact ⟨db', by simp [processWebhook, storable.1, logged, reference, decided]⟩

/-! ## What is wanted -/

/-- The event is pending, or of an inquiry older than the one that is recorded. -/
def Stale (startedAt : String → Int) (iv : IdentityVerification) (delivery : Delivery) : Prop :=
  delivery.status? = some .pending ∨
    delivery.payload.inquiryId ≠ "" ∧
      ∃ recorded ∈ iv.personaInquiryId, startedAt delivery.payload.inquiryId < startedAt recorded

instance (startedAt : String → Int) (iv : IdentityVerification) (delivery : Delivery) :
    Decidable (Stale startedAt iv delivery) :=
  inferInstanceAs (Decidable (_ ∨ _ ∧ ∃ recorded ∈ iv.personaInquiryId, _))

/-- The webhook is processed and recorded, and it does not overwrite a verdict if it is stale. -/
structure Upheld (startedAt : String → Int) (db : Db) (delivery : Delivery)
    (userUuid : String) : Prop where
  processed : ∃ db', processWebhook db delivery = .ok db' ∧
    delivery.eventId ∈ db'.events.rows.map (·.eventId)
  kept : ∀ iv ∈ db.verifications.lookup userUuid, iv.status.final = true →
    Stale startedAt iv delivery →
      iv ∈ (step db (.webhook delivery)).verifications.lookup userUuid

/-- The webhooks are upheld, and each verdict of an inquiry is in the outbox once. -/
structure VerdictsSurvive (startedAt : String → Int) (requests : List Request) : Prop where
  upheld : ∀ before delivery after userUuid, requests = before ++ .webhook delivery :: after →
    delivery.payload.referenceId = .uuid userUuid →
      Upheld startedAt (runFrom step .empty before) delivery userUuid
  emitted : ∀ delivery, .webhook delivery ∈ requests → ∀ eventName ∈ delivery.verdict,
    ((runFrom step .empty requests).outbox.rows.filter fun row =>
      row.eventName = eventName ∧ row.personaInquiryId = delivery.payload.inquiryId).length = 1

/-- A webhook can be stored, repeats no verdict of its inquiry, and is not stale where a
verdict is recorded. -/
def Orderly (startedAt : String → Int) (db : Db) : Request → Prop
  | .start _ _ => True
  | .webhook delivery =>
      delivery.Storable ∧ delivery.Unsent db ∧
        ∀ userUuid ∈ delivery.payload.referenceId.id?,
          ∀ iv ∈ db.verifications.lookup userUuid, iv.status.final = true →
            ¬ Stale startedAt iv delivery

instance (startedAt : String → Int) (db : Db) : DecidablePred (Orderly startedAt db) :=
  fun request => by cases request <;> unfold Orderly <;> infer_instance

/-! ## One webhook -/

theorem step_of_processed {db db' : Db} {delivery : Delivery}
    (processed : processWebhook db delivery = .ok db') : step db (.webhook delivery) = db' := by
  simp [step, Request.handle, processed]

/-- What a stale webhook writes over a verdict is something else. -/
theorem decided_ne_of_stale {startedAt : String → Int} {db : Db} {delivery : Delivery}
    {userUuid : String} {status : VerificationStatus} {iv : IdentityVerification}
    (parsed : delivery.status? = some status) (final : iv.status.final = true)
    (stale : Stale startedAt iv delivery) : decided db delivery userUuid status ≠ iv := by
  intro same
  obtain pending | ⟨named, recorded, inquiry, older⟩ := stale
  · obtain rfl : status = .pending := by simpa [parsed] using pending
    rw [← same] at final
    simp [decided, IdentityVerification.decide, VerificationStatus.final] at final
  · rw [← same] at inquiry
    have current : delivery.payload.inquiryId = recorded := by
      simpa [decided, IdentityVerification.decide, named] using inquiry
    rw [current] at older
    exact lt_irrefl _ older

theorem upheld_iff {startedAt : String → Int} {db : Db} {delivery : Delivery}
    {userUuid : String} (reference : delivery.payload.referenceId = .uuid userUuid)
    (new : delivery.eventId ∉ db.events.rows.map (·.eventId)) :
    Upheld startedAt db delivery userUuid ↔ Orderly startedAt db (.webhook delivery) := by
  constructor
  · rintro ⟨⟨db', processed, -⟩, kept⟩
    obtain ⟨storable, unsent⟩ := (processWebhook_ok_iff reference new).1 ⟨db', processed⟩
    obtain ⟨events, status, -, decides⟩ := decides_of_processWebhook processed reference new
    refine ⟨storable, unsent, fun user same iv found final stale => ?_⟩
    obtain rfl : userUuid = user := by simpa [reference, IdField.id?] using same
    have still := kept iv found final stale
    rw [step_of_processed processed, decides.lookup, if_pos rfl] at still
    exact decided_ne_of_stale decides.status_eq final stale (Option.some.inj still)
  · rintro ⟨storable, unsent, current⟩
    obtain ⟨db', processed⟩ := (processWebhook_ok_iff reference new).2 ⟨storable, unsent⟩
    obtain ⟨events, status, logged, decides⟩ :=
      decides_of_processWebhook processed reference new
    refine ⟨⟨db', processed, ?_⟩, fun iv found final stale => ?_⟩
    · rw [decides.events]
      simp [(Table.insert?_eq_some logged).2, Delivery.webhookEvent]
    · exact absurd stale (current userUuid (by simp [reference, IdField.id?]) iv found final)

/-! ## Runs -/

def Request.eventId? : Request → Option String
  | .start _ _ => none
  | .webhook delivery => some delivery.eventId

def Request.ofKnownUser : Request → Prop
  | .start _ _ => True
  | .webhook delivery => ∃ userUuid, delivery.payload.referenceId = .uuid userUuid

/-- What is kept of the log and of the outbox. -/
structure Grows (db db' : Db) (delivery? : Option Delivery) : Prop where
  events : ∀ id ∈ db'.events.rows.map (·.eventId),
    id ∈ db.events.rows.map (·.eventId) ∨ delivery?.map (·.eventId) = some id
  kept : ∀ row ∈ db.outbox.rows, row ∈ db'.outbox.rows
  added : ∀ row ∈ db'.outbox.rows, row ∈ db.outbox.rows ∨
    row.dedupeKey = dedupeKey row.eventName row.personaInquiryId

def Request.delivery? : Request → Option Delivery
  | .start _ _ => none
  | .webhook delivery => some delivery

theorem Grows.refl (db : Db) (delivery? : Option Delivery) : Grows db db delivery? :=
  ⟨fun _ mem => Or.inl mem, fun _ mem => mem, fun _ mem => Or.inl mem⟩

theorem mem_of_logged {db : Db} {delivery : Delivery}
    {events : Table PersonaWebhookEvent PersonaWebhookEvent.eventId (noAlt PersonaWebhookEvent)}
    (logged : db.events.insert? delivery.webhookEvent = some events) (id : String)
    (mem : id ∈ events.rows.map (·.eventId)) :
    id ∈ db.events.rows.map (·.eventId) ∨ some delivery.eventId = some id := by
  rw [(Table.insert?_eq_some logged).2, List.map_cons, List.mem_cons] at mem
  obtain rfl | old := mem
  · exact Or.inr rfl
  · exact Or.inl old

theorem step_grows (db : Db) (request : Request) :
    Grows db (step db request) request.delivery? := by
  refine step_cases (motive := (Grows db · request.delivery?)) db request
    (.refl db _) fun db' handled => ?_
  cases request with
  | start userUuid inquiryId =>
      obtain ⟨events, outbox, -⟩ := inquiryStart_cases handled
      exact ⟨fun id mem => Or.inl (events ▸ mem), fun row mem => outbox ▸ mem,
        fun row mem => Or.inl (outbox ▸ mem)⟩
  | webhook delivery =>
      obtain ⟨-, ⟨-, rfl⟩ | ⟨events, logged, ⟨-, rfl⟩ | ⟨user, status, -, decides⟩⟩⟩ :=
        processWebhook_cases handled
      · exact .refl db' _
      · exact ⟨mem_of_logged logged, fun row mem => mem, fun row mem => Or.inl mem⟩
      · refine ⟨?_, fun row mem => decides.mem_outbox.2 (Or.inl mem), fun row mem => ?_⟩
        · rw [decides.events]
          exact mem_of_logged logged
        · obtain old | ⟨eventName, -, rfl⟩ := decides.mem_outbox.1 mem
          · exact Or.inl old
          · exact Or.inr rfl

/-- Only the events of the run are logged. -/
theorem logged_of_run (requests : List Request) :
    ∀ id ∈ (runFrom step .empty requests).events.rows.map (·.eventId),
      id ∈ requests.filterMap Request.eventId? := by
  induction requests using List.reverseRecOn with
  | nil => simp [Db.empty]
  | append_singleton before request ih =>
      intro id mem
      rw [runFrom_append, runFrom_cons, runFrom_nil] at mem
      rw [List.filterMap_append, List.mem_append]
      obtain old | new := (step_grows _ request).events id mem
      · exact Or.inl (ih id old)
      · cases request with
        | start userUuid inquiryId => cases new
        | webhook delivery =>
            obtain rfl : delivery.eventId = id := Option.some.inj new
            exact Or.inr (by simp [Request.eventId?])

/-- A webhook is new where it comes in a run without repeated event ids. -/
theorem new_of_nodup {before after : List Request} {delivery : Delivery}
    (distinct : ((before ++ .webhook delivery :: after).filterMap Request.eventId?).Nodup) :
    delivery.eventId ∉ (runFrom step .empty before).events.rows.map (·.eventId) := by
  intro known
  have earlier := logged_of_run before _ known
  rw [List.filterMap_append, List.nodup_append] at distinct
  exact distinct.2.2 _ earlier delivery.eventId (by simp [Request.eventId?]) rfl

/-- The key of every row is made of its event and its inquiry. -/
def Keyed (db : Db) : Prop :=
  ∀ row ∈ db.outbox.rows, row.dedupeKey = dedupeKey row.eventName row.personaInquiryId

theorem keyed_of_run (requests : List Request) : Keyed (runFrom step .empty requests) := by
  have each : ∀ db request, Keyed db → Keyed (step db request) := by
    intro db request keyed row mem
    obtain old | key := (step_grows db request).added row mem
    · exact keyed row old
    · exact key
  exact runFrom_invariant each (by simp [Keyed, Db.empty]) requests

theorem outbox_kept {db : Db} {row : EventOutbox} (mem : row ∈ db.outbox.rows)
    (requests : List Request) : row ∈ (runFrom step db requests).outbox.rows := by
  have each : ∀ s request, row ∈ s.outbox.rows → row ∈ (step s request).outbox.rows :=
    fun s request sent => (step_grows s request).kept row sent
  exact runFrom_invariant each mem requests

/-- A verdict that was stored once is in the outbox once, whatever comes after it. -/
theorem emitted_once {before after : List Request} {delivery : Delivery} {userUuid : String}
    {db' : Db} (reference : delivery.payload.referenceId = .uuid userUuid)
    (new : delivery.eventId ∉ (runFrom step .empty before).events.rows.map (·.eventId))
    (processed : processWebhook (runFrom step .empty before) delivery = .ok db')
    {eventName : String} (verdict : eventName ∈ delivery.verdict) :
    ((runFrom step .empty (before ++ .webhook delivery :: after)).outbox.rows.filter fun row =>
      row.eventName = eventName ∧ row.personaInquiryId = delivery.payload.inquiryId).length =
      1 := by
  obtain ⟨events, status, -, decides⟩ := decides_of_processWebhook processed reference new
  have parsed : delivery.status? = some status := decides.status_eq
  have mapped : eventMap status = some eventName := by
    simpa [Delivery.verdict, parsed] using verdict
  have sent : delivery.emitted userUuid status eventName ∈ db'.outbox.rows :=
    decides.mem_outbox.2 (Or.inr ⟨eventName, mapped, rfl⟩)
  rw [← step_of_processed processed] at sent
  have still : delivery.emitted userUuid status eventName ∈
      (runFrom step .empty (before ++ .webhook delivery :: after)).outbox.rows := by
    rw [runFrom_append]
    exact outbox_kept sent after
  have one := Table.filter_eq_singleton (p := fun row => row.eventName = eventName ∧
      row.personaInquiryId = delivery.payload.inquiryId) still (by simp [Delivery.emitted]) ?_
  · rw [one]
    rfl
  · intro other mem same
    obtain ⟨name, inquiry⟩ := of_decide_eq_true same
    refine Table.eq_of_key_eq mem still ?_
    rw [keyed_of_run _ other mem, name, inquiry]
    rfl

/--
For requests with distinct event ids about known users: the webhooks survive reordering and
repetition exactly if each can be stored, repeats no verdict of its inquiry and is not stale
where a verdict is recorded.
-/
theorem verdictsSurvive_iff (startedAt : String → Int) (requests : List Request)
    (distinct : (requests.filterMap Request.eventId?).Nodup)
    (known : ∀ request ∈ requests, request.ofKnownUser) :
    VerdictsSurvive startedAt requests ↔ Guarded step (Orderly startedAt) .empty requests := by
  constructor
  · intro survive
    refine guarded_of_prefixes fun before request after split => ?_
    subst split
    cases request with
    | start userUuid inquiryId => trivial
    | webhook delivery =>
        obtain ⟨userUuid, reference⟩ := known (.webhook delivery) (by simp)
        exact (upheld_iff reference (new_of_nodup distinct)).1
          (survive.upheld before delivery after userUuid rfl reference)
  · intro guarded
    have orderly : ∀ before delivery after, requests = before ++ .webhook delivery :: after →
        Orderly startedAt (runFrom step .empty before) (.webhook delivery) := by
      rintro before delivery after rfl
      exact guarded.suffix.1
    refine ⟨fun before delivery after userUuid split reference => ?_,
      fun delivery mem eventName verdict => ?_⟩
    · refine (upheld_iff reference ?_).2 (orderly before delivery after split)
      exact new_of_nodup (split ▸ distinct)
    · obtain ⟨before, after, split⟩ := List.append_of_mem mem
      obtain ⟨userUuid, reference⟩ := known (.webhook delivery) mem
      have new := new_of_nodup (split ▸ distinct)
      obtain ⟨⟨db', processed, -⟩, -⟩ :=
        (upheld_iff reference new).2 (orderly before delivery after split)
      rw [split]
      exact emitted_once reference new processed verdict

/-! ## Webhooks that do not survive -/

def inquiryEvent (eventId dataType inquiryId : String) (status : String) : Delivery where
  payload := ⟨"", eventId, dataType, inquiryId, .uuid "user", some (.text status), [], true⟩
  generatedId := ""
  now := 0

theorem verdictsSurvive_iff_in_order :
    VerdictsSurvive (fun _ => 0) [.start "user" "inq_1",
      .webhook (inquiryEvent "evt_1" "inquiry.needs-review" "inq_1" "needs_review"),
      .webhook (inquiryEvent "evt_2" "inquiry.approved" "inq_1" "approved")] :=
  (verdictsSurvive_iff _ _ (by decide +kernel) (by
    intro request mem
    simp only [List.mem_cons, List.not_mem_nil, or_false] at mem
    obtain rfl | rfl | rfl := mem
    · trivial
    · exact ⟨"user", rfl⟩
    · exact ⟨"user", rfl⟩)).2 (by decide +kernel)

/-- A second approval of an inquiry fails and is not recorded, a pending event and the
decline of an older inquiry are written over an approval. -/
theorem verdicts_are_lost :
    (∃ requests, (requests.filterMap Request.eventId?).Nodup ∧
      (∀ request ∈ requests, request.ofKnownUser) ∧ ¬ VerdictsSurvive (fun _ => 0) requests) ∧
    processWebhook
        (runFrom step .empty [.webhook (inquiryEvent "evt_1" "inquiry.approved" "inq_1" "approved")])
        (inquiryEvent "evt_2" "inquiry.approved" "inq_1" "approved") = .error .integrityError ∧
    ((runFrom step .empty
      [.webhook (inquiryEvent "evt_1" "inquiry.approved" "inq_1" "approved"),
        .webhook (inquiryEvent "evt_2" "inquiry.started" "inq_1" "pending")]).verifications.lookup
          "user").map (·.status) = some .pending ∧
    ((runFrom step .empty [.start "user" "inq_1", .start "user" "inq_2",
      .webhook (inquiryEvent "evt_1" "inquiry.approved" "inq_2" "approved"),
      .webhook (inquiryEvent "evt_2" "inquiry.declined" "inq_1" "declined")]).verifications.lookup
          "user").map (·.status) = some .declined := by
  have repeated : processWebhook
      (runFrom step .empty [.webhook (inquiryEvent "evt_1" "inquiry.approved" "inq_1" "approved")])
      (inquiryEvent "evt_2" "inquiry.approved" "inq_1" "approved") = .error .integrityError := by
    decide +kernel
  refine ⟨⟨[.webhook (inquiryEvent "evt_1" "inquiry.approved" "inq_1" "approved"),
    .webhook (inquiryEvent "evt_2" "inquiry.approved" "inq_1" "approved")], by decide +kernel,
    ?_, fun survive => ?_⟩, repeated, by decide +kernel, by decide +kernel⟩
  · intro request mem
    simp only [List.mem_cons, List.not_mem_nil, or_false] at mem
    obtain rfl | rfl := mem
    · exact ⟨"user", rfl⟩
    · exact ⟨"user", rfl⟩
  · obtain ⟨⟨db', processed, -⟩, -⟩ := survive.upheld
      [.webhook (inquiryEvent "evt_1" "inquiry.approved" "inq_1" "approved")]
      (inquiryEvent "evt_2" "inquiry.approved" "inq_1" "approved") [] "user" rfl rfl
    rw [repeated] at processed
    cases processed

end ColabPlatform.Identity
