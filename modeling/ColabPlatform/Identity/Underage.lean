import ColabPlatform.Identity.Webhook

/-!
# Identity service: applicants under 18

An approval is withheld for the first age signal only.  A payload that has another
one below 18 is approved where the first one is not, or is not read as a number
below 18.
-/

namespace ColabPlatform.Identity

open Foundation Common

/-- The signal that the loop stops at is below 18. -/
def Payload.firstSignalUnderage (payload : Payload) : Prop :=
  ∃ before first after age, payload.included = before ++ first :: after ∧
    (∀ verification ∈ before, verification.silent) ∧
    first.type = "verification/government-id" ∧ first.signal = some age ∧
    (floatOf age.str).any (·.below18) = true

/-- An approval with an age signal below 18 has such a signal first. -/
def Payload.ageSeen (payload : Payload) : Prop :=
  payload.underage = true → getInquiryStatus payload = "approved" → payload.firstSignalUnderage

theorem isUnderageSignal_iff {payload : Payload} :
    isUnderageSignal (getFaceAgeSignal payload) = true ↔ payload.firstSignalUnderage := by
  unfold Payload.firstSignalUnderage
  constructor
  · intro underage
    unfold isUnderageSignal at underage
    cases signal : getFaceAgeSignal payload with
    | none => simp [signal] at underage
    | some text =>
        obtain ⟨before, first, after, age, split, silent, governmentId, found, rfl⟩ :=
          faceAgeSignalOf_eq_some.1 signal
        refine ⟨before, first, after, age, split, silent, governmentId, found, ?_⟩
        simpa [signal] using underage
  · rintro ⟨before, first, after, age, split, silent, governmentId, found, below⟩
    have signal : getFaceAgeSignal payload = some age.str :=
      faceAgeSignalOf_eq_some.2 ⟨before, first, after, age, split, silent, governmentId, found, rfl⟩
    simpa [isUnderageSignal, signal] using below

theorem ofText_eq_approved {text : String} :
    VerificationStatus.ofText text = some .approved ↔ text = "approved" := by
  unfold VerificationStatus.ofText
  split
  · rename_i pending
    simp [pending]
  · split
    · rename_i approved
      simp [approved]
    · rename_i other
      constructor
      · split
        · simp
        · split <;> simp
      · exact fun same => absurd same other

/-- What is stored is approved where the signal that is read does not stop it. -/
theorem inquiryStatusOf_eq_approved {payload : Payload} :
    inquiryStatusOf payload = "approved" ↔
      getInquiryStatus payload = "approved" ∧ ¬ payload.firstSignalUnderage := by
  rw [← isUnderageSignal_iff]
  unfold inquiryStatusOf
  split
  · rename_i withheld
    simp [withheld.2]
  · rename_i standing
    constructor
    · exact fun approved => ⟨approved, fun underage => standing ⟨approved, underage⟩⟩
    · exact fun approved => approved.1

theorem eventMap_eq_verified {status : VerificationStatus} :
    eventMap status = some "identity.verified" ↔ status = .approved := by
  cases status <;> decide

/-! ## One webhook -/

/-- A status other than approved is stored and no `identity.verified` is sent. -/
structure Unverified (db db' : Db) (userUuid : String) : Prop where
  stored : ∃ iv, db'.verifications.lookup userUuid = some iv ∧ iv.status ≠ .approved
  silent : ∀ row ∈ db'.outbox.rows, row.eventName = "identity.verified" → row ∈ db.outbox.rows

theorem Decides.unverified_iff {db db' : Db} {delivery : Delivery} {userUuid : String}
    {status : VerificationStatus} (h : Decides db delivery userUuid status db') :
    Unverified db db' userUuid ↔ status ≠ .approved := by
  constructor
  · rintro ⟨⟨iv, stored, other⟩, -⟩
    rw [h.lookup, if_pos rfl, Option.some.injEq] at stored
    subst stored
    exact other
  · intro other
    refine ⟨⟨_, by rw [h.lookup, if_pos rfl], other⟩, fun row mem verified => ?_⟩
    obtain old | ⟨eventName, emitted, rfl⟩ := h.mem_outbox.1 mem
    · exact old
    · obtain rfl : eventName = "identity.verified" := verified
      exact absurd (eventMap_eq_verified.1 emitted) other

theorem Decides.approved_iff {db db' : Db} {delivery : Delivery} {userUuid : String}
    {status : VerificationStatus} (h : Decides db delivery userUuid status db') :
    status = .approved ↔
      getInquiryStatus delivery.payload = "approved" ∧
        ¬ delivery.payload.firstSignalUnderage := by
  rw [← inquiryStatusOf_eq_approved, ← ofText_eq_approved, h.status_eq, Option.some.injEq]

/-! ## Runs -/

/-- The user is not approved, and was never reported as verified. -/
structure NeverVerified (db : Db) (userUuid : String) : Prop where
  status : ∀ iv ∈ db.verifications.lookup userUuid, iv.status ≠ .approved
  outbox : ∀ row ∈ db.outbox.rows, row.userId = userUuid → row.eventName ≠ "identity.verified"

theorem NeverVerified.decides {db db' : Db} {delivery : Delivery} {user userUuid : String}
    {status : VerificationStatus} (h : NeverVerified db userUuid)
    (decides : Decides db delivery user status db')
    (other : user = userUuid → status ≠ .approved) : NeverVerified db' userUuid where
  status := by
    intro iv found
    rw [decides.lookup] at found
    split at found
    · rename_i same
      obtain rfl := Option.some.inj found
      exact other same
    · exact h.status iv found
  outbox := by
    intro row mem same verified
    obtain old | ⟨eventName, emitted, rfl⟩ := decides.mem_outbox.1 mem
    · exact h.outbox row old same verified
    · obtain rfl : eventName = "identity.verified" := verified
      exact other same (eventMap_eq_verified.1 emitted)

/-- An approval of the user has a first signal below 18. -/
def Seen (userUuid : String) (request : Request) : Prop :=
  ∀ delivery, request = .webhook delivery → delivery.payload.referenceId = .uuid userUuid →
    getInquiryStatus delivery.payload = "approved" → delivery.payload.firstSignalUnderage

theorem neverVerified_step (userUuid : String) (db : Db) (request : Request)
    (seen : Seen userUuid request) (h : NeverVerified db userUuid) :
    NeverVerified (step db request) userUuid := by
  refine step_cases (motive := (NeverVerified · userUuid)) db request h fun db' handled => ?_
  cases request with
  | start user inquiryId =>
      obtain ⟨-, outbox, same | ⟨iv, -, pending, -, puts⟩⟩ := inquiryStart_cases handled
      · exact ⟨same ▸ h.status, outbox ▸ h.outbox⟩
      · refine ⟨fun found mem => ?_, outbox ▸ h.outbox⟩
        rw [puts] at mem
        split at mem
        · obtain rfl := Option.some.inj mem
          simp [pending]
        · exact h.status found mem
  | webhook delivery =>
      obtain ⟨-, ⟨-, rfl⟩ | ⟨events, -, ⟨-, rfl⟩ | ⟨user, status, reference, decides⟩⟩⟩ :=
        processWebhook_cases handled
      · exact h
      · exact ⟨h.status, h.outbox⟩
      · have logged : NeverVerified { db with events } userUuid := ⟨h.status, h.outbox⟩
        refine logged.decides decides ?_
        rintro rfl approved
        obtain ⟨approving, other⟩ := decides.approved_iff.1 approved
        exact other (seen delivery rfl reference approving)

/-- An applicant with an age signal below 18 is verified exactly by the approvals whose
first signal is not below 18. -/
theorem underage_unverified_iff (db : Db) (userUuid : String) :
    (∀ db' delivery, delivery.payload.referenceId = .uuid userUuid →
      delivery.eventId ∉ db.events.rows.map (·.eventId) → processWebhook db delivery = .ok db' →
        ((delivery.payload.underage = true → Unverified db db' userUuid) ↔
          delivery.payload.ageSeen)) ∧
    ∀ requests, NeverVerified db userUuid →
      (∀ delivery, .webhook delivery ∈ requests → delivery.payload.referenceId = .uuid userUuid →
        delivery.payload.underage = true ∧ delivery.payload.ageSeen) →
      NeverVerified (runFrom step db requests) userUuid := by
  refine ⟨fun db' delivery reference new processed => ?_, fun requests start underage => ?_⟩
  · obtain ⟨events, status, -, decides⟩ := decides_of_processWebhook processed reference new
    have one : Unverified db db' userUuid ↔
        (getInquiryStatus delivery.payload = "approved" →
          delivery.payload.firstSignalUnderage) := by
      have stored : Unverified { db with events } db' userUuid ↔ Unverified db db' userUuid :=
        ⟨fun h => ⟨h.stored, h.silent⟩, fun h => ⟨h.stored, h.silent⟩⟩
      rw [← stored, decides.unverified_iff, ne_eq, decides.approved_iff, not_and_not_right]
    exact imp_congr_right fun _ => one
  · have all : ∀ request ∈ requests, Seen userUuid request := by
      rintro request mem delivery rfl reference
      obtain ⟨minor, seen⟩ := underage delivery mem reference
      exact seen minor
    exact runFrom_invariant_of_guarded (neverVerified_step userUuid) start
      (guarded_of_forall all db)

/-! ## An adult's signal before a minor's -/

def governmentId (ageEstimateSignal age : Option Value) : Verification :=
  ⟨"verification/government-id", ageEstimateSignal, age⟩

def approval (included : List Verification) : Delivery where
  payload := ⟨"", "evt_1", "inquiry.approved", "inq_1", .uuid "user", some (.text "approved"),
    included, true⟩
  generatedId := ""
  now := 0

theorem underage_unverified_iff_minor_first :
    Unverified .empty (step .empty (.webhook (approval [governmentId none (some (.int 16))])))
        "user" ∧
      NeverVerified (runFrom step .empty
        [.start "user" "inq_1", .webhook (approval [governmentId none (some (.int 16))])])
        "user" := by
  have first : (approval [governmentId none (some (.int 16))]).payload.firstSignalUnderage :=
    ⟨[], governmentId none (some (.int 16)), [], .int 16, rfl, by simp, rfl, rfl,
      by decide +kernel⟩
  constructor
  · exact ((underage_unverified_iff .empty "user").1 _
      (approval [governmentId none (some (.int 16))]) rfl (by decide) (by decide +kernel)).2
      (fun _ _ => first) (by decide +kernel)
  · refine (underage_unverified_iff .empty "user").2 _
      ⟨by simp [Db.empty], by simp [Db.empty]⟩ ?_
    intro delivery mem _
    obtain rfl : delivery = approval [governmentId none (some (.int 16))] := by
      simpa using mem
    exact ⟨by decide +kernel, fun _ _ => first⟩

/-- The payload has a signal below 18, and its approval is stored and reported. -/
def minorVerified (included : List Verification) : Bool :=
  (approval included).payload.underage &&
    ((step .empty (.webhook (approval included))).verifications.lookup "user").any
      (·.status = .approved) &&
    (step .empty (.webhook (approval included))).outbox.rows.any
      (·.eventName = "identity.verified")

/-- A signal of 25 stands before one of 16, in one verification or in two, and a signal of
0 is passed over. -/
theorem minor_is_verified :
    minorVerified [governmentId (some (.int 25)) (some (.int 16))] = true ∧
      minorVerified [governmentId none (some (.int 25)), governmentId none (some (.int 16))] =
        true ∧
      minorVerified [governmentId (some (.int 0)) none] = true := by
  decide +kernel

end ColabPlatform.Identity
