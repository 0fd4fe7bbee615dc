import ColabPlatform.Admin.Model
import ColabPlatform.Foundation.Run

/-!
# Credit grants

Grants are forwarded to billing after a check of one field of the body, which is skipped for
the roles that may grant without a cap.  The file finds the sequences of requests in which the
grants of every other admin stay below the cap of a grant and the cap of a day.
-/

namespace ColabPlatform.Admin

open Foundation Common

/-! ## The endpoint -/

structure GrantSettings where
  supportCreditGrantSingleCapCents : Int := 2000
  deriving DecidableEq, Repr

structure GrantRequest where
  headers : AdminHeaders
  body : JsonBody
  now : Int
  deriving DecidableEq, Repr

/-- What is posted to billing, with the request that it belongs to. -/
structure Grant where
  request : Nat
  adminUserId : String
  headers : AdminHeaders
  body : JsonBody
  time : Int
  deriving DecidableEq, Repr

inductive GrantRefusal where
  | admission (refusal : AdminRefusal)
  | overCap (cap : Int)
  /-- the comparison with the cap raises -/
  | incomparable
  /-- the client cannot encode the body -/
  | notEncodable
  deriving DecidableEq, Repr

namespace GrantRefusal

def status : GrantRefusal → Nat
  | admission refusal => refusal.status
  | overCap _ => 403
  | incomparable | notEncodable => 500

def detail : GrantRefusal → String
  | admission refusal => refusal.detail
  | overCap cap => "Support agents may not grant more than $" ++ toString (cap / 100) ++ " per grant."
  | incomparable | notEncodable => "Internal Server Error"

/-- The check of the cap refuses. -/
def isCap : GrantRefusal → Bool
  | overCap _ | incomparable => true
  | admission _ | notEncodable => false

end GrantRefusal

/-- `body.get("delta_cents", 0)` -/
def deltaCents (body : JsonBody) : JsonValue := body.get "delta_cents" (.number 0)

/-- What billing credits for a body. -/
def creditedCents (body : JsonBody) : ℚ := (deltaCents body).number?.getD 0

def encodable (body : JsonBody) : Bool := body.all fun member => member.2.isEncodable

/-- The name of one of the two roles occurs in the header. -/
def skipsCap (roles : String) : Bool :=
  isSubstring "super_admin" roles || isSubstring "billing_admin" roles

def checkCap (settings : GrantSettings) (roles : String) (delta : JsonValue) :
    Except GrantRefusal Unit :=
  if skipsCap roles then .ok ()
  else match delta.exceeds settings.supportCreditGrantSingleCapCents with
    | none => .error .incomparable
    | some true => .error (.overCap settings.supportCreditGrantSingleCapCents)
    | some false => .ok ()

/-- `grant_credits` up to its request to billing, in whose header the admin is named. -/
def grantCredits (settings : GrantSettings) (enforce : Enforcer) (request : GrantRequest) :
    Except GrantRefusal String := do
  let admin ← (request.headers.admission enforce "credit_grant" "create").mapError .admission
  checkCap settings request.headers.roles (deltaCents request.body)
  if encodable request.body then .ok admin else .error .notEncodable

inductive GrantAnswer where
  | refused (refusal : GrantRefusal)
  /-- billing is not reached -/
  | failed
  /-- billing has the request and answers with a status -/
  | passedOn (status : Nat)
  deriving DecidableEq, Repr

structure GrantEvent where
  request : GrantRequest
  /-- the status that billing answers, if the request reaches it -/
  billing : Option Nat := some 200
  deriving DecidableEq, Repr

structure GrantDesk where
  answers : List (GrantRequest × GrantAnswer)
  forwarded : List Grant
  deriving DecidableEq, Repr

namespace GrantDesk

def empty : GrantDesk := ⟨[], []⟩

def answer (s : GrantDesk) (request : GrantRequest) (answer : GrantAnswer) : GrantDesk :=
  { s with answers := s.answers ++ [(request, answer)] }

def post (s : GrantDesk) (request : GrantRequest) (admin : String) : GrantDesk :=
  { s with forwarded := s.forwarded ++
      [⟨s.answers.length, admin, request.headers, request.body, request.now⟩] }

def step (settings : GrantSettings) (enforce : Enforcer) (s : GrantDesk) (event : GrantEvent) :
    GrantDesk :=
  match grantCredits settings enforce event.request with
  | .error refusal => s.answer event.request (.refused refusal)
  | .ok admin =>
      match event.billing with
      | none => s.answer event.request .failed
      | some status => (s.post event.request admin).answer event.request (.passedOn status)

def run (settings : GrantSettings) (enforce : Enforcer) (events : List GrantEvent) : GrantDesk :=
  runFrom (step settings enforce) empty events

/-! ## What is promised -/

/-- One of the two roles is in the list. -/
def isPrivileged (headers : AdminHeaders) : Bool :=
  "super_admin" ∈ headers.getAdminRoles || "billing_admin" ∈ headers.getAdminRoles

def secondsPerDay : Int := 86400

/-- 200 dollars -/
def dailyCapCents : ℚ := 20000

/-- The grant is one of an admin without the roles in the 24 hours from `start` on. -/
def inWindow (admin : String) (start : Int) (grant : Grant) : Bool :=
  !isPrivileged grant.headers && grant.adminUserId = admin && start ≤ grant.time &&
    grant.time < start + secondsPerDay

def windowTotal (s : GrantDesk) (admin : String) (start : Int) : ℚ :=
  ((s.forwarded.filter (inWindow admin start)).map fun grant => creditedCents grant.body).sum

structure Capped (settings : GrantSettings) (s : GrantDesk) : Prop where
  single : ∀ grant ∈ s.forwarded, isPrivileged grant.headers = false →
    creditedCents grant.body ≤ settings.supportCreditGrantSingleCapCents
  daily : ∀ admin start, s.windowTotal admin start ≤ dailyCapCents
  /-- A request that is refused forwards nothing. -/
  passed : ∀ grant ∈ s.forwarded, ∃ request status,
    s.answers[grant.request]? = some (request, .passedOn status)
  privileged : ∀ request refusal, (request, .refused refusal) ∈ s.answers →
    isPrivileged request.headers = true → refusal.isCap = false

/-! ## The sequences in which it is kept -/

/-- Nothing stops a request of an admin without the roles before billing: the permission is
given, the comparison with the cap is passed or skipped, and the body can be encoded. -/
def Proceeds (settings : GrantSettings) (enforce : Enforcer) (event : GrantEvent)
    (admin : String) : Prop :=
  event.request.headers.requiresPermission enforce "credit_grant" "create" = true ∧
  event.request.headers.adminUserId = .uuid admin ∧
  isPrivileged event.request.headers = false ∧
  (skipsCap event.request.headers.roles = true ∨
    (deltaCents event.request.body).exceeds settings.supportCreditGrantSingleCapCents =
      some false) ∧
  encodable event.request.body = true ∧ event.billing.isSome = true

/-- A role whose name only contains one of the two asks for no more than the cap of a grant,
and every day around the request has room for it. -/
def KeepsCaps (settings : GrantSettings) (enforce : Enforcer) (s : GrantDesk)
    (event : GrantEvent) : Prop :=
  ∀ admin, Proceeds settings enforce event admin →
    (skipsCap event.request.headers.roles = true →
      creditedCents event.request.body ≤ settings.supportCreditGrantSingleCapCents) ∧
    ∀ start, start ≤ event.request.now → event.request.now < start + secondsPerDay →
      s.windowTotal admin start + creditedCents event.request.body ≤ dailyCapCents

/-! ## The check -/

variable {settings : GrantSettings} {enforce : Enforcer} {request : GrantRequest}

theorem skipsCap_of_isPrivileged {headers : AdminHeaders} (privileged : isPrivileged headers = true) :
    skipsCap headers.roles = true := by
  rw [isPrivileged, Bool.or_eq_true] at privileged
  rw [skipsCap, Bool.or_eq_true]
  rcases privileged with super | billing
  · exact Or.inl (AdminHeaders.isSubstring_of_mem_getAdminRoles (of_decide_eq_true super))
  · exact Or.inr (AdminHeaders.isSubstring_of_mem_getAdminRoles (of_decide_eq_true billing))

theorem checkCap_eq_ok {roles : String} {delta : JsonValue} :
    checkCap settings roles delta = .ok () ↔ skipsCap roles = true ∨
      delta.exceeds settings.supportCreditGrantSingleCapCents = some false := by
  unfold checkCap
  by_cases skips : skipsCap roles = true
  · simp [skips]
  · rw [if_neg skips]
    cases delta.exceeds settings.supportCreditGrantSingleCapCents with
    | none => simp [skips]
    | some exceeds => cases exceeds <;> simp [skips]

theorem checkCap_of_isPrivileged {headers : AdminHeaders} {delta : JsonValue}
    (privileged : isPrivileged headers = true) : checkCap settings headers.roles delta = .ok () :=
  checkCap_eq_ok.2 (Or.inl (skipsCap_of_isPrivileged privileged))

theorem grantCredits_eq_ok {admin : String} :
    grantCredits settings enforce request = .ok admin ↔
      request.headers.requiresPermission enforce "credit_grant" "create" = true ∧
      request.headers.adminUserId = .uuid admin ∧
      (skipsCap request.headers.roles = true ∨
        (deltaCents request.body).exceeds settings.supportCreditGrantSingleCapCents =
          some false) ∧
      encodable request.body = true := by
  rw [← checkCap_eq_ok, ← and_assoc, ← AdminHeaders.admission_eq_ok]
  unfold grantCredits
  cases request.headers.admission enforce "credit_grant" "create" with
  | error refusal => simp [Except.mapError, bind, Except.bind]
  | ok id =>
      cases checkCap settings request.headers.roles (deltaCents request.body) with
      | error refusal => simp [Except.mapError, bind, Except.bind]
      | ok _ =>
          by_cases encodes : encodable request.body = true
          · simp [Except.mapError, bind, Except.bind, encodes]
          · simp [Except.mapError, bind, Except.bind, encodes]

/-- The check of the cap refuses nobody who has one of the roles. -/
theorem isCap_of_isPrivileged {refusal : GrantRefusal}
    (refused : grantCredits settings enforce request = .error refusal)
    (privileged : isPrivileged request.headers = true) : refusal.isCap = false := by
  unfold grantCredits at refused
  cases admitted : request.headers.admission enforce "credit_grant" "create" with
  | error reason =>
      rw [admitted] at refused
      obtain rfl := Except.error.inj refused
      rfl
  | ok id =>
      rw [admitted, checkCap_of_isPrivileged privileged] at refused
      by_cases encodes : encodable request.body = true
      · simp [Except.mapError, bind, Except.bind, encodes] at refused
      · simp only [Except.mapError, bind, Except.bind, encodes] at refused
        obtain rfl := Except.error.inj refused
        rfl

/-- What passes the comparison is no more than the cap. -/
theorem creditedCents_le {body : JsonBody} (encodes : encodable body = true)
    (below : (deltaCents body).exceeds settings.supportCreditGrantSingleCapCents = some false) :
    creditedCents body ≤ settings.supportCreditGrantSingleCapCents := by
  have finite : (deltaCents body).isEncodable = true := by
    unfold deltaCents JsonBody.get
    cases found : OrderedDict.lastValue body "delta_cents" with
    | none => rfl
    | some value =>
        exact List.all_eq_true.1 encodes _ (OrderedDict.mem_of_lastValue found)
  obtain ⟨cents, isNumber, le⟩ := (JsonValue.exceeds_eq_false finite).1 below
  rw [creditedCents, isNumber]
  exact le

/-! ## What a request keeps -/

variable {s : GrantDesk}

theorem windowTotal_post (s : GrantDesk) (request : GrantRequest) (admin who : String)
    (start : Int) :
    (s.post request admin).windowTotal who start = s.windowTotal who start +
      if isPrivileged request.headers = false ∧ admin = who ∧ start ≤ request.now ∧
          request.now < start + secondsPerDay then creditedCents request.body else 0 := by
  unfold windowTotal post
  rw [List.filter_append, List.map_append, List.sum_append]
  congr 1
  by_cases inside : isPrivileged request.headers = false ∧ admin = who ∧ start ≤ request.now ∧
      request.now < start + secondsPerDay
  · rw [if_pos inside, List.filter_cons_of_pos (by simpa [inWindow, and_assoc] using inside)]
    simp
  · rw [if_neg inside, List.filter_cons_of_neg (by simpa [inWindow, and_assoc] using inside)]
    simp

/-- An answer that passes nothing on. -/
theorem Capped.answer (h : s.Capped settings) {request : GrantRequest} {answer : GrantAnswer}
    (uncapped : ∀ refusal, answer = .refused refusal → isPrivileged request.headers = true →
      refusal.isCap = false) : (s.answer request answer).Capped settings :=
  { single := h.single
    daily := h.daily
    passed := by
      intro grant mem
      obtain ⟨request', status, found⟩ := h.passed grant mem
      refine ⟨request', status, ?_⟩
      rw [GrantDesk.answer, List.getElem?_append_left (List.getElem?_eq_some_iff.1 found).1]
      exact found
    privileged := by
      intro request' refusal mem
      rcases List.mem_append.1 mem with old | last
      · exact h.privileged request' refusal old
      · obtain ⟨rfl, same⟩ := Prod.mk.inj (List.mem_singleton.1 last)
        exact uncapped refusal same.symm }

/-- A grant that is passed on keeps the caps if it is within the cap of a grant and every day
around it has room. -/
theorem capped_post_iff (h : s.Capped settings) (request : GrantRequest) (admin : String)
    (status : Nat) :
    ((s.post request admin).answer request (.passedOn status)).Capped settings ↔
      (isPrivileged request.headers = false →
        creditedCents request.body ≤ settings.supportCreditGrantSingleCapCents ∧
        ∀ start, start ≤ request.now → request.now < start + secondsPerDay →
          s.windowTotal admin start + creditedCents request.body ≤ dailyCapCents) := by
  constructor
  · intro after without
    have posted : (⟨s.answers.length, admin, request.headers, request.body, request.now⟩ : Grant) ∈
        ((s.post request admin).answer request (.passedOn status)).forwarded :=
      List.mem_append_right _ List.mem_cons_self
    have within := after.single _ posted
    refine ⟨within without, ?_⟩
    intro start started ends
    have total : (s.post request admin).windowTotal admin start ≤ dailyCapCents :=
      after.daily admin start
    rwa [windowTotal_post, if_pos ⟨without, rfl, started, ends⟩] at total
  · intro room
    refine
      { single := ?_
        daily := ?_
        passed := ?_
        privileged := ?_ }
    · intro grant mem without
      rcases List.mem_append.1 mem with old | last
      · exact h.single grant old without
      · have isNew : grant.headers = request.headers ∧ grant.body = request.body := by
          rw [List.mem_singleton.1 last]
          exact ⟨rfl, rfl⟩
        rw [isNew.1] at without
        rw [isNew.2]
        exact (room without).1
    · intro who start
      change (s.post request admin).windowTotal who start ≤ dailyCapCents
      rw [windowTotal_post]
      split
      · rename_i inside
        obtain ⟨without, rfl, started, ends⟩ := inside
        exact (room without).2 start started ends
      · rw [add_zero]
        exact h.daily who start
    · intro grant mem
      rcases List.mem_append.1 mem with old | last
      · obtain ⟨request', status', found⟩ := h.passed grant old
        refine ⟨request', status', ?_⟩
        change (s.answers ++ [(request, GrantAnswer.passedOn status)])[grant.request]? = _
        rw [List.getElem?_append_left (List.getElem?_eq_some_iff.1 found).1]
        exact found
      · rw [List.mem_singleton.1 last]
        exact ⟨request, status, List.getElem?_concat_length⟩
    · intro request' refusal mem
      rcases List.mem_append.1 mem with old | last
      · exact h.privileged request' refusal old
      · cases List.mem_singleton.1 last

theorem capped_step_iff (h : s.Capped settings) (event : GrantEvent) :
    (step settings enforce s event).Capped settings ↔ KeepsCaps settings enforce s event := by
  unfold step
  cases granted : grantCredits settings enforce event.request with
  | error refusal =>
      refine iff_of_true (h.answer ?_) ?_
      · rintro refusal' same privileged
        obtain rfl := GrantAnswer.refused.inj same
        exact isCap_of_isPrivileged granted privileged
      · rintro admin ⟨permitted, isAdmin, -, passes, encodes, -⟩
        rw [grantCredits_eq_ok.2 ⟨permitted, isAdmin, passes, encodes⟩] at granted
        cases granted
  | ok admin =>
      obtain ⟨permitted, isAdmin, passes, encodes⟩ := grantCredits_eq_ok.1 granted
      cases reached : event.billing with
      | none =>
          refine iff_of_true (h.answer nofun) ?_
          rintro admin' ⟨-, -, -, -, -, reaches⟩
          rw [reached] at reaches
          cases reaches
      | some status =>
          change ((s.post event.request admin).answer event.request (.passedOn status)).Capped
            settings ↔ _
          rw [capped_post_iff h]
          constructor
          · rintro room admin' ⟨-, isAdmin', without, -⟩
            obtain rfl := IdField.uuid.inj (isAdmin.symm.trans isAdmin')
            exact ⟨fun _ => (room without).1, (room without).2⟩
          · intro keeps without
            obtain ⟨skipped, room⟩ := keeps admin
              ⟨permitted, isAdmin, without, passes, encodes, by rw [reached]; rfl⟩
            refine ⟨?_, room⟩
            rcases passes with skips | below
            · exact skipped skips
            · exact creditedCents_le encodes below

theorem capped_empty : empty.Capped settings :=
  { single := nofun
    daily := by
      intro admin start
      change (0 : ℚ) ≤ dailyCapCents
      decide
    passed := nofun
    privileged := nofun }

/-! ## Sequences of requests -/

theorem grants_capped_iff (settings : GrantSettings) (enforce : Enforcer)
    (events : List GrantEvent) :
    (∀ first, first <+: events → (run settings enforce first).Capped settings) ↔
      Guarded (step settings enforce) (KeepsCaps settings enforce) empty events := by
  have exact_step : ∀ (s : GrantDesk) (event : GrantEvent), s.Capped settings →
      ((step settings enforce s event).Capped settings ↔ KeepsCaps settings enforce s event) :=
    fun s event h => capped_step_iff h event
  exact prefixes_iff_guarded exact_step capped_empty events

/-- Nothing is forwarded for other admins while the policy lets only the two roles grant. -/
theorem capped_of_policy
    (only : ∀ role, enforce role "credit_grant" "create" = true →
      role = "super_admin" ∨ role = "billing_admin") (events : List GrantEvent) :
    (run settings enforce events).Capped settings := by
  have keeps : ∀ (s : GrantDesk) (event : GrantEvent), KeepsCaps settings enforce s event := by
    rintro s event admin ⟨permitted, -, without, -⟩
    obtain ⟨role, mem, enforced⟩ := List.any_eq_true.1 permitted
    rcases only role enforced with rfl | rfl
    · simp [isPrivileged, mem] at without
    · simp [isPrivileged, mem] at without
  exact runFrom_invariant (fun s event h => (capped_step_iff h event).2 (keeps s event))
    capped_empty events

/-! ## Some sequences -/

/-- The policy lets the support role grant. -/
def supportMayGrant : Enforcer := fun role obj act =>
  role ∈ ["support", "billing_admin", "super_admin"] && obj == "credit_grant" && act == "create"

def asks (roles : String) (cents : Int) (now : Int) : GrantEvent :=
  { request :=
      { headers := ⟨.uuid "anna", roles⟩
        body := [("user_id", .text "ben"), ("delta_cents", .number cents)]
        now } }

/-- Eleven grants of twenty dollars within eleven minutes. -/
def elevenGrants : List GrantEvent :=
  (List.range 11).map fun minute => asks "support" 2000 (60 * minute)

/-- One of the names in the header contains the name of a role. -/
def traineeGrant : List GrantEvent := [asks "support, billing_admin_trainee" 1000000 0]

theorem not_grants_capped :
    ¬ (run {} supportMayGrant elevenGrants).Capped {} ∧
      ¬ (run {} supportMayGrant traineeGrant).Capped {} := by
  constructor
  · intro h
    exact absurd (h.daily "anna" 0) (by decide +kernel)
  · intro h
    have single : ∀ grant ∈ (run {} supportMayGrant traineeGrant).forwarded,
        isPrivileged grant.headers = false → creditedCents grant.body ≤ (2000 : ℚ) := by
      simpa using h.single
    exact absurd single (by decide +kernel)

end GrantDesk

end ColabPlatform.Admin
