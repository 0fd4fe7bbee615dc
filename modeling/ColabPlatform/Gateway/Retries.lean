import ColabPlatform.Foundation.Interleaving
import ColabPlatform.Foundation.Run
import ColabPlatform.Gateway.Identity

/-!
# Retries under one idempotency key

`IdempotencyMiddleware.dispatch` as the steps between its awaits, for mutating
requests that carry the same user, method, path and key.  Nothing marks a
request as under way, so a second request that reads the cache before the first
has filled it is executed as well.
-/

namespace ColabPlatform.Gateway

open Foundation

/-- What a request is executed or answered with. -/
structure Outcome where
  status : Nat
  body : String
  deriving DecidableEq, Repr

def Outcome.success (outcome : Outcome) : Bool :=
  200 ≤ outcome.status && outcome.status < 300

inductive RetryPhase where
  | readCache
  | execute
  | writeCache (outcome : Outcome)
  | answered (outcome : Outcome)
  | raised
  deriving DecidableEq, Repr

/-- The answer of the awaited call: of Redis, or of the application behind. -/
inductive Awaited where
  | fails
  | done (response : Outcome)
  deriving DecidableEq, Repr

/-- The key's entry of the cache, the requests, and what was executed so far. -/
structure RetryState where
  cache : KeyStore String Outcome
  requests : List RetryPhase
  executed : List Outcome

def RetryState.initial : RetryState := ⟨.empty, [], []⟩

inductive RetryAction where
  | arrive
  | advance (index : Nat) (awaited : Awaited)
  deriving DecidableEq, Repr

structure RetryEvent where
  now : Int
  action : RetryAction
  deriving DecidableEq, Repr

/-- The fields of a request that make its cache key. -/
structure RetryKey where
  userId : String
  method : String
  path : String
  idempotencyKey : String

def RetryKey.cacheKey (env : Env) (key : RetryKey) : String :=
  makeCacheKey env key.userId key.method key.path key.idempotencyKey

def advanceRetry (env : Env) (key : RetryKey) (now : Int) (awaited : Awaited)
    (phase : RetryPhase) (s : RetryState) : RetryPhase × RetryState :=
  match phase, awaited with
  | .readCache, .fails => (.raised, s)
  | .readCache, .done _ =>
      match s.cache.get now (key.cacheKey env) with
      | some cached => (.answered cached, s)
      | none => (.execute, s)
  | .execute, .fails => (.raised, s)
  | .execute, .done response =>
      let s := { s with executed := s.executed ++ [response] }
      if response.success then
        (.writeCache { response with body := env.toJson response.body }, s)
      else (.answered response, s)
  | .writeCache _, .fails => (.raised, s)
  | .writeCache kept, .done _ =>
      (.answered kept,
        { s with cache := s.cache.setEx now idempotencyTtl (key.cacheKey env) kept })
  | .answered outcome, _ => (.answered outcome, s)
  | .raised, _ => (.raised, s)

def retryStep (env : Env) (key : RetryKey) (s : RetryState) (e : RetryEvent) :
    RetryState :=
  match e.action with
  | .arrive => { s with requests := s.requests ++ [.readCache] }
  | .advance index awaited =>
      match s.requests[index]? with
      | none => s
      | some phase =>
          let (phase, s) := advanceRetry env key e.now awaited phase s
          { s with requests := s.requests.set index phase }

/-! ## At most one execution -/

def RetryState.successes (s : RetryState) : List Outcome :=
  s.executed.filter Outcome.success

/-- At most one request was executed with a 2xx result. -/
def ExecutedOnce (s : RetryState) : Prop := s.successes.length ≤ 1

/-- The requests that completed with 2xx returned the same status and body. -/
def SameAnswers (s : RetryState) : Prop :=
  ∀ outcome outcome', .answered outcome ∈ s.requests → .answered outcome' ∈ s.requests →
    outcome.success = true → outcome'.success = true → outcome = outcome'

/-- A request that has missed the cache and not yet filled it. -/
def RetryPhase.busy : RetryPhase → Bool
  | .execute | .writeCache _ => true
  | _ => false

/--
A request reads the cache while no other is between its own reading and its
writing, and the cache is written once a request was executed with 2xx.
-/
def Ordered (s : RetryState) (e : RetryEvent) : Prop :=
  match e.action with
  | .advance index awaited =>
      match s.requests[index]? with
      | some .readCache => ∀ request ∈ s.requests, request.busy = false
      | some (.writeCache _) => awaited ≠ .fails
      | _ => True
  | .arrive => True

instance (s : RetryState) (e : RetryEvent) : Decidable (Ordered s e) := by
  unfold Ordered
  split
  · split <;> infer_instance
  · infer_instance

/-- What the cache keeps of an executed request. -/
def Outcome.kept (env : Env) (outcome : Outcome) : Outcome :=
  { outcome with body := env.toJson outcome.body }

@[simp] theorem success_kept (env : Env) (outcome : Outcome) :
    (outcome.kept env).success = outcome.success := rfl

/--
Where the one successful execution is: nowhere yet, on its way to the cache, or
in the cache, from which every later answer comes.
-/
structure Once (env : Env) (key : RetryKey) (until_ : Int) (s : RetryState) : Prop where
  alone : AtMostOne RetryPhase.busy s.requests
  executing : .execute ∈ s.requests → s.successes = []
  writing : ∀ kept, .writeCache kept ∈ s.requests →
    kept.success = true ∧ s.successes.map (Outcome.kept env) = [kept]
  cached : ∀ entry, s.cache.entries (key.cacheKey env) = some entry →
    (∃ deadline, entry.deadline = some deadline ∧ until_ ≤ deadline) ∧
      entry.value.success = true ∧
      s.successes.map (Outcome.kept env) = [entry.value] ∧
      ∀ request ∈ s.requests, request.busy = false
  answered : ∀ outcome, .answered outcome ∈ s.requests → outcome.success = true →
    ∃ entry, s.cache.entries (key.cacheKey env) = some entry ∧ entry.value = outcome
  untouched : s.cache.entries (key.cacheKey env) = none →
    (∀ request ∈ s.requests, request.busy = false) → s.successes = []

theorem Once.initial (env : Env) (key : RetryKey) (until_ : Int) :
    Once env key until_ RetryState.initial where
  alone := AtMostOne.nil
  executing := by simp [RetryState.initial]
  writing := by simp [RetryState.initial]
  cached := by simp [RetryState.initial]
  answered := by simp [RetryState.initial]
  untouched := fun _ _ => rfl

section Steps

variable {env : Env} {key : RetryKey} {until_ : Int} {s : RetryState}

theorem Once.arrive (h : Once env key until_ s) :
    Once env key until_ { s with requests := s.requests ++ [.readCache] } := by
  constructor
  · exact h.alone.concat rfl
  · intro present
    exact h.executing (by simpa using present)
  · intro kept present
    exact h.writing kept (by simpa using present)
  · intro entry stored
    obtain ⟨deadline, success, once, idle⟩ := h.cached entry stored
    exact ⟨deadline, success, once, forall_mem_concat rfl idle⟩
  · intro outcome present
    exact h.answered outcome (by simpa using present)
  · intro empty idle
    exact h.untouched empty fun request mem => idle request (List.mem_append_left _ mem)

/-- A request that is not busy is answered or gives up. -/
theorem Once.leave (h : Once env key until_ s) {index : Nat} {old new : RetryPhase}
    (found : s.requests[index]? = some old) (wasIdle : old.busy = false)
    (isIdle : new.busy = false)
    (backed : ∀ outcome, new = .answered outcome → outcome.success = true →
      ∃ entry, s.cache.entries (key.cacheKey env) = some entry ∧ entry.value = outcome) :
    Once env key until_ { s with requests := s.requests.set index new } := by
  have before : ∀ {request}, request ∈ s.requests.set index new → request.busy = true →
      request ∈ s.requests := by
    intro request mem busy
    rcases mem_set_cases mem with rfl | ⟨j, -, atJ⟩
    · simp [isIdle] at busy
    · exact List.mem_of_getElem? atJ
  constructor
  · exact h.alone.set found fun turned => by simp [isIdle] at turned
  · intro present
    exact h.executing (before present rfl)
  · intro kept present
    exact h.writing kept (before present rfl)
  · intro entry stored
    obtain ⟨deadline, success, once, idle⟩ := h.cached entry stored
    exact ⟨deadline, success, once, forall_mem_set isIdle idle⟩
  · intro outcome present success
    rcases mem_set_cases present with same | ⟨j, -, atJ⟩
    · exact backed outcome same.symm success
    · exact h.answered outcome (List.mem_of_getElem? atJ) success
  · intro empty idle
    refine h.untouched empty fun request mem => ?_
    by_cases same : old = request
    · exact same ▸ wasIdle
    · exact idle request (mem_set_of_mem found mem same)

/-- While a request is busy the cache holds nothing. -/
theorem Once.empty_of_busy (h : Once env key until_ s) {request : RetryPhase}
    (mem : request ∈ s.requests) (busy : request.busy = true) :
    s.cache.entries (key.cacheKey env) = none := by
  cases stored : s.cache.entries (key.cacheKey env) with
  | none => rfl
  | some entry =>
      obtain ⟨-, -, -, idle⟩ := h.cached entry stored
      simp [idle request mem] at busy

/-- The cache missed, and no other request is on its way to fill it. -/
theorem Once.miss (h : Once env key until_ s) {index : Nat} {now : Int}
    (found : s.requests[index]? = some .readCache)
    (idle : ∀ request ∈ s.requests, request.busy = false) (early : now < until_)
    (missed : s.cache.get now (key.cacheKey env) = none) :
    Once env key until_ { s with requests := s.requests.set index .execute } := by
  have empty : s.cache.entries (key.cacheKey env) = none := by
    cases stored : s.cache.entries (key.cacheKey env) with
    | none => rfl
    | some entry =>
        obtain ⟨⟨deadline, expires, late⟩, -⟩ := h.cached entry stored
        have alive : KeyStore.Stamped.alive entry now = true := by
          simp only [KeyStore.Stamped.alive, expires, Option.all_some, decide_eq_true_eq]
          omega
        simp [KeyStore.get, stored, alive] at missed
  have none_yet := h.untouched empty idle
  have other : ∀ {request}, request ∈ s.requests.set index .execute →
      request ≠ .execute → request ∈ s.requests := by
    intro request mem apart
    rcases mem_set_cases mem with same | ⟨j, -, atJ⟩
    · exact absurd same apart
    · exact List.mem_of_getElem? atJ
  constructor
  · exact h.alone.set found fun _ => Or.inr idle
  · intro _
    exact none_yet
  · intro kept present
    simpa [RetryPhase.busy] using idle _ (other present (by rintro ⟨⟩))
  · intro entry stored
    simp [empty] at stored
  · intro outcome present
    exact h.answered outcome (other present (by rintro ⟨⟩))
  · intro _ _
    exact none_yet

/-- An execution ends without a 2xx result. -/
theorem Once.unsuccessful (h : Once env key until_ s) {index : Nat} {new : RetryPhase}
    {executed : List Outcome} (found : s.requests[index]? = some .execute)
    (same : executed.filter Outcome.success = s.successes) (isIdle : new.busy = false)
    (failed : ∀ outcome, new = .answered outcome → outcome.success = false) :
    Once env key until_
      { s with executed, requests := s.requests.set index new } := by
  have present := List.mem_of_getElem? found
  have none_yet := h.executing present
  have before : ∀ {request}, request ∈ s.requests.set index new →
      request = new ∨ request ∈ s.requests := by
    intro request mem
    rcases mem_set_cases mem with rfl | ⟨j, -, atJ⟩
    · exact Or.inl rfl
    · exact Or.inr (List.mem_of_getElem? atJ)
  have successes : RetryState.successes
      { s with executed, requests := s.requests.set index new } = [] := same.trans none_yet
  constructor
  · exact h.alone.set found fun turned => by simp [isIdle] at turned
  · intro _
    exact successes
  · intro kept mem
    rcases before mem with rfl | old
    · simp [RetryPhase.busy] at isIdle
    · simpa [none_yet] using (h.writing kept old).2
  · intro entry stored
    simp [h.empty_of_busy present rfl] at stored
  · intro outcome mem success
    rcases before mem with rfl | old
    · simp [failed outcome rfl] at success
    · exact h.answered outcome old success
  · intro _ _
    exact successes

/-- An execution with a 2xx result, which is to be kept. -/
theorem Once.executed (h : Once env key until_ s) {index : Nat} {response : Outcome}
    (found : s.requests[index]? = some .execute) (success : response.success = true) :
    Once env key until_ { s with
      executed := s.executed ++ [response]
      requests := s.requests.set index (.writeCache (response.kept env)) } := by
  have present := List.mem_of_getElem? found
  have once : RetryState.successes { s with
      executed := s.executed ++ [response]
      requests := s.requests.set index (.writeCache (response.kept env)) } = [response] := by
    have none_yet := h.executing present
    simp only [RetryState.successes] at none_yet ⊢
    simp [none_yet, success]
  have others : ∀ {request}, request ∈ s.requests.set index (.writeCache (response.kept env)) →
      request = .writeCache (response.kept env) ∨
        request ∈ s.requests ∧ request.busy = false := by
    intro request mem
    rcases mem_set_cases mem with rfl | ⟨j, apart, atJ⟩
    · exact Or.inl rfl
    · exact Or.inr ⟨List.mem_of_getElem? atJ, h.alone.others found rfl apart atJ⟩
  constructor
  · exact h.alone.set found fun _ => Or.inl rfl
  · intro mem
    rcases others mem with same | ⟨-, idle⟩
    · cases same
    · simp [RetryPhase.busy] at idle
  · intro kept mem
    rcases others mem with same | ⟨-, idle⟩
    · cases same
      exact ⟨success, by rw [once]; rfl⟩
    · simp [RetryPhase.busy] at idle
  · intro entry stored
    simp [h.empty_of_busy present rfl] at stored
  · intro outcome mem
    rcases others mem with same | ⟨old, -⟩
    · cases same
    · exact h.answered outcome old
  · intro _ idle
    simpa [RetryPhase.busy] using idle _ (mem_set_of_found found)

/-- The result is kept and returned. -/
theorem Once.written (h : Once env key until_ s) {index : Nat} {kept : Outcome}
    {now : Int} (found : s.requests[index]? = some (.writeCache kept))
    (late : until_ ≤ now + idempotencyTtl) :
    Once env key until_ { s with
      cache := s.cache.setEx now idempotencyTtl (key.cacheKey env) kept
      requests := s.requests.set index (.answered kept) } := by
  have present := List.mem_of_getElem? found
  obtain ⟨success, once⟩ := h.writing kept present
  have idle : ∀ request ∈ s.requests.set index (.answered kept), request.busy = false := by
    intro request mem
    rcases mem_set_cases mem with rfl | ⟨j, apart, atJ⟩
    · rfl
    · exact h.alone.others found rfl apart atJ
  constructor
  · exact h.alone.set found fun turned => by simp [RetryPhase.busy] at turned
  · intro mem
    simpa [RetryPhase.busy] using idle _ mem
  · intro kept' mem
    simpa [RetryPhase.busy] using idle _ mem
  · intro entry stored
    rw [KeyStore.entries_setEx, if_pos rfl] at stored
    obtain rfl := Option.some.inj stored
    exact ⟨⟨_, rfl, late⟩, success, once, idle⟩
  · intro outcome mem successful
    rw [KeyStore.entries_setEx, if_pos rfl]
    rcases mem_set_cases mem with same | ⟨j, -, atJ⟩
    · cases same
      exact ⟨_, rfl, rfl⟩
    · obtain ⟨entry, stored, -⟩ := h.answered outcome (List.mem_of_getElem? atJ) successful
      simp [h.empty_of_busy present rfl] at stored
  · intro stored
    rw [KeyStore.entries_setEx, if_pos rfl] at stored
    cases stored

end Steps

theorem Once.step {env : Env} {key : RetryKey} {start : Int} {s : RetryState}
    {e : RetryEvent}
    (within : start ≤ e.now ∧ e.now < start + idempotencyTtl) (ordered : Ordered s e)
    (h : Once env key (start + idempotencyTtl) s) :
    Once env key (start + idempotencyTtl) (retryStep env key s e) := by
  obtain ⟨now, action⟩ := e
  cases action with
  | arrive => exact h.arrive
  | advance index awaited =>
      unfold retryStep
      cases found : s.requests[index]? with
      | none => simpa only [found] using h
      | some phase =>
          simp only [Ordered, found] at ordered ⊢
          cases phase with
          | readCache =>
              cases awaited with
              | fails => exact h.leave found rfl rfl nofun
              | done response =>
                  simp only [advanceRetry]
                  cases hit : s.cache.get now (key.cacheKey env) with
                  | none => exact h.miss found ordered within.2 hit
                  | some cached =>
                      refine h.leave found rfl rfl ?_
                      rintro _ ⟨⟩ -
                      obtain ⟨entry, stored, -, value⟩ := KeyStore.get_eq_some_iff.1 hit
                      exact ⟨entry, stored, value⟩
          | execute =>
              cases awaited with
              | fails => exact h.unsuccessful found rfl rfl nofun
              | done response =>
                  simp only [advanceRetry]
                  by_cases success : response.success = true
                  · simp only [success, if_true]
                    exact h.executed found success
                  · simp only [success]
                    refine h.unsuccessful found ?_ rfl ?_
                    · simp [RetryState.successes, success]
                    · rintro _ ⟨⟩
                      simpa using success
          | writeCache kept =>
              cases awaited with
              | fails => exact absurd rfl ordered
              | done response => exact h.written found (Int.add_le_add_right within.1 _)
          | answered outcome =>
              refine h.leave found rfl rfl ?_
              rintro _ ⟨⟩
              exact h.answered outcome (List.mem_of_getElem? found)
          | raised => exact h.leave found rfl rfl nofun

theorem Once.executedOnce {env : Env} {key : RetryKey} {until_ : Int} {s : RetryState}
    (h : Once env key until_ s) : ExecutedOnce s := by
  have one : ∀ kept, s.successes.map (Outcome.kept env) = [kept] → ExecutedOnce s := by
    intro kept once
    have length := congrArg List.length once
    rw [List.length_map] at length
    exact length.le
  have zero : s.successes = [] → ExecutedOnce s := by
    intro none_yet
    simp [ExecutedOnce, none_yet]
  cases stored : s.cache.entries (key.cacheKey env) with
  | some entry =>
      obtain ⟨-, -, once, -⟩ := h.cached entry stored
      exact one _ once
  | none =>
      by_cases idle : ∀ request ∈ s.requests, request.busy = false
      · exact zero (h.untouched stored idle)
      · simp only [not_forall, Bool.not_eq_false] at idle
        obtain ⟨request, mem, busy⟩ := idle
        cases request with
        | execute => exact zero (h.executing mem)
        | writeCache kept => exact one _ (h.writing kept mem).2
        | readCache => simp [RetryPhase.busy] at busy
        | answered outcome => simp [RetryPhase.busy] at busy
        | raised => simp [RetryPhase.busy] at busy

theorem Once.sameAnswers {env : Env} {key : RetryKey} {until_ : Int} {s : RetryState}
    (h : Once env key until_ s) : SameAnswers s := by
  intro outcome outcome' mem mem' success success'
  obtain ⟨entry, stored, value⟩ := h.answered outcome mem success
  obtain ⟨entry', stored', value'⟩ := h.answered outcome' mem' success'
  obtain rfl := Option.some.inj (stored.symm.trans stored')
  exact value.symm.trans value'

theorem retries_executed_once (env : Env) (key : RetryKey) (start : Int)
    (events : List RetryEvent)
    (within : ∀ e ∈ events, start ≤ e.now ∧ e.now < start + idempotencyTtl)
    (ordered : Guarded (retryStep env key) Ordered .initial events) :
    ExecutedOnce (runFrom (retryStep env key) .initial events) ∧
      SameAnswers (runFrom (retryStep env key) .initial events) := by
  have guarded := (guarded_of_forall within RetryState.initial).and ordered
  have once := runFrom_invariant_of_guarded
    (fun _ _ ok => Once.step ok.1 ok.2)
    (Once.initial env key (start + idempotencyTtl)) guarded
  exact ⟨once.executedOnce, once.sameAnswers⟩

/-! ## Two requests with one key -/

def sampleKey : RetryKey := ⟨"ana", "POST", "/v1/billing/checkout/web", "retry-1"⟩

def createdAs (body : String) : Outcome := ⟨201, body⟩

/-- The second request reads the cache while the first is being executed. -/
def overlappingRetries : List RetryEvent :=
  [⟨0, .arrive⟩, ⟨1, .arrive⟩,
    ⟨1, .advance 0 (.done (createdAs ""))⟩, ⟨1, .advance 1 (.done (createdAs ""))⟩,
    ⟨2, .advance 0 (.done (createdAs "order 1"))⟩,
    ⟨3, .advance 1 (.done (createdAs "order 2"))⟩,
    ⟨4, .advance 0 (.done (createdAs ""))⟩, ⟨5, .advance 1 (.done (createdAs ""))⟩]

/-- The second request comes once the first was answered. -/
def retriesInTurn : List RetryEvent :=
  [⟨0, .arrive⟩, ⟨1, .advance 0 (.done (createdAs ""))⟩,
    ⟨2, .advance 0 (.done (createdAs "order 1"))⟩, ⟨3, .advance 0 (.done (createdAs ""))⟩,
    ⟨4, .arrive⟩, ⟨5, .advance 1 (.done (createdAs ""))⟩]

theorem retries_executed_twice :
    (∀ e ∈ overlappingRetries, 0 ≤ e.now ∧ e.now < 0 + idempotencyTtl) ∧
      ¬ ExecutedOnce (runFrom (retryStep sampleEnv sampleKey) .initial overlappingRetries) ∧
      ¬ SameAnswers (runFrom (retryStep sampleEnv sampleKey) .initial overlappingRetries) := by
  refine ⟨by decide, by unfold ExecutedOnce; decide +kernel, fun same => ?_⟩
  exact absurd (same (createdAs "order 1") (createdAs "order 2")
    (by decide +kernel) (by decide +kernel) rfl rfl) (by decide)

theorem retries_executed_once_in_turn :
    ExecutedOnce (runFrom (retryStep sampleEnv sampleKey) .initial retriesInTurn) ∧
      SameAnswers (runFrom (retryStep sampleEnv sampleKey) .initial retriesInTurn) :=
  retries_executed_once sampleEnv sampleKey 0 retriesInTurn (by decide) (by decide +kernel)

end ColabPlatform.Gateway
