import ColabPlatform.Foundation.Run
import Mathlib.Algebra.Order.BigOperators.Group.List
import Mathlib.Algebra.Order.Ring.Nat

/-!
# The client of Recall

A request of the client tries three times and tells the circuit breaker how it ended.
Requests overlap: one that was let through before the breaker opened may end after it.
The breaker has no time after which it tries again, so that it stays open once nothing is
left in flight.
-/

namespace ColabPlatform.Meetings.RecallApi

open Foundation

/-! ## One request -/

/-- What comes of one HTTP request; `json` says that the body can be read. -/
inductive HttpReply where
  | response (status : Nat) (json : Bool)
  | requestError
  | otherException
  deriving DecidableEq, Repr

inductive RequestEnd where
  | returned
  | notJson
  | httpStatus (status : Nat)
  | runtimeError
  | otherException
  deriving DecidableEq, Repr

/-- `_RETRY_STATUSES` -/
def retryStatuses : List Nat := [429, 500, 502, 503, 504]

/-- `_MAX_RETRIES` -/
def maxRetries : Nat := 3

/-- `_CIRCUIT_THRESHOLD` -/
def circuitThreshold : Nat := 3

/-- How the loop of `_request` ends with this reply, if it does. -/
def conclude (attempt : Nat) : HttpReply → Option RequestEnd
  | .response status json =>
      if 200 ≤ status ∧ status < 300 then some (if json then .returned else .notJson)
      else if status ∈ retryStatuses then
        if attempt + 1 < maxRetries then none else some .runtimeError
      else some (.httpStatus status)
  | .requestError => if attempt + 1 < maxRetries then none else some .runtimeError
  -- no clause of the loop catches it
  | .otherException => some .otherException

/-- What the breaker is told of the request. -/
def RequestEnd.recorded : RequestEnd → Option Bool
  -- the success is recorded before the body is read
  | returned | notJson => some true
  | httpStatus _ | runtimeError => some false
  | otherException => none

theorem lt_maxRetries_of_conclude {attempt : Nat} {reply : HttpReply}
    (again : conclude attempt reply = none) : attempt + 1 < maxRetries := by
  cases reply with
  | response status json =>
      simp only [conclude] at again
      split at again
      · cases again
      · split at again
        · split at again
          · assumption
          · cases again
        · cases again
  | requestError =>
      simp only [conclude] at again
      split at again
      · assumption
      · cases again
  | otherException => cases again

/-! ## The breaker -/

structure RecallClient where
  failureCount : Nat
  circuitOpen : Bool
  deriving DecidableEq, Repr

namespace RecallClient

def new : RecallClient := ⟨0, false⟩

def recordSuccess (_ : RecallClient) : RecallClient := ⟨0, false⟩

def recordFailure (client : RecallClient) : RecallClient where
  failureCount := client.failureCount + 1
  circuitOpen :=
    if circuitThreshold ≤ client.failureCount + 1 then true else client.circuitOpen

def record (client : RecallClient) : Option Bool → RecallClient
  | some true => client.recordSuccess
  | some false => client.recordFailure
  | none => client

end RecallClient

/-! ## Requests that overlap -/

/-- A client in use: the attempt that each request in flight is at, and what the breaker was
told, the last first. -/
structure RecallUse where
  client : RecallClient
  inFlight : List Nat
  told : List Bool
  begun : Nat
  refused : Nat
  sent : Nat
  deriving DecidableEq, Repr

inductive UseEvent where
  | request
  | reply (index : Nat) (reply : HttpReply)
  deriving DecidableEq, Repr

namespace RecallUse

def start : RecallUse := ⟨.new, [], [], 0, 0, 0⟩

def step (s : RecallUse) : UseEvent → RecallUse
  | .request =>
      if s.client.circuitOpen then { s with refused := s.refused + 1 }
      else { s with inFlight := s.inFlight ++ [0], begun := s.begun + 1, sent := s.sent + 1 }
  | .reply index reply =>
      match s.inFlight[index]? with
      | none => s
      | some attempt =>
          match conclude attempt reply with
          | none =>
              { s with inFlight := s.inFlight.set index (attempt + 1), sent := s.sent + 1 }
          | some outcome =>
              { s with
                client := s.client.record outcome.recorded
                inFlight := s.inFlight.eraseIdx index
                told := outcome.recorded.toList ++ s.told }

def run (events : List UseEvent) : RecallUse := runFrom step start events

/-- What one event does. -/
theorem step_cases (s : RecallUse) (e : UseEvent) :
    (e = .request ∧ s.client.circuitOpen = true ∧
      s.step e = { s with refused := s.refused + 1 }) ∨
    (e = .request ∧ s.client.circuitOpen = false ∧ s.step e =
      { s with inFlight := s.inFlight ++ [0], begun := s.begun + 1, sent := s.sent + 1 }) ∨
    (e ≠ .request ∧ s.step e = s) ∨
    (e ≠ .request ∧ ∃ index attempt, s.inFlight[index]? = some attempt ∧
      attempt + 1 < maxRetries ∧ s.step e =
        { s with inFlight := s.inFlight.set index (attempt + 1), sent := s.sent + 1 }) ∨
    (e ≠ .request ∧ ∃ index attempt recorded, s.inFlight[index]? = some attempt ∧
      s.step e = { s with
        client := s.client.record recorded
        inFlight := s.inFlight.eraseIdx index
        told := recorded.toList ++ s.told }) := by
  cases e with
  | request =>
      by_cases isOpen : s.client.circuitOpen = true
      · left
        simp [step, isOpen]
      · right
        left
        simp [step, isOpen]
  | reply index reply =>
      have other : UseEvent.reply index reply ≠ .request := by simp
      right
      right
      cases found : s.inFlight[index]? with
      | none =>
          left
          simp [step, found]
      | some attempt =>
          right
          cases concluded : conclude attempt reply with
          | none =>
              have again := lt_maxRetries_of_conclude concluded
              left
              exact ⟨other, index, attempt, found, again, by simp [step, found, concluded]⟩
          | some outcome =>
              right
              exact ⟨other, index, attempt, outcome.recorded, found,
                by simp [step, found, concluded]⟩

/-! ## The breaker follows what it was told -/

/-- How many failures it was told of since the last success. -/
def failures (s : RecallUse) : Nat := (s.told.takeWhile (!·)).length

def Follows (s : RecallUse) : Prop :=
  s.client.failureCount = s.failures ∧ (s.client.circuitOpen = true ↔ 3 ≤ s.failures)

theorem follows_record {s s' : RecallUse} (h : s.Follows) {recorded : Option Bool}
    (client : s'.client = s.client.record recorded)
    (told : s'.told = recorded.toList ++ s.told) : s'.Follows := by
  have count := h.1
  have isOpen := h.2
  unfold Follows failures at *
  rw [client, told]
  cases recorded with
  | none =>
      simp only [RecallClient.record, Option.toList_none, List.nil_append]
      exact h
  | some success =>
      cases success with
      | true =>
          simp [RecallClient.record, RecallClient.recordSuccess]
      | false =>
          simp only [RecallClient.record, RecallClient.recordFailure, circuitThreshold, count,
            Option.toList_some, List.singleton_append, List.takeWhile_cons, Bool.not_false,
            if_true, List.length_cons, true_and]
          by_cases third : 3 ≤ (s.told.takeWhile (!·)).length + 1
          · simp [third]
          · have closed : ¬ s.client.circuitOpen = true := by
              intro now
              have three := isOpen.1 now
              omega
            simp [third, closed]

theorem follows_step {s : RecallUse} (h : s.Follows) (e : UseEvent) : (s.step e).Follows := by
  rcases step_cases s e with ⟨-, -, eq⟩ | ⟨-, -, eq⟩ | ⟨-, eq⟩ |
    ⟨-, index, attempt, -, -, eq⟩ | ⟨-, index, attempt, recorded, -, eq⟩
  · rw [eq]
    exact h
  · rw [eq]
    exact h
  · rw [eq]
    exact h
  · rw [eq]
    exact h
  · rw [eq]
    exact follows_record h rfl rfl

/-- The breaker is open exactly when the last three ends that it was told of were failures,
however requests overlap. -/
theorem open_iff_three_failures (events : List UseEvent) :
    (run events).client.circuitOpen = true ↔
      3 ≤ (run events).told.length ∧ ∀ success ∈ (run events).told.take 3, success = false := by
  have first : start.Follows := by simp [Follows, failures, start, RecallClient.new]
  have kept : ∀ (s : RecallUse) e, s.Follows → (s.step e).Follows := fun s e h => follows_step h e
  have follows : (run events).Follows := runFrom_invariant kept first events
  rw [follows.2, failures]
  generalize (run events).told = told
  rcases told with _ | ⟨a, _ | ⟨b, _ | ⟨c, told⟩⟩⟩
  · simp
  · cases a <;> simp
  · cases a <;> cases b <;> simp
  · cases a <;> cases b <;> cases c <;> simp

/-! ## Nothing closes it -/

/-- The breaker is open and no request is left that could tell it of a success. -/
def Final (s : RecallUse) : Prop := s.client.circuitOpen = true ∧ s.inFlight = []

theorem final_step {s : RecallUse} (h : s.Final) (e : UseEvent) :
    s.step e = { s with refused := s.refused + [e].count .request } := by
  rcases step_cases s e with ⟨now, -, eq⟩ | ⟨-, closed, -⟩ | ⟨other, eq⟩ |
    ⟨-, index, attempt, found, -, -⟩ | ⟨-, index, attempt, recorded, found, -⟩
  · rw [eq, now]
    simp
  · rw [h.1] at closed
    cases closed
  · rw [eq, List.count_singleton]
    simp [other]
  · simp [h.2] at found
  · simp [h.2] at found

/-- Once the breaker is open and nothing is in flight, every later request is refused without
being sent: there is no time after which the client tries again. -/
theorem open_is_final {before : List UseEvent} (isOpen : (run before).client.circuitOpen = true)
    (quiet : (run before).inFlight = []) (after : List UseEvent) :
    run (before ++ after) =
      { run before with refused := (run before).refused + after.count .request } := by
  have final : (run before).Final := ⟨isOpen, quiet⟩
  rw [run, runFrom_append, ← run]
  clear isOpen quiet
  generalize run before = s at final
  induction after generalizing s with
  | nil => simp
  | cons e after ih =>
      have one := final_step final e
      have next : (s.step e).Final := by
        rw [one]
        exact final
      rw [runFrom_cons, ih (s.step e) next, one]
      simp only [List.count_cons, List.count_nil]
      congr 1
      omega

/-- Three requests that overlap fail. -/
theorem open_after_three_failures :
    let before := [.request, .request, .request, .reply 2 (.response 401 true),
      .reply 0 (.response 503 true), .reply 1 (.response 403 true), .reply 0 .requestError,
      .reply 0 (.response 429 false)]
    run (before ++ [.request, .reply 0 (.response 200 true), .request]) =
      { run before with refused := (run before).refused + 2 } :=
  open_is_final (by decide) (by decide) [.request, .reply 0 (.response 200 true), .request]

/-! ## What is sent -/

/-- What a request may still send after its attempt of this number. -/
def spare (attempt : Nat) : Nat := maxRetries - 1 - attempt

theorem sum_set_add (f : Nat → Nat) {l : List Nat} {index a : Nat} (found : l[index]? = some a)
    (b : Nat) : ((l.set index b).map f).sum + f a = (l.map f).sum + f b := by
  induction l generalizing index with
  | nil => simp at found
  | cons x l ih =>
      cases index with
      | zero =>
          have same : x = a := by simpa using found
          simp only [List.set_cons_zero, List.map_cons, List.sum_cons, same]
          omega
      | succ index =>
          have rest := @ih index (by simpa using found)
          simp only [List.set_cons_succ, List.map_cons, List.sum_cons]
          omega

theorem sum_eraseIdx_le (f : Nat → Nat) (l : List Nat) (index : Nat) :
    ((l.eraseIdx index).map f).sum ≤ (l.map f).sum :=
  ((List.eraseIdx_sublist l index).map f).sum_le_sum fun _ _ => Nat.zero_le _

/-- Every request that the breaker let through keeps within its attempts. -/
def Frugal (s : RecallUse) : Prop :=
  s.sent + (s.inFlight.map spare).sum ≤ maxRetries * s.begun

theorem frugal_step {s : RecallUse} (h : s.Frugal) (e : UseEvent) : (s.step e).Frugal := by
  unfold Frugal at *
  rcases step_cases s e with ⟨-, -, eq⟩ | ⟨-, -, eq⟩ | ⟨-, eq⟩ |
    ⟨-, index, attempt, found, again, eq⟩ | ⟨-, index, attempt, recorded, found, eq⟩
  · rw [eq]
    exact h
  · rw [eq]
    simp only [List.map_append, List.sum_append, List.map_singleton, List.sum_singleton, spare,
      maxRetries] at *
    omega
  · rw [eq]
    exact h
  · -- the attempt sends what it could spare
    have moved := sum_set_add spare found (attempt + 1)
    have one : spare attempt = spare (attempt + 1) + 1 := by
      unfold spare
      omega
    rw [eq]
    simp only
    omega
  · have fewer := sum_eraseIdx_le spare s.inFlight index
    rw [eq]
    simp only
    omega

theorem counted_step (s : RecallUse) (e : UseEvent) :
    (s.step e).begun + (s.step e).refused = s.begun + s.refused + [e].count .request := by
  rcases step_cases s e with ⟨now, -, eq⟩ | ⟨now, -, eq⟩ | ⟨other, eq⟩ |
    ⟨other, index, attempt, -, -, eq⟩ | ⟨other, index, attempt, recorded, -, eq⟩
  · rw [eq, now, List.count_singleton_self]
    simp only
    omega
  · rw [eq, now, List.count_singleton_self]
    simp only
    omega
  · rw [eq, List.count_singleton]
    simp [other]
  · rw [eq, List.count_singleton]
    simp [other]
  · rw [eq, List.count_singleton]
    simp [other]

theorem counted_runFrom (s : RecallUse) (events : List UseEvent) :
    (runFrom step s events).begun + (runFrom step s events).refused =
      s.begun + s.refused + events.count .request := by
  induction events generalizing s with
  | nil => simp
  | cons e events ih =>
      have one := counted_step s e
      simp only [List.count_cons, List.count_nil] at one
      rw [runFrom_cons, ih, List.count_cons]
      omega

/-- Each request is refused or let through, and those let through send at most three times each,
however they overlap. -/
theorem sent_le_three_each (events : List UseEvent) :
    (run events).begun + (run events).refused = events.count .request ∧
      (run events).sent ≤ 3 * (run events).begun := by
  have first : start.Frugal := by simp [Frugal, start]
  have kept : ∀ (s : RecallUse) e, s.Frugal → (s.step e).Frugal := fun s e h => frugal_step h e
  have frugal : (run events).Frugal := runFrom_invariant kept first events
  have counted := counted_runFrom start events
  have zero : start.begun + start.refused = 0 := by simp [start]
  constructor
  · rw [zero, Nat.zero_add] at counted
    exact counted
  · unfold Frugal maxRetries at frugal
    omega

end RecallUse

end ColabPlatform.Meetings.RecallApi
