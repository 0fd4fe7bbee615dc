import ColabPlatform.Collabs.Runs
import ColabPlatform.Foundation.Walk

/-!
# The log of the status

The events of a collaboration are to be a walk through the states, from the first one
to the stored one.  A transition is checked against the row that was loaded, and stored
over whatever the row is by then; the log is a walk in every run in which the two have
the same status.
-/

namespace ColabPlatform.Collabs

open Foundation
open Billing (Uuid Timestamp)

/-- What the log of the status promises. -/
structure Logged (w : CollabWorld) : Prop where
  first : ∀ event ∈ w.events.head?, event.prevStatus = .stillDeciding
  chained : w.events.IsChain fun event event' => event.newStatus = event'.prevStatus
  allowed : ∀ event ∈ w.events, event.newStatus ∈ event.prevStatus.transitionMap
  stored : w.row.status = (w.events.getLast?.map (·.newStatus)).getD .stillDeciding
  final : ∀ before event after, w.events = before ++ event :: after →
    event.newStatus.isTerminal = true → after = []

/-- The step is not the commit of a transition from a status that is no longer stored. -/
def CollabState.commitsLoaded (s : CollabState) : Event → Bool
  | .advance index _ =>
      s.calls[index]?.all fun call =>
        match call.phase with
        | .commit (.transition loaded _ _) _ => decide (s.world.row.status = loaded.status)
        | _ => true
  | _ => true

/-! ## Changes of the status -/

/-- A change sets the status as the transition map allows it, or leaves it alone. -/
def Change.Fair : Change → Prop
  | .patch loaded set => set.status = loaded.status
  | .transition loaded set event =>
      set.status = event.newStatus ∧ event.prevStatus = loaded.status ∧
        event.newStatus ∈ loaded.status.transitionMap
  | _ => True

def Phase.Fair : Phase → Prop
  | .flush change _ | .commit change _ => change.Fair
  | _ => True

theorem status_transition (collab : Collaboration) (newStatus : CollabStatus) (now : Timestamp) :
    (collab.transition newStatus now).status = newStatus := by
  cases newStatus with
  | stillDeciding | inProgress | completed | didntWorkOut => rfl

theorem Request.Loads.fair {w : CollabWorld} {asked : Request} {change : Change}
    (h : Request.Loads w asked change) : change.Fair := by
  cases h with
  | patch title description writable => rfl
  | transition event writable prev allowed => exact ⟨status_transition .., prev, allowed⟩
  | task unchecked free =>
      cases change with
      | addTask | setTasks | addComment => trivial
      | patch | transition | block | activity | archiveCollab | archiveFinalize | nudge =>
          cases free

theorem load_fair (settings : CollabSettings) (outside : Outside) (w : CollabWorld)
    (operation : Operation) : (operation.load settings outside w).Fair := by
  cases operation with
  | request profileId asked =>
      simp only [Operation.load]
      cases result : asked.validate.bind fun _ => asked.load outside w profileId with
      | error error => trivial
      | ok loaded =>
          obtain ⟨passed, -, loads⟩ := Common.bind_eq_ok.1 result
          exact (Request.load_loads loads).1.fair
  | whiteboard profileId =>
      simp only [Operation.load, openSocket]
      repeat' split
      all_goals trivial
  | applyBlock | updateLastActivity | inactivityCheck => trivial
  | task queued =>
      cases queued with
      | archiveCollab | archiveFinalize => trivial
      | sendNudge =>
          simp only [Operation.load, CollabTask.load]
          split
          all_goals trivial

theorem callStep_fair {settings : CollabSettings} {outside : Outside} {held : Bool}
    {operation : Operation} {phase : Phase} {w : CollabWorld} (fair : phase.Fair) :
    (callStep settings outside held operation phase w).1.Fair := by
  cases phase with
  | load =>
      simp only [callStep]
      split
      · exact load_fair settings outside w operation
      · trivial
  | flush change notices =>
      simp only [callStep]
      repeat' split
      all_goals first | exact fair | trivial
  | commit | receive =>
      simp only [callStep]
      repeat' split
      all_goals trivial
  | announce notices =>
      cases notices with
      | nil => trivial
      | cons notice notices =>
          cases notice with
          | publish event => trivial
          | enqueue task =>
              simp only [callStep]
              split
              all_goals trivial
  | append | done => trivial

/-! ## The walk -/

/-- The events lead from the status of a new collaboration to the stored one. -/
def CollabWorld.walks (w : CollabWorld) : Prop :=
  Walk (fun status status' => status' ∈ status.transitionMap) CollabStatusEvent.prevStatus
    CollabStatusEvent.newStatus .stillDeciding w.events w.row.status

theorem CollabWorld.walks.logged {w : CollabWorld} (h : w.walks) : Logged w where
  first := h.source_head
  chained := h.isChain
  allowed := h.allowed_of_mem
  stored := h.target_last
  final := by
    intro before event after same terminal
    rw [walks, same] at h
    apply h.nothing_after
    intro status next
    rw [CollabStatus.transitionMap_of_isTerminal terminal] at next
    cases next

theorem status_flush {loaded set stored : Collaboration} (same : set.status = loaded.status) :
    (Collaboration.flush loaded set stored).status = stored.status := by
  simp [Collaboration.flush, written, same]

theorem apply_walks {w : CollabWorld} {change : Change} (h : w.walks) (fair : change.Fair)
    (current : ∀ loaded set event, change = .transition loaded set event →
      w.row.status = loaded.status) : (change.apply w).walks := by
  cases change with
  | patch loaded set =>
      simp only [CollabWorld.walks, Change.apply, Change.setRow, status_flush fair]
      exact h
  | transition loaded set event =>
      obtain ⟨goal, prev, allowed⟩ := fair
      have stored := current loaded set event rfl
      have moved : (Collaboration.flush loaded set w.row).status = event.newStatus := by
        have apart := CollabStatus.ne_of_mem_transitionMap allowed
        simp [Collaboration.flush, written, goal, apart]
      simp only [CollabWorld.walks, Change.apply, Change.setRow, moved]
      apply h.concat
      · rw [prev, stored]
      · rw [stored]
        exact allowed
  | block archiveAt =>
      simp only [CollabWorld.walks, Change.apply, Change.setRow]
      split
      all_goals exact h
  | archiveCollab now =>
      simp only [CollabWorld.walks, Change.apply, Change.setRow]
      split
      all_goals exact h
  | nudge now =>
      simp only [CollabWorld.walks, Change.apply, Change.setRow]
      split
      all_goals exact h
  | activity | archiveFinalize | addTask | setTasks | addComment => exact h

theorem Moved.walks {w w' : CollabWorld} {phase : Phase} (moved : Moved w phase w')
    (h : w.walks) (fair : phase.Fair)
    (current : ∀ loaded set event notices,
      phase = .commit (.transition loaded set event) notices → w.row.status = loaded.status) :
    w'.walks := by
  cases moved with
  | committed change notices =>
      apply apply_walks h fair
      rintro loaded set event rfl
      exact current loaded set event notices rfl
  | same | published | enqueued | appended => exact h

/-! ## Runs -/

namespace CollabState

structure Walking (s : CollabState) : Prop where
  walks : s.world.walks
  fair : ∀ call ∈ s.calls, call.phase.Fair

theorem created_walking (id profileIdA profileIdB : Uuid) (now : Timestamp) :
    (created id profileIdA profileIdB now).Walking where
  walks := rfl
  fair := by
    intro call mem
    cases mem

theorem step_walking {settings : CollabSettings} {s : CollabState} (h : s.Walking) (e : Event)
    (right : s.commitsLoaded e = true) : (s.step settings e).Walking := by
  cases e with
  | begin operation =>
      cases operation with
      | task queued => exact h
      | request | whiteboard | applyBlock | updateLastActivity | inactivityCheck =>
          exact ⟨h.walks, forall_mem_concat trivial h.fair⟩
  | deliver index again =>
      simp only [step]
      split
      · refine ⟨?_, forall_mem_concat trivial h.fair⟩
        split
        all_goals exact h.walks
      · exact h
  | advance index outside =>
      simp only [step]
      cases found : s.calls[index]? with
      | none => exact h
      | some call =>
          have fair := h.fair call (List.mem_of_getElem? found)
          refine ⟨?_, forall_mem_set (callStep_fair fair) h.fair⟩
          apply (callStep_moved settings outside s.held call.operation call.phase s.world).walks
            h.walks fair
          intro loaded set event notices committing
          simpa [commitsLoaded, found, committing] using right
  | tick time => exact ⟨h.walks, h.fair⟩

/-- In every run whose transitions are committed over the status that they were checked
against, the events are the history of the status. -/
theorem transitions_logged {settings : CollabSettings} {id profileIdA profileIdB : Uuid}
    {now : Timestamp} {events : List Event}
    (right : Guarded (step settings) (fun s e => s.commitsLoaded e = true)
      (created id profileIdA profileIdB now) events) :
    Logged (run settings (created id profileIdA profileIdB now) events).world := by
  have kept : ∀ (s : CollabState) (e : Event), s.commitsLoaded e = true → s.Walking →
      (s.step settings e).Walking := by
    intro s e ok h
    exact step_walking h e ok
  have walking := runFrom_invariant_of_guarded kept (created_walking id profileIdA profileIdB now)
    right
  exact walking.walks.logged

/-! ## Two runs -/

def asks (profileId : Uuid) (newStatus : CollabStatus) : Event :=
  .begin (.request profileId (.transitionStatus newStatus none))

/-- `anna` begins, and `ben` completes what she has begun. -/
theorem began_then_completed :
    Logged (run {} duet
      (asks anna .inProgress :: List.replicate 3 (.advance 0 {}) ++
        asks ben .completed :: List.replicate 3 (.advance 1 {}))).world :=
  transitions_logged (by decide +kernel)

/-- `ben` has loaded the row before `anna` completes the collaboration, and begins it after. -/
theorem completed_then_began :
    ¬ Logged (run {} duet
      (asks anna .completed :: asks ben .inProgress :: .advance 1 {} ::
        List.replicate 3 (.advance 0 {}) ++ List.replicate 2 (.advance 1 {}))).world := by
  intro h
  exact absurd h.chained (by decide +kernel)

end CollabState

end ColabPlatform.Collabs
