import ColabPlatform.Collabs.Runs

/-!
# Blocked and archived collaborations

Once a block or an archival is committed, what the participants have written is to stay
as it is.  The patch and the transition check both flags of the row they have loaded, a
socket checks one of them, and the requests about tasks check none.  The content stays
in every run in which nobody is writing when a flag is committed, and in which what is
not checked begins before.
-/

namespace ColabPlatform.Collabs

open Foundation
open Billing (Uuid Timestamp)

/-- What the participants write. -/
structure Content where
  title : Option String
  description : Option String
  status : CollabStatus
  tasks : List Task
  comments : List TaskComment
  ops : List WhiteboardOp
  deriving DecidableEq, Repr

def CollabWorld.content (w : CollabWorld) : Content where
  title := w.row.title
  description := w.row.description
  status := w.row.status
  tasks := w.tasks
  comments := w.comments
  ops := w.ops

/-! ## Who writes -/

def Change.writes : Change → Bool
  | .patch _ _ | .transition _ _ _ | .addTask _ | .setTasks _ | .addComment _ => true
  | .block _ | .activity _ | .archiveCollab _ | .archiveFinalize _ | .nudge _ => false

/-- The change sets a flag of the row. -/
def Change.freezes : Change → Bool
  | .block _ | .archiveCollab _ | .archiveFinalize _ => true
  | _ => false

/-- The call has passed its checks and may still write. -/
def Phase.writing : Phase → Bool
  | .flush change _ | .commit change _ => change.writes
  | .receive | .append _ => true
  | .load | .announce _ | .done _ => false

/-- The operations that do not check both flags. -/
def Operation.unchecked : Operation → Bool
  | .request _ asked => asked.unchecked
  | .whiteboard _ => true
  | _ => false

/-- A flag is committed while nobody writes, and what is not checked begins before. -/
def CollabState.respectsFlags (s : CollabState) : Event → Bool
  | .advance index _ =>
      s.calls[index]?.all fun call =>
        match call.phase with
        | .load => !(call.operation.unchecked && s.world.row.frozen)
        | .commit change _ => !(change.freezes && s.calls.any fun call => call.phase.writing)
        | _ => true
  | _ => true

/-! ## What a step leaves alone -/

theorem Change.content_apply {change : Change} (idle : change.writes = false) (w : CollabWorld) :
    (change.apply w).content = w.content := by
  cases change with
  | patch | transition | addTask | setTasks | addComment => cases idle
  | activity | archiveFinalize => rfl
  | block archiveAt =>
      simp only [CollabWorld.content, Change.apply, Change.setRow]
      split
      all_goals rfl
  | archiveCollab now =>
      simp only [CollabWorld.content, Change.apply, Change.setRow]
      split
      all_goals rfl
  | nudge now =>
      simp only [CollabWorld.content, Change.apply, Change.setRow]
      split
      all_goals rfl

/-- The flags are never taken back. -/
theorem Change.frozen_setRow {change : Change} {row : Collaboration} (h : row.frozen = true) :
    (change.setRow row).frozen = true := by
  cases change with
  | patch | transition | activity | addTask | setTasks | addComment => exact h
  | archiveFinalize now => simp [Change.setRow, Collaboration.frozen]
  | block archiveAt =>
      simp only [Change.setRow]
      split
      · rfl
      · exact h
  | archiveCollab now =>
      simp only [Change.setRow]
      split
      · simp [Collaboration.frozen]
      · exact h
  | nudge now =>
      simp only [Change.setRow]
      split
      all_goals exact h

theorem Change.frozen_of_setRow {change : Change} {row : Collaboration}
    (idle : change.freezes = false) (h : (change.setRow row).frozen = true) :
    row.frozen = true := by
  cases change with
  | patch | transition | activity | addTask | setTasks | addComment => exact h
  | block | archiveCollab | archiveFinalize => cases idle
  | nudge now =>
      simp only [Change.setRow] at h
      split at h
      all_goals exact h

theorem Request.Loads.writable {w : CollabWorld} {asked : Request} {change : Change}
    (h : Request.Loads w asked change) (checked : asked.unchecked = false) :
    w.row.frozen = false := by
  cases h with
  | patch title description writable => exact writable
  | transition event writable prev allowed => exact writable
  | task unchecked free => simp [unchecked] at checked

/-- What is checked does not get to write a row with a flag. -/
theorem load_writing {settings : CollabSettings} {outside : Outside} {w : CollabWorld}
    {operation : Operation} (frozen : w.row.frozen = true)
    (checked : operation.unchecked = false) :
    (operation.load settings outside w).writing = false := by
  cases operation with
  | request profileId asked =>
      simp only [Operation.load]
      cases result : asked.validate.bind fun _ => asked.load outside w profileId with
      | error error => rfl
      | ok loaded =>
          obtain ⟨passed, -, loads⟩ := Common.bind_eq_ok.1 result
          have writable := (Request.load_loads loads).1.writable checked
          simp [frozen] at writable
  | whiteboard profileId => cases checked
  | applyBlock | updateLastActivity | inactivityCheck => rfl
  | task queued =>
      cases queued with
      | archiveCollab | archiveFinalize => rfl
      | sendNudge =>
          simp only [Operation.load, CollabTask.load]
          split
          all_goals rfl

theorem callStep_writing {settings : CollabSettings} {outside : Outside} {held : Bool}
    {operation : Operation} {phase : Phase} {w : CollabWorld} (idle : phase.writing = false)
    (loaded : phase = .load → (operation.load settings outside w).writing = false) :
    (callStep settings outside held operation phase w).1.writing = false := by
  cases phase with
  | load =>
      simp only [callStep]
      split
      · exact loaded rfl
      · rfl
  | flush change notices =>
      simp only [callStep]
      repeat' split
      all_goals first | exact idle | rfl
  | commit change notices =>
      simp only [callStep]
      split
      all_goals rfl
  | announce notices =>
      cases notices with
      | nil => rfl
      | cons notice notices =>
          cases notice with
          | publish event => rfl
          | enqueue task =>
              simp only [callStep]
              split
              all_goals rfl
  | receive | append => cases idle
  | done result => rfl

theorem Moved.content {w w' : CollabWorld} {phase : Phase} (moved : Moved w phase w')
    (idle : phase.writing = false) : w'.content = w.content := by
  cases moved with
  | committed change notices => exact Change.content_apply idle w
  | same | published | enqueued => rfl
  | appended op => cases idle

theorem Moved.frozen {w w' : CollabWorld} {phase : Phase} (moved : Moved w phase w')
    (h : w.row.frozen = true) : w'.row.frozen = true := by
  cases moved with
  | committed change notices => exact Change.frozen_setRow h
  | same | published | enqueued | appended => exact h

theorem Moved.frozen_before {w w' : CollabWorld} {phase : Phase} (moved : Moved w phase w')
    (h : w'.row.frozen = true)
    (idle : ∀ change notices, phase = .commit change notices → change.freezes = false) :
    w.row.frozen = true := by
  cases moved with
  | committed change notices => exact Change.frozen_of_setRow (idle change notices rfl) h
  | same | published | enqueued | appended => exact h

/-! ## Runs -/

namespace CollabState

/-- Nobody writes once a flag is set. -/
def Quiet (s : CollabState) : Prop :=
  s.world.row.frozen = true → ∀ call ∈ s.calls, call.phase.writing = false

variable {settings : CollabSettings} {s : CollabState}

theorem created_quiet (id profileIdA profileIdB : Uuid) (now : Timestamp) :
    (created id profileIdA profileIdB now).Quiet := by
  intro frozen
  cases frozen

/-- The call that takes a step was not writing, if a flag is set afterwards. -/
theorem idle_of_frozen (h : s.Quiet) {index : Nat} {outside : Outside} {call : Calling}
    (found : s.calls[index]? = some call)
    (right : s.respectsFlags (.advance index outside) = true)
    (frozen : (callStep settings outside s.held call.operation call.phase
      s.world).2.row.frozen = true) :
    ∀ call ∈ s.calls, call.phase.writing = false := by
  have moved := callStep_moved settings outside s.held call.operation call.phase s.world
  by_cases freezing : ∃ change notices,
      call.phase = .commit change notices ∧ change.freezes = true
  · obtain ⟨change, notices, committing, freezes⟩ := freezing
    intro other mem
    simp only [respectsFlags, found, Option.all_some, committing, freezes, Bool.true_and,
      Bool.not_eq_true'] at right
    simpa using List.any_eq_false.1 right other mem
  · apply h
    apply moved.frozen_before frozen
    intro change notices committing
    by_contra freezes
    exact freezing ⟨change, notices, committing, by simpa using freezes⟩

theorem step_quiet (h : s.Quiet) (e : Event) (right : s.respectsFlags e = true) :
    (s.step settings e).Quiet := by
  cases e with
  | begin operation =>
      cases operation with
      | task queued => exact h
      | request | whiteboard | applyBlock | updateLastActivity | inactivityCheck =>
          intro frozen
          exact forall_mem_concat rfl (h frozen)
  | deliver index again =>
      simp only [step]
      split
      · intro frozen
        refine forall_mem_concat rfl (h ?_)
        split at frozen
        all_goals exact frozen
      · exact h
  | advance index outside =>
      simp only [step]
      cases found : s.calls[index]? with
      | none => exact h
      | some call =>
          intro frozen
          have idle := idle_of_frozen h found right frozen
          refine forall_mem_set ?_ idle
          apply callStep_writing (idle call (List.mem_of_getElem? found))
          intro loading
          have before : s.world.row.frozen = true := by
            apply (callStep_moved settings outside s.held call.operation call.phase
              s.world).frozen_before frozen
            intro change notices committing
            rw [loading] at committing
            cases committing
          apply load_writing before
          simpa [respectsFlags, found, loading, before] using right
  | tick time => exact h

theorem step_content (h : s.Quiet) (e : Event) (frozen : s.world.row.frozen = true) :
    (s.step settings e).world.content = s.world.content ∧
      (s.step settings e).world.row.frozen = true := by
  cases e with
  | begin operation =>
      cases operation with
      | task | request | whiteboard | applyBlock | updateLastActivity | inactivityCheck =>
          exact ⟨rfl, frozen⟩
  | deliver index again =>
      simp only [step]
      split
      · split
        all_goals exact ⟨rfl, frozen⟩
      · exact ⟨rfl, frozen⟩
  | advance index outside =>
      simp only [step]
      cases found : s.calls[index]? with
      | none => exact ⟨rfl, frozen⟩
      | some call =>
          have moved := callStep_moved settings outside s.held call.operation call.phase s.world
          have idle := h frozen call (List.mem_of_getElem? found)
          exact ⟨moved.content idle, moved.frozen frozen⟩
  | tick time => exact ⟨rfl, frozen⟩

/-- After a block or an archival the content stays as it is, in every run in which the
flags are respected. -/
theorem frozen_content {id profileIdA profileIdB : Uuid} {now : Timestamp}
    {first rest : List Event}
    (right : Guarded (step settings) (fun s e => s.respectsFlags e = true)
      (created id profileIdA profileIdB now) (first ++ rest))
    (frozen : (run settings (created id profileIdA profileIdB now) first).world.row.frozen = true) :
    (run settings (created id profileIdA profileIdB now) (first ++ rest)).world.content =
      (run settings (created id profileIdA profileIdB now) first).world.content := by
  have kept : ∀ (s : CollabState) (e : Event), s.respectsFlags e = true → s.Quiet →
      (s.step settings e).Quiet := by
    intro s e ok h
    exact step_quiet h e ok
  have quiet := runFrom_invariant_of_guarded kept (created_quiet id profileIdA profileIdB now)
    right.prefix
  have later := right.suffix
  unfold run at frozen ⊢
  rw [runFrom_append]
  generalize runFrom (step settings) (created id profileIdA profileIdB now) first = s at *
  have stays : ∀ (s' : CollabState) (e : Event), s'.respectsFlags e = true →
      (s'.Quiet ∧ s'.world.row.frozen = true ∧ s'.world.content = s.world.content) →
      (s'.step settings e).Quiet ∧ (s'.step settings e).world.row.frozen = true ∧
        (s'.step settings e).world.content = s.world.content := by
    rintro s' e ok ⟨h, flag, same⟩
    obtain ⟨kept, still⟩ : (s'.step settings e).world.content = s'.world.content ∧
        (s'.step settings e).world.row.frozen = true := step_content h e flag
    exact ⟨step_quiet h e ok, still, kept.trans same⟩
  exact (runFrom_invariant_of_guarded stays ⟨quiet, frozen, rfl⟩ later).2.2

/-! ## Four runs -/

/-- The block of the pair, by the call at `index`. -/
def blocks (index : Nat) : List Event :=
  .begin .applyBlock :: List.replicate 3 (.advance index {})

def plan : Event := .begin (.request anna (.createTask ⟨"plan", none, none, none, "i"⟩))

def retitle : Event := .begin (.request ben (.patch (some "title") none))

/-- A task from before the block stays, and `ben` is refused afterwards. -/
theorem kept_after_block :
    (run {} duet (plan :: List.replicate 4 (.advance 0 {}) ++ blocks 1 ++
      [retitle, .advance 2 {}, .advance 2 {}])).world.content =
    (run {} duet (plan :: List.replicate 4 (.advance 0 {}) ++ blocks 1)).world.content :=
  frozen_content (by decide +kernel) (by decide +kernel)

/-- What changes between two points of a run, the first one after a block. -/
def changesAfter (first rest : List Event) : Prop :=
  (run {} duet first).world.row.frozen = true ∧
    (run {} duet (first ++ rest)).world.content ≠ (run {} duet first).world.content

instance (first rest : List Event) : Decidable (changesAfter first rest) :=
  inferInstanceAs (Decidable (_ ∧ _))

/-- A request about a task checks nothing, a socket that is open stays open, and `ben` has
loaded the row before the block. -/
theorem changed_after_block :
    changesAfter (blocks 0) (plan :: List.replicate 3 (.advance 1 {})) ∧
      changesAfter (.begin (.whiteboard anna) :: .advance 0 {} :: blocks 1)
        [.advance 0 { frame := some (1, [0]) }, .advance 0 {}] ∧
      changesAfter (retitle :: .advance 0 {} :: blocks 1) [.advance 0 {}, .advance 0 {}] := by
  decide +kernel

end CollabState

end ColabPlatform.Collabs
