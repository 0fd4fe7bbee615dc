import ColabPlatform.Billing.Model
import ColabPlatform.Foundation.Interleaving
import ColabPlatform.Foundation.Run

/-!
# Export generation

The executions of the task for one export.  The lock is a key without an owner, and the
`finally` block deletes it for an execution that did not get it as well; two blocks catch
what their step raises and mark the export as failed, the other steps do not.  The lock
is exclusive and the export ends in every run in which each execution finds the lock
free, and in which a step outside of these blocks raises only once the export has ended.
-/

namespace ColabPlatform.Collabs

open Foundation
open Billing (Uuid Timestamp)

/-! ## Rows and executions -/

inductive ExportStatus where
  | pending
  | generating
  | ready
  | failed
  deriving DecidableEq, Repr

def ExportStatus.ended : ExportStatus → Bool
  | ready | failed => true
  | pending | generating => false

structure CollabExport where
  id : Uuid
  collabId : Uuid
  requestedBy : Uuid
  status : ExportStatus := .pending
  pdfS3Key : Option String := none
  zipS3Key : Option String := none
  errorDetail : Option String := none
  startedAt : Option Timestamp := none
  completedAt : Option Timestamp := none
  expiresAt : Option Timestamp := none
  deriving DecidableEq, Repr

/-- What an execution does next. -/
inductive ExportPhase where
  | acquire
  | load
  | markGenerating
  | fetch
  | render (attachments : List String)
  | markFailed (detail : String) (again : Bool)
  | retry
  | upload (attachments : List String)
  | zip
  | markReady (zip : Bool)
  | emit
  /-- the `finally` block -/
  | release
  | done
  deriving DecidableEq, Repr

structure Execution where
  retries : Nat
  phase : ExportPhase := .acquire
  acquired : Bool := false
  deriving DecidableEq, Repr

structure ExportState where
  row : CollabExport
  /-- `export_lock:{export_id}`; the value is always `1`, the execution that has set it is
  kept to say when the key may expire -/
  lock : Option Nat
  /-- the executions that are queued, with their retries -/
  scheduled : List Nat
  executions : List Execution
  /-- `collab.export_ready` -/
  published : Nat

/-- What the stores and the services do in a step, and what the clock shows. -/
structure ExportOutside where
  now : Timestamp := 0
  redis : Bool := true
  db : Bool := true
  /-- the attachments of the chat, or the text of what was raised -/
  fetch : Except String (List String) := .ok []
  render : Except String Unit := .ok ()
  upload : Bool := true
  zip : Bool := true
  broker : Bool := true

/-! ## Steps -/

structure ExportSettings where
  signedUrlTtlDays : Nat := 7
  maxRetries : Nat := 5

namespace CollabExport

def pdfKey (row : CollabExport) : String :=
  "exports/" ++ row.collabId.text ++ "/" ++ row.id.text ++ "/transcript.pdf"

def zipKey (row : CollabExport) : String :=
  "exports/" ++ row.collabId.text ++ "/" ++ row.id.text ++ "/media.zip"

def markGenerating (row : CollabExport) (now : Timestamp) : CollabExport :=
  { row with status := .generating, startedAt := some now }

/-- `_mark_failed` -/
def markFailed (row : CollabExport) (detail : String) : CollabExport :=
  { row with status := .failed, errorDetail := some (String.ofList (detail.toList.take 1000)) }

def markReady (settings : ExportSettings) (row : CollabExport) (zip : Bool) (now : Timestamp) :
    CollabExport :=
  { row with
    status := .ready
    pdfS3Key := some row.pdfKey
    zipS3Key := if zip then some row.zipKey else none
    expiresAt := some (now + settings.signedUrlTtlDays * (24 * 3600 * 1000000))
    completedAt := some now }

end CollabExport

section

variable (settings : ExportSettings) (outside : ExportOutside) (index : Nat)

/-- One step of `_generate_async`; what a step raises leads to the `finally` block. -/
def exportStep (s : ExportState) (run : Execution) : Execution × ExportState :=
  match run.phase with
  | .acquire =>
      if outside.redis then
        match s.lock with
        | none => ({ run with phase := .load, acquired := true }, { s with lock := some index })
        | some _ => ({ run with phase := .release }, s)
      else ({ run with phase := .release }, s)
  | .load =>
      if outside.db then
        if s.row.status = .ready then ({ run with phase := .release }, s)
        else ({ run with phase := .markGenerating }, s)
      else ({ run with phase := .release }, s)
  | .markGenerating =>
      if outside.db then
        ({ run with phase := .fetch }, { s with row := s.row.markGenerating outside.now })
      else ({ run with phase := .release }, s)
  | .fetch =>
      match outside.fetch with
      | .ok attachments => ({ run with phase := .render attachments }, s)
      | .error text => ({ run with phase := .markFailed ("chat-svc fetch error: " ++ text) true }, s)
  | .render attachments =>
      match outside.render with
      | .ok () => ({ run with phase := .upload attachments }, s)
      | .error text => ({ run with phase := .markFailed ("PDF render error: " ++ text) false }, s)
  | .markFailed detail again =>
      if outside.db then
        ({ run with phase := if again then .retry else .release },
          { s with row := s.row.markFailed detail })
      else ({ run with phase := .release }, s)
  | .retry =>
      -- `task.retry` raises in any case
      if run.retries < settings.maxRetries ∧ outside.broker = true then
        ({ run with phase := .release }, { s with scheduled := s.scheduled ++ [run.retries + 1] })
      else ({ run with phase := .release }, s)
  | .upload attachments =>
      if outside.upload then
        ({ run with phase := if attachments = [] then .markReady false else .zip }, s)
      else ({ run with phase := .release }, s)
  | .zip => ({ run with phase := .markReady outside.zip }, s)
  | .markReady zip =>
      if outside.db then
        ({ run with phase := .emit }, { s with row := s.row.markReady settings zip outside.now })
      else ({ run with phase := .release }, s)
  | .emit =>
      ({ run with phase := .release },
        if outside.broker then { s with published := s.published + 1 } else s)
  | .release =>
      ({ run with phase := .done }, if outside.redis then { s with lock := none } else s)
  | .done => (run, s)

end

inductive ExportEvent where
  /-- a worker takes an execution, which may be delivered again later -/
  | deliver (index : Nat) (again : Bool)
  | advance (index : Nat) (outside : ExportOutside)
  /-- the lock expires; each execution takes less time than the lock lives -/
  | expire

namespace ExportState

/-- `request_export_endpoint` -/
def requested (id collabId requestedBy : Uuid) : ExportState where
  row := { id, collabId, requestedBy }
  lock := none
  scheduled := [0]
  executions := []
  published := 0

def step (settings : ExportSettings) (s : ExportState) : ExportEvent → ExportState
  | .deliver index again =>
      match s.scheduled[index]? with
      | some retries =>
          { s with
            scheduled := if again then s.scheduled else s.scheduled.eraseIdx index
            executions := s.executions ++ [{ retries }] }
      | none => s
  | .advance index outside =>
      match s.executions[index]? with
      | some run =>
          let after := exportStep settings outside index s run
          { after.2 with executions := s.executions.set index after.1 }
      | none => s
  | .expire =>
      if s.lock.all fun owner => s.executions[owner]?.all fun run => run.phase = .done then
        { s with lock := none }
      else s

def run (s : ExportState) (settings : ExportSettings) (events : List ExportEvent) : ExportState :=
  runFrom (step settings) s events

end ExportState

/-! ## What is promised -/

/-- The execution has got the lock and is not yet complete. -/
def Execution.holding (run : Execution) : Bool := run.acquired && run.phase != .done

namespace ExportState

structure Exclusive (settings : ExportSettings) (start : ExportState)
    (events : List ExportEvent) : Prop where
  one : AtMostOne Execution.holding (start.run settings events).executions
  /-- an execution that has not got the lock leaves it alone -/
  own : ∀ first index outside rest run, events = first ++ .advance index outside :: rest →
    (start.run settings first).executions[index]? = some run → run.acquired = false →
    (start.run settings first).lock ≠ none →
    (start.run settings (first ++ [.advance index outside])).lock =
      (start.run settings first).lock
  ended : (start.run settings events).scheduled = [] →
    (∀ run ∈ (start.run settings events).executions, run.phase = .done) →
    (start.run settings events).row.status.ended = true

/-- An execution finds the lock free, and what is not caught is raised only once the export
has ended. -/
def runsRight (s : ExportState) : ExportEvent → Bool
  | .advance index outside =>
      s.executions[index]?.all fun run =>
        match run.phase with
        | .acquire => outside.redis && s.lock.isNone
        | .load | .markGenerating | .markFailed _ _ | .markReady _ =>
            outside.db || s.row.status.ended
        | .upload _ => outside.upload || s.row.status.ended
        | _ => true
  | _ => true

end ExportState

/-! ## One step of an execution -/

/-- The execution has still to end the export. -/
def ExportPhase.working : ExportPhase → Bool
  | .retry | .emit | .release | .done => false
  | _ => true

/-- What a step of an execution keeps. -/
structure ExportTurn (s : ExportState) (index : Nat) (run run' : Execution) (s' : ExportState) :
    Prop where
  acquired : run'.acquired = true
  holding : run'.holding = true → run.holding = true ∨ s'.lock = some index
  lock : s'.lock = s.lock ∨ s.lock = none ∨ run.holding = true ∧ run'.holding = false
  scheduled : s.scheduled ≠ [] → s'.scheduled ≠ []
  ended : run.phase.working = true ∨ s.row.status.ended = true →
    run'.phase.working = true ∨ s'.row.status.ended = true

section

variable {settings : ExportSettings} {outside : ExportOutside} {index : Nat} {s : ExportState}
  {run : Execution}

/-- A step that leaves the lock and the schedule alone. -/
theorem ExportTurn.onward {phase : ExportPhase} {s' : ExportState} (acquired : run.acquired = true)
    (begun : run.phase ≠ .done) (lock : s'.lock = s.lock) (scheduled : s'.scheduled = s.scheduled)
    (ended : run.phase.working = true ∨ s.row.status.ended = true →
      phase.working = true ∨ s'.row.status.ended = true) :
    ExportTurn s index run { run with phase } s' where
  acquired := acquired
  holding _ := by
    left
    simp [Execution.holding, acquired, begun]
  lock := Or.inl lock
  scheduled some := by rwa [scheduled]
  ended := ended

theorem export_turn (found : s.executions[index]? = some run)
    (acquired : run.phase = .acquire ∨ run.acquired = true)
    (right : s.runsRight (.advance index outside) = true) :
    ExportTurn s index run (exportStep settings outside index s run).1
      (exportStep settings outside index s run).2 := by
  obtain ⟨retries, phase, owns⟩ := run
  simp only [ExportState.runsRight, found, Option.all_some] at right
  cases phase with
  | acquire =>
      obtain ⟨up, free⟩ : outside.redis = true ∧ s.lock = none := by simpa using right
      simp only [exportStep, up, free, if_true]
      exact ⟨rfl, fun _ => Or.inr rfl, Or.inr (Or.inl free), id, fun _ => Or.inl rfl⟩
  | load =>
      obtain rfl : owns = true := acquired.resolve_left nofun
      have right : outside.db = true ∨ s.row.status.ended = true := by simpa using right
      simp only [exportStep]
      split
      · split
        · rename_i ready
          refine .onward rfl nofun rfl rfl fun _ => Or.inr ?_
          simp [ready, ExportStatus.ended]
        · exact .onward rfl nofun rfl rfl fun _ => Or.inl rfl
      · rename_i failed
        exact .onward rfl nofun rfl rfl fun _ => Or.inr (right.resolve_left failed)
  | markGenerating =>
      obtain rfl : owns = true := acquired.resolve_left nofun
      have right : outside.db = true ∨ s.row.status.ended = true := by simpa using right
      simp only [exportStep]
      split
      · exact .onward rfl nofun rfl rfl fun _ => Or.inl rfl
      · rename_i failed
        exact .onward rfl nofun rfl rfl fun _ => Or.inr (right.resolve_left failed)
  | fetch =>
      obtain rfl : owns = true := acquired.resolve_left nofun
      simp only [exportStep]
      split
      · exact .onward rfl nofun rfl rfl fun _ => Or.inl rfl
      · exact .onward rfl nofun rfl rfl fun _ => Or.inl rfl
  | render attachments =>
      obtain rfl : owns = true := acquired.resolve_left nofun
      simp only [exportStep]
      split
      · exact .onward rfl nofun rfl rfl fun _ => Or.inl rfl
      · exact .onward rfl nofun rfl rfl fun _ => Or.inl rfl
  | markFailed detail again =>
      obtain rfl : owns = true := acquired.resolve_left nofun
      have right : outside.db = true ∨ s.row.status.ended = true := by simpa using right
      simp only [exportStep]
      split
      · exact .onward rfl nofun rfl rfl fun _ => Or.inr rfl
      · rename_i failed
        exact .onward rfl nofun rfl rfl fun _ => Or.inr (right.resolve_left failed)
  | retry =>
      obtain rfl : owns = true := acquired.resolve_left nofun
      have still : ExportPhase.retry.working = true ∨ s.row.status.ended = true →
          s.row.status.ended = true := fun ended => ended.resolve_left nofun
      simp only [exportStep]
      split
      · exact ⟨rfl, fun _ => Or.inl rfl, Or.inl rfl, fun _ => by simp, fun ended =>
          Or.inr (still ended)⟩
      · exact .onward rfl nofun rfl rfl fun ended => Or.inr (still ended)
  | upload attachments =>
      obtain rfl : owns = true := acquired.resolve_left nofun
      have right : outside.upload = true ∨ s.row.status.ended = true := by simpa using right
      simp only [exportStep]
      split
      · refine .onward rfl nofun rfl rfl fun _ => Or.inl ?_
        split <;> rfl
      · rename_i failed
        exact .onward rfl nofun rfl rfl fun _ => Or.inr (right.resolve_left failed)
  | zip =>
      obtain rfl : owns = true := acquired.resolve_left nofun
      exact .onward rfl nofun rfl rfl fun _ => Or.inl rfl
  | markReady zip =>
      obtain rfl : owns = true := acquired.resolve_left nofun
      have right : outside.db = true ∨ s.row.status.ended = true := by simpa using right
      simp only [exportStep]
      split
      · exact .onward rfl nofun rfl rfl fun _ => Or.inr rfl
      · rename_i failed
        exact .onward rfl nofun rfl rfl fun _ => Or.inr (right.resolve_left failed)
  | emit =>
      obtain rfl : owns = true := acquired.resolve_left nofun
      simp only [exportStep]
      split
      · exact .onward rfl nofun rfl rfl fun ended => Or.inr (ended.resolve_left nofun)
      · exact .onward rfl nofun rfl rfl fun ended => Or.inr (ended.resolve_left nofun)
  | release =>
      obtain rfl : owns = true := acquired.resolve_left nofun
      have still : ExportPhase.release.working = true ∨ s.row.status.ended = true →
          s.row.status.ended = true := fun ended => ended.resolve_left nofun
      simp only [exportStep]
      split
      · exact ⟨rfl, nofun, Or.inr (Or.inr ⟨rfl, rfl⟩), id, fun ended => Or.inr (still ended)⟩
      · exact ⟨rfl, nofun, Or.inl rfl, id, fun ended => Or.inr (still ended)⟩
  | done =>
      obtain rfl : owns = true := acquired.resolve_left nofun
      exact ⟨rfl, Or.inl, Or.inl rfl, id, id⟩

end

/-! ## Runs -/

namespace ExportState

structure Sound (s : ExportState) : Prop where
  acquired : ∀ run ∈ s.executions, run.phase = .acquire ∨ run.acquired = true
  held : ∀ i run, s.executions[i]? = some run → run.holding = true → s.lock = some i
  ended : s.row.status.ended = true ∨ s.scheduled ≠ [] ∨
    ∃ run ∈ s.executions, run.phase.working = true

variable {settings : ExportSettings} {s : ExportState}

theorem requested_sound (id collabId requestedBy : Uuid) :
    (requested id collabId requestedBy).Sound where
  acquired := by
    intro run mem
    cases mem
  held := by
    intro i run found
    simp [requested] at found
  ended := Or.inr (Or.inl nofun)

theorem Sound.one (h : s.Sound) : AtMostOne Execution.holding s.executions := by
  intro i j a b atI atJ holdsA holdsB
  have same := (h.held i a atI holdsA).symm.trans (h.held j b atJ holdsB)
  exact Option.some.inj same

theorem Sound.deliver (h : s.Sound) {retries : Nat} {scheduled : List Nat} :
    ({ s with scheduled, executions := s.executions ++ [{ retries }] } : ExportState).Sound where
  acquired := forall_mem_concat (Or.inl rfl) h.acquired
  held := by
    intro i run found holding
    rcases getElem?_concat_cases found with before | ⟨-, rfl⟩
    · exact h.held i run before holding
    · cases holding
  ended := Or.inr (Or.inr ⟨_, List.mem_append_right _ List.mem_cons_self, rfl⟩)

theorem Sound.advance (h : s.Sound) {index : Nat} {run run' : Execution} {s' : ExportState}
    (found : s.executions[index]? = some run) (turn : ExportTurn s index run run' s') :
    ({ s' with executions := s.executions.set index run' } : ExportState).Sound where
  acquired := forall_mem_set (Or.inr turn.acquired) h.acquired
  held := by
    intro j other atJ holding
    rcases getElem?_set_cases atJ with ⟨rfl, rfl⟩ | ⟨apart, stillJ⟩
    · rcases turn.holding holding with before | now
      · have owner := h.held index run found before
        rcases turn.lock with same | free | ⟨-, ended⟩
        · exact same.trans owner
        · rw [free] at owner
          cases owner
        · rw [ended] at holding
          cases holding
      · exact now
    · have owner := h.held j other stillJ holding
      rcases turn.lock with same | free | ⟨before, -⟩
      · exact same.trans owner
      · rw [free] at owner
        cases owner
      · have both := (h.held index run found before).symm.trans owner
        exact absurd (Option.some.inj both) apart
  ended := by
    have here := List.mem_of_getElem? found
    rcases h.ended with ended | scheduled | ⟨other, mem, working⟩
    · rcases turn.ended (Or.inr ended) with working | ended'
      · exact Or.inr (Or.inr ⟨run', mem_set_of_found found, working⟩)
      · exact Or.inl ended'
    · exact Or.inr (Or.inl (turn.scheduled scheduled))
    · by_cases same : run = other
      · subst same
        rcases turn.ended (Or.inl working) with working' | ended'
        · exact Or.inr (Or.inr ⟨run', mem_set_of_found found, working'⟩)
        · exact Or.inl ended'
      · exact Or.inr (Or.inr ⟨other, mem_set_of_mem found mem same, working⟩)

theorem step_sound (h : s.Sound) (e : ExportEvent) (right : s.runsRight e = true) :
    (s.step settings e).Sound := by
  cases e with
  | deliver index again =>
      simp only [step]
      split
      · exact h.deliver
      · exact h
  | advance index outside =>
      simp only [step]
      cases found : s.executions[index]? with
      | none => exact h
      | some run =>
          exact h.advance found
            (export_turn found (h.acquired run (List.mem_of_getElem? found)) right)
  | expire =>
      simp only [step]
      split
      · rename_i expired
        refine ⟨h.acquired, fun i run found holding => ?_, h.ended⟩
        have owner := h.held i run found holding
        have complete : run.phase = .done := by simpa [owner, found] using expired
        simp [Execution.holding, complete] at holding
      · exact h

/-- In every run whose executions go right, the lock is exclusive and the export ends. -/
theorem export_exclusive {id collabId requestedBy : Uuid} {events : List ExportEvent}
    (right : Guarded (step settings) (fun s e => s.runsRight e = true)
      (requested id collabId requestedBy) events) :
    Exclusive settings (requested id collabId requestedBy) events := by
  have keeps : ∀ (s : ExportState) (e : ExportEvent), s.runsRight e = true → s.Sound →
      (s.step settings e).Sound := by
    intro s e ok h
    exact step_sound h e ok
  have sound : ∀ first, Guarded (step settings) (fun s e => s.runsRight e = true)
      (requested id collabId requestedBy) first →
      ((requested id collabId requestedBy).run settings first).Sound := by
    intro first guarded
    exact runFrom_invariant_of_guarded keeps (requested_sound id collabId requestedBy) guarded
  exact
    { one := (sound events right).one
      own := by
        rintro first index outside rest run rfl found foreign locked
        have now := right.suffix.1
        rcases (sound first right.prefix).acquired run (List.mem_of_getElem? found) with
          first | acquired
        · -- the execution would find the lock free
          unfold ExportState.run at found locked
          simp only [runsRight, found, Option.all_some, first, Bool.and_eq_true,
            Option.isNone_iff_eq_none] at now
          exact absurd now.2 locked
        · rw [foreign] at acquired
          cases acquired
      ended := by
        intro none idle
        rcases (sound events right).ended with ended | scheduled | ⟨run, mem, working⟩
        · exact ended
        · exact absurd none scheduled
        · rw [idle run mem] at working
          cases working }

/-! ## Four runs -/

def transcript : ExportState := requested ⟨"export"⟩ ⟨"collab"⟩ ⟨"anna"⟩

/-- The chat cannot be fetched at first, and the retry succeeds. -/
def retried : List ExportEvent :=
  .deliver 0 false :: List.replicate 3 (.advance 0 {}) ++
    .advance 0 { fetch := .error "timeout" } :: List.replicate 3 (.advance 0 {}) ++
    .deliver 0 false :: List.replicate 9 (.advance 1 {})

theorem retried_exclusive : Exclusive {} transcript retried :=
  export_exclusive (by decide +kernel)

/-- Two executions, the second of which finds the lock. -/
def overlapping : List ExportEvent :=
  [.deliver 0 true, .deliver 0 true, .deliver 0 false, .advance 0 {}, .advance 1 {}]

/-- The second execution deletes the lock of the first, a third one then gets it as well, and
an upload that raises leaves the export generating. -/
theorem not_exclusive :
    ¬ Exclusive {} transcript (overlapping ++ [.advance 1 {}]) ∧
      ¬ Exclusive {} transcript (overlapping ++ [.advance 1 {}, .advance 2 {}]) ∧
      ¬ Exclusive {} transcript (.deliver 0 false :: List.replicate 5 (.advance 0 {}) ++
        [.advance 0 { upload := false }, .advance 0 {}]) := by
  refine ⟨fun h => ?_, fun h => ?_, fun h => ?_⟩
  · have own := h.own overlapping 1 {} [] ⟨0, .release, false⟩ rfl rfl rfl (by decide +kernel)
    exact absurd own (by decide +kernel)
  · exact absurd (h.one 0 2 ⟨0, .load, true⟩ ⟨0, .load, true⟩ rfl rfl rfl rfl) (by decide)
  · exact absurd (h.ended (by decide +kernel) (by decide +kernel)) (by decide +kernel)

end ExportState

end ColabPlatform.Collabs
