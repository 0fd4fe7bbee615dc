import ColabPlatform.Collabs.Runs

/-!
# Archival

Inactive collaborations are to be archived once, and each archival to be announced once.
The scan decides on what it reads, the task that it queues carries it out without another
look, and the task that follows a terminal transition overwrites what is there.  The
promise is kept in every run in which an archival finds no other one before it, in which
activity does not come between the scan and its archival, and whose publications go out.
-/

namespace ColabPlatform.Collabs

open Foundation
open Billing (Uuid Timestamp)

/-! ## What is promised -/

def CollabEvent.isArchived : CollabEvent → Bool
  | .archived _ _ => true
  | _ => false

/-- A call that has not yet committed. -/
def Phase.unfinished : Phase → Bool
  | .load | .flush _ _ | .commit _ _ => true
  | _ => false

def Notice.announcesArchival : Notice → Bool
  | .publish event => event.isArchived
  | .enqueue _ => false

/-- How many archivals a call has still to announce. -/
def Calling.announcements (call : Calling) : Nat :=
  match call.phase with
  | .announce notices => notices.countP (·.announcesArchival)
  | _ => 0

namespace CollabState

def archivals (s : CollabState) : Nat := s.world.published.countP (·.isArchived)

/-- No activity was received for `archive_days`. -/
structure Inactive (settings : CollabSettings) (s : CollabState) : Prop where
  stored : s.world.row.lastActivityAt < s.world.now - days settings.archiveDays
  received : ∀ call ∈ s.calls, ∀ activityAt, call.operation = .updateLastActivity activityAt →
    activityAt < s.world.now - days settings.archiveDays

/-- What a run promises about the archival of the collaboration. -/
structure Archives (settings : CollabSettings) (start : CollabState) (events : List Event) :
    Prop where
  justified : ∀ first index outside rest call,
    events = first ++ .advance index outside :: rest →
    (run settings start first).calls[index]? = some call →
    call.operation = .task .archiveCollab →
    ((run settings start first).step settings (.advance index outside)).world.row.archivedAt ≠
      (run settings start first).world.row.archivedAt →
    (run settings start first).world.row.archivedAt = none ∧
      (run settings start first).Inactive settings
  kept : ∀ first rest, events = first ++ rest → ∀ time,
    (run settings start first).world.row.archivedAt = some time →
    (run settings start events).world.row.archivedAt = some time
  bounded : (run settings start events).archivals ≤
    if (run settings start events).world.row.archivedAt.isSome then 1 else 0
  announced : (∀ call ∈ (run settings start events).calls, call.announcements = 0) →
    (run settings start events).archivals =
      if (run settings start events).world.row.archivedAt.isSome then 1 else 0

end CollabState

/-! ## Which steps keep it -/

/-- The call is about to queue an archival, or about to carry it out. -/
def Calling.archiveDue (call : Calling) : Bool :=
  match call.phase with
  | .announce notices => notices.contains (.enqueue .archiveCollab)
  | phase => call.operation == .task .archiveCollab && phase.unfinished

/-- The call has received an activity and not yet stored it. -/
def Calling.reporting (call : Calling) : Bool :=
  match call.operation with
  | .updateLastActivity _ => call.phase.unfinished
  | _ => false

namespace CollabState

def archiveDue (s : CollabState) : Bool :=
  s.world.queue.contains .archiveCollab || s.calls.any (·.archiveDue)

/-- An archival finds none before it and is announced, activity is stored in order, and
none is received or about to be stored between a scan and its archival. -/
def archivesRight (s : CollabState) : Event → Bool
  | .begin (.updateLastActivity _) => !s.archiveDue
  | .advance index outside =>
      s.calls[index]?.all fun call =>
        match call.phase, call.operation with
        | .load, .inactivityCheck => !s.calls.any (·.reporting)
        | .load, .updateLastActivity _ => outside.db
        | .flush (.activity _) _, _ => outside.db
        | .commit (.activity activityAt) _, _ =>
            outside.db && decide (s.world.row.lastActivityAt ≤ activityAt)
        | .commit (.archiveCollab _) _, _ | .commit (.archiveFinalize _) _, _ =>
            decide (s.world.row.archivedAt = none)
        | .announce (.publish (.archived _ _) :: _), _ => outside.broker
        | _, _ => true
  | _ => true

end CollabState

/-! ## The shape of a call -/

def Change.archives : Change → Bool
  | .archiveCollab _ | .archiveFinalize _ => true
  | _ => false

/-- A change belongs to its operation, and announces the archival that it makes. -/
structure Change.Fits (operation : Operation) (change : Change) (notices : List Notice) :
    Prop where
  activity : ∀ activityAt,
    change = .activity activityAt ↔ operation = .updateLastActivity activityAt
  archive : operation = .task .archiveCollab → change.archives = true
  undispatched : notices.contains (.enqueue .archiveCollab) = false
  announced : notices.countP (·.announcesArchival) = if change.archives then 1 else 0
  published : change.archives = true → ∀ task, Notice.enqueue task ∉ notices

def Calling.Shaped (call : Calling) : Prop :=
  match call.phase with
  | .flush change notices | .commit change notices => change.Fits call.operation notices
  | .announce notices =>
      notices.countP (·.announcesArchival) = 0 ∨ ∀ task, Notice.enqueue task ∉ notices
  | _ => True

theorem countP_of_archiving {notices : List Notice}
    (none : ∀ notice ∈ notices, notice.archiving = false) :
    notices.countP (·.announcesArchival) = 0 := by
  apply List.countP_eq_zero.2
  intro notice mem announces
  have free := none notice mem
  cases notice with
  | enqueue task => cases announces
  | publish event =>
      cases event with
      | archived => cases free
      | _ => cases announces

theorem contains_of_archiving {notices : List Notice}
    (none : ∀ notice ∈ notices, notice.archiving = false) :
    notices.contains (.enqueue .archiveCollab) = false := by
  by_contra dispatched
  have mem : Notice.enqueue .archiveCollab ∈ notices := by simpa using dispatched
  cases none _ mem

theorem Request.Loads.fits {w : CollabWorld} {profileId : Uuid} {asked : Request}
    {change : Change} {notices : List Notice} (h : Request.Loads w asked change)
    (none : ∀ notice ∈ notices, notice.archiving = false) :
    change.Fits (.request profileId asked) notices := by
  have other : change.archives = false ∧ ∀ activityAt, change ≠ .activity activityAt := by
    cases h with
    | patch | transition => exact ⟨rfl, by rintro activityAt ⟨⟩⟩
    | task unchecked free =>
        cases change with
        | addTask | setTasks | addComment => exact ⟨rfl, by rintro activityAt ⟨⟩⟩
        | patch | transition | block | activity | archiveCollab | archiveFinalize | nudge =>
            cases free
  exact
    { activity := fun activityAt => ⟨fun same => absurd same (other.2 activityAt), nofun⟩
      archive := nofun
      undispatched := contains_of_archiving none
      announced := by rw [countP_of_archiving none, other.1]; rfl
      published := fun archives => by rw [other.1] at archives; cases archives }

/-- What an operation may do once it has loaded. -/
inductive Operation.Loaded (settings : CollabSettings) (w : CollabWorld) :
    Operation → Phase → Prop where
  | flush {operation : Operation} {change : Change} {notices : List Notice}
      (fits : change.Fits operation notices) : Loaded settings w operation (.flush change notices)
  | scanned : Loaded settings w .inactivityCheck (.announce (w.inactivityCheck settings))
  | connected (profileId : Uuid) : Loaded settings w (.whiteboard profileId) .receive
  | done {operation : Operation} (apart : ∀ activityAt, operation ≠ .updateLastActivity activityAt)
      (result : Except Failure Unit) : Loaded settings w operation (.done result)

theorem load_loaded (settings : CollabSettings) (outside : Outside) (w : CollabWorld)
    (operation : Operation) :
    operation.Loaded settings w (operation.load settings outside w) := by
  cases operation with
  | request profileId asked =>
      simp only [Operation.load]
      cases result : asked.validate.bind fun _ => asked.load outside w profileId with
      | error error => exact .done (fun _ => by simp) _
      | ok loaded =>
          obtain ⟨passed, -, loads⟩ := Common.bind_eq_ok.1 result
          have both := Request.load_loads loads
          exact .flush (both.1.fits fun notice mem => Notice.archiving_of_ofRequest (both.2 notice mem))
  | whiteboard profileId =>
      simp only [Operation.load, openSocket]
      repeat' split
      · exact .done (fun _ => by simp) _
      · exact .done (fun _ => by simp) _
      · exact .connected profileId
  | applyBlock => exact .flush ⟨fun _ => by simp, nofun, rfl, rfl, nofun⟩
  | updateLastActivity activityAt => exact .flush ⟨fun _ => by simp, nofun, rfl, rfl, nofun⟩
  | inactivityCheck => exact .scanned
  | task queued =>
      cases queued with
      | archiveCollab =>
          exact .flush ⟨fun _ => by simp, fun _ => rfl, rfl, rfl, fun _ task => by simp⟩
      | archiveFinalize reason =>
          apply Operation.Loaded.flush
          refine ⟨fun _ => by simp, nofun, ?_, ?_, fun _ task mem => ?_⟩
          · split
            all_goals rfl
          · split
            all_goals rfl
          · split at mem
            all_goals simp at mem
      | sendNudge =>
          simp only [Operation.load, CollabTask.load]
          split
          · exact .flush ⟨fun _ => by simp, nofun, rfl, rfl, nofun⟩
          · exact .done (fun _ => by simp) _

theorem countP_inactivityCheck (settings : CollabSettings) (w : CollabWorld) :
    (w.inactivityCheck settings).countP (·.announcesArchival) = 0 := by
  simp only [CollabWorld.inactivityCheck]
  repeat' split
  all_goals rfl

/-- The scan queues the archival of what has been inactive for long enough. -/
theorem inactive_of_scan {settings : CollabSettings} {w : CollabWorld}
    (dispatched : (w.inactivityCheck settings).contains (.enqueue .archiveCollab) = true) :
    w.row.lastActivityAt < w.now - days settings.archiveDays := by
  simp only [CollabWorld.inactivityCheck] at dispatched
  split at dispatched
  · split at dispatched
    · assumption
    · simp at dispatched
  · simp at dispatched

/-! ## Changes of the row -/

theorem Change.archivedAt_setRow {change : Change} (other : change.archives = false)
    (row : Collaboration) : (change.setRow row).archivedAt = row.archivedAt := by
  cases change with
  | patch | transition | activity | addTask | setTasks | addComment => rfl
  | archiveCollab | archiveFinalize => cases other
  | block | nudge =>
      simp only [Change.setRow]
      split
      all_goals rfl

theorem Change.isSome_archivedAt_setRow {change : Change} (archives : change.archives = true)
    (row : Collaboration) : (change.setRow row).archivedAt.isSome = true := by
  cases change with
  | archiveFinalize now => rfl
  | archiveCollab now =>
      simp only [Change.setRow]
      split
      · rfl
      · rename_i stored
        exact Option.isSome_iff_ne_none.2 stored
  | _ => cases archives

/-- Only a commit archives. -/
theorem Moved.archivedAt {w w' : CollabWorld} {phase : Phase} (moved : Moved w phase w')
    (changed : w'.row.archivedAt ≠ w.row.archivedAt) : phase.unfinished = true := by
  cases moved with
  | committed change notices => rfl
  | same | published | enqueued | appended => exact absurd rfl changed

/-! ## One step of a call -/

namespace CollabState

/-- Nothing was active lately, and no activity is about to be stored. -/
structure Idle (settings : CollabSettings) (s : CollabState) : Prop where
  stored : s.world.row.lastActivityAt < s.world.now - days settings.archiveDays
  calm : ∀ call ∈ s.calls, call.reporting = false

def archivedOnce (w : CollabWorld) : Nat := if w.row.archivedAt.isSome then 1 else 0

/-- What the step of a call keeps. -/
structure Turn (settings : CollabSettings) (s : CollabState) (call : Calling)
    (phase : Phase) (w : CollabWorld) : Prop where
  now_eq : w.now = s.world.now
  shaped : (Calling.mk call.operation phase).Shaped
  stored : s.world.row.lastActivityAt ≤ w.row.lastActivityAt
  calm : s.Idle settings → w.row.lastActivityAt = s.world.row.lastActivityAt
  recorded : ∀ activityAt, call.operation = .updateLastActivity activityAt →
    phase.unfinished = true ∨ activityAt ≤ w.row.lastActivityAt
  queued : w.queue.contains .archiveCollab = true → s.archiveDue = true
  due : (Calling.mk call.operation phase).archiveDue = true → s.Idle settings
  reporting : (Calling.mk call.operation phase).reporting = true → call.reporting = true
  counted : w.published.countP (·.isArchived) +
      (Calling.mk call.operation phase).announcements + archivedOnce s.world =
    s.archivals + call.announcements + archivedOnce w
  kept : ∀ time, s.world.row.archivedAt = some time → w.row.archivedAt = some time

structure Sound (settings : CollabSettings) (s : CollabState) : Prop where
  shaped : ∀ call ∈ s.calls, call.Shaped
  recorded : ∀ call ∈ s.calls, ∀ activityAt, call.operation = .updateLastActivity activityAt →
    call.reporting = true ∨ activityAt ≤ s.world.row.lastActivityAt
  due : s.archiveDue = true → s.Idle settings
  counted : s.archivals + (s.calls.map Calling.announcements).sum = archivedOnce s.world

variable {settings : CollabSettings} {s : CollabState} {call : Calling}

theorem due_of_mem (h : s.Sound settings) (mem : call ∈ s.calls)
    (due : call.archiveDue = true) : s.Idle settings := by
  apply h.due
  simp only [archiveDue, Bool.or_eq_true]
  exact Or.inr (List.any_eq_true.2 ⟨call, mem, due⟩)

/-- A step that leaves the world alone. -/
theorem Turn.same {phase : Phase} (shaped : (Calling.mk call.operation phase).Shaped)
    (recorded : ∀ activityAt, call.operation = .updateLastActivity activityAt →
      phase.unfinished = true ∨ activityAt ≤ s.world.row.lastActivityAt)
    (due : (Calling.mk call.operation phase).archiveDue = true → s.Idle settings)
    (reporting : (Calling.mk call.operation phase).reporting = true → call.reporting = true)
    (counted : (Calling.mk call.operation phase).announcements = call.announcements) :
    s.Turn settings call phase s.world where
  now_eq := rfl
  shaped := shaped
  stored := Int.le_refl _
  calm _ := rfl
  recorded := recorded
  queued listed := by simp only [archiveDue, listed, Bool.true_or]
  due := due
  reporting := reporting
  counted := by rw [counted]; rfl
  kept _ stored := stored

theorem not_reporting {operation : Operation} {phase : Phase}
    (finished : phase.unfinished = false) : (Calling.mk operation phase).reporting = false := by
  unfold Calling.reporting
  split
  · exact finished
  · rfl

/-- A step after the commit leaves the row alone. -/
theorem Turn.onward {phase : Phase} {w : CollabWorld} (now_eq : w.now = s.world.now)
    (row_eq : w.row = s.world.row) (finished : phase.unfinished = false)
    (shaped : (Calling.mk call.operation phase).Shaped)
    (stored : ∀ activityAt, call.operation = .updateLastActivity activityAt →
      activityAt ≤ s.world.row.lastActivityAt)
    (queued : w.queue.contains .archiveCollab = true → s.archiveDue = true)
    (due : (Calling.mk call.operation phase).archiveDue = true → s.Idle settings)
    (counted : w.published.countP (·.isArchived) +
        (Calling.mk call.operation phase).announcements = s.archivals + call.announcements) :
    s.Turn settings call phase w where
  now_eq := now_eq
  shaped := shaped
  stored := by rw [row_eq]
  calm _ := by rw [row_eq]
  recorded activityAt same := by
    rw [row_eq]
    exact Or.inr (stored activityAt same)
  queued := queued
  due := due
  reporting reporting := by
    rw [not_reporting finished] at reporting
    cases reporting
  counted := by
    rw [counted]
    simp only [archivedOnce, row_eq]
  kept time before := by rwa [row_eq]

/-- A call that ends without having changed the world. -/
theorem Turn.ended (result : Except Failure Unit) (silent : call.announcements = 0)
    (stored : ∀ activityAt, call.operation = .updateLastActivity activityAt →
      activityAt ≤ s.world.row.lastActivityAt) :
    s.Turn settings call (.done result) s.world := by
  refine .onward rfl rfl rfl trivial stored (fun listed => ?_) (fun due => ?_) ?_
  · simp only [archiveDue, listed, Bool.true_or]
  · simp [Calling.archiveDue, Phase.unfinished] at due
  · rw [silent]
    rfl

variable {operation : Operation} {outside : Outside} {held : Bool}

theorem turn_load (h : s.Sound settings) (mem : Calling.mk operation .load ∈ s.calls)
    (stored : ∀ activityAt, operation = .updateLastActivity activityAt → outside.db = true)
    (calm : operation = .inactivityCheck → ∀ call ∈ s.calls, call.reporting = false) :
    s.Turn settings ⟨operation, .load⟩
      (callStep settings outside held operation .load s.world).1
      (callStep settings outside held operation .load s.world).2 := by
  simp only [callStep]
  split
  · have loaded := load_loaded settings outside s.world operation
    generalize operation.load settings outside s.world = phase at loaded ⊢
    cases loaded with
    | flush fits =>
        refine .same fits (fun _ _ => Or.inl rfl) (fun due => ?_) id rfl
        exact due_of_mem h mem (by simpa [Calling.archiveDue, Phase.unfinished] using due)
    | scanned =>
        refine .same (Or.inl (countP_inactivityCheck settings s.world)) (by rintro _ ⟨⟩)
          (fun due => ?_) (by rintro ⟨⟩) (countP_inactivityCheck settings s.world)
        exact ⟨inactive_of_scan due, calm rfl⟩
    | connected profileId =>
        refine .same trivial (by rintro _ ⟨⟩) (fun due => ?_) (by rintro ⟨⟩) rfl
        simp [Calling.archiveDue, Phase.unfinished] at due
    | done apart result =>
        exact .ended result rfl fun activityAt same => absurd same (apart activityAt)
  · rename_i failed
    refine .ended _ rfl fun activityAt same => ?_
    exact absurd (stored activityAt same) failed

theorem turn_flush (h : s.Sound settings) {change : Change} {notices : List Notice}
    (mem : Calling.mk operation (.flush change notices) ∈ s.calls)
    (stored : ∀ activityAt, change = .activity activityAt → outside.db = true) :
    s.Turn settings ⟨operation, .flush change notices⟩
      (callStep settings outside held operation (.flush change notices) s.world).1
      (callStep settings outside held operation (.flush change notices) s.world).2 := by
  have fits : change.Fits operation notices := h.shaped _ mem
  simp only [callStep]
  split
  · exact .same fits (fun _ _ => Or.inl rfl) (due_of_mem h mem) id rfl
  · split
    · refine .same fits (fun _ _ => Or.inl rfl) (fun due => ?_) id rfl
      exact due_of_mem h mem due
    · rename_i failed
      refine .ended _ rfl fun activityAt same => ?_
      exact absurd (stored activityAt ((fits.activity activityAt).2 same)) failed

theorem turn_commit (h : s.Sound settings) {change : Change} {notices : List Notice}
    (mem : Calling.mk operation (.commit change notices) ∈ s.calls)
    (stored : ∀ activityAt, change = .activity activityAt →
      outside.db = true ∧ s.world.row.lastActivityAt ≤ activityAt)
    (first : change.archives = true → s.world.row.archivedAt = none) :
    s.Turn settings ⟨operation, .commit change notices⟩
      (callStep settings outside held operation (.commit change notices) s.world).1
      (callStep settings outside held operation (.commit change notices) s.world).2 := by
  have fits : change.Fits operation notices := h.shaped _ mem
  simp only [callStep]
  split
  · have idle : s.Idle settings → ∀ activityAt, change ≠ .activity activityAt := by
      rintro ⟨-, calm⟩ activityAt same
      have reporting := calm _ mem
      rw [(fits.activity activityAt).1 same] at reporting
      cases reporting
    exact
      { now_eq := rfl
        shaped := by
          cases archives : change.archives with
          | false => exact Or.inl (by simpa [archives] using fits.announced)
          | true => exact Or.inr (fits.published archives)
        stored := by
          by_cases active : ∃ activityAt, change = .activity activityAt
          · obtain ⟨activityAt, rfl⟩ := active
            exact (stored activityAt rfl).2
          · simp only [not_exists] at active
            exact Int.le_of_eq (Change.lastActivityAt_setRow active _).symm
        calm := fun calm => Change.lastActivityAt_setRow (idle calm) _
        recorded := by
          intro activityAt same
          obtain rfl := (fits.activity activityAt).2 same
          exact Or.inr (Int.le_refl _)
        queued := by
          intro listed
          have before : s.world.queue.contains .archiveCollab = true := listed
          simp only [archiveDue, before, Bool.true_or]
        due := by
          intro due
          have dispatched : notices.contains (.enqueue .archiveCollab) = true := due
          rw [fits.undispatched] at dispatched
          cases dispatched
        reporting := by
          intro reporting
          unfold Calling.reporting at reporting ⊢
          split at reporting
          all_goals cases reporting
        counted := by
          have announced := fits.announced
          cases archives : change.archives with
          | false =>
              have same := Change.archivedAt_setRow archives s.world.row
              simp [Calling.announcements, archivals, archivedOnce, Change.apply, same, announced,
                archives]
          | true =>
              have some := Change.isSome_archivedAt_setRow archives s.world.row
              simp [Calling.announcements, archivals, archivedOnce, Change.apply, some, announced,
                archives, first archives]
        kept := by
          intro time before
          cases archives : change.archives with
          | false => exact (Change.archivedAt_setRow archives s.world.row).trans before
          | true =>
              rw [first archives] at before
              cases before }
  · rename_i failed
    refine .ended _ rfl fun activityAt same => ?_
    exact absurd (stored activityAt ((fits.activity activityAt).2 same)).1 failed

/-- A call that does not report any more has stored what it received. -/
theorem recorded_of_finished (h : s.Sound settings) {phase : Phase}
    (mem : Calling.mk operation phase ∈ s.calls) (finished : phase.unfinished = false) :
    ∀ activityAt, operation = .updateLastActivity activityAt →
      activityAt ≤ s.world.row.lastActivityAt := by
  rintro activityAt rfl
  rcases h.recorded _ mem activityAt rfl with reporting | recorded
  · simp [Calling.reporting, finished] at reporting
  · exact recorded

theorem turn_announce (h : s.Sound settings) {notices : List Notice}
    (mem : Calling.mk operation (.announce notices) ∈ s.calls)
    (goesOut : ∀ reason time rest, notices = .publish (.archived reason time) :: rest →
      outside.broker = true) :
    s.Turn settings ⟨operation, .announce notices⟩
      (callStep settings outside held operation (.announce notices) s.world).1
      (callStep settings outside held operation (.announce notices) s.world).2 := by
  have stored := recorded_of_finished h mem rfl
  have shaped : notices.countP (·.announcesArchival) = 0 ∨
      ∀ task, Notice.enqueue task ∉ notices := h.shaped _ mem
  have due : notices.contains (.enqueue .archiveCollab) = true → s.Idle settings :=
    due_of_mem h mem
  cases notices with
  | nil => exact .ended _ rfl stored
  | cons notice notices =>
      have tail : notices.countP (·.announcesArchival) = 0 ∨
          ∀ task, Notice.enqueue task ∉ notices := by
        rcases shaped with silent | published
        · rw [List.countP_cons] at silent
          exact Or.inl (by omega)
        · exact Or.inr fun task later => published task (List.mem_cons_of_mem _ later)
      have dueTail : notices.contains (.enqueue .archiveCollab) = true → s.Idle settings := by
        intro listed
        apply due
        rw [List.contains_cons, listed, Bool.or_true]
      cases notice with
      | publish event =>
          simp only [callStep]
          split
          · refine .onward rfl rfl rfl tail stored (fun listed => ?_) dueTail ?_
            · have before : s.world.queue.contains .archiveCollab = true := listed
              simp only [archiveDue, before, Bool.true_or]
            · simp only [Calling.announcements, archivals, List.countP_append, List.countP_cons,
                List.countP_nil, Notice.announcesArchival]
              omega
          · rename_i failed
            refine .onward rfl rfl rfl tail stored (fun listed => ?_) dueTail ?_
            · simp only [archiveDue, listed, Bool.true_or]
            · have other : event.isArchived = false := by
                cases event with
                | archived reason time => exact absurd (goesOut reason time notices rfl) failed
                | _ => rfl
              simp [Calling.announcements, archivals, Notice.announcesArchival, other]
      | enqueue task =>
          have silent : notices.countP (·.announcesArchival) = 0 := by
            rcases shaped with silent | published
            · simpa [Notice.announcesArchival] using silent
            · exact absurd List.mem_cons_self (published task)
          simp only [callStep]
          split
          · refine .onward rfl rfl rfl tail stored (fun listed => ?_) dueTail ?_
            · have either : s.world.queue.contains .archiveCollab = true ∨ task = .archiveCollab := by
                have listed' : CollabTask.archiveCollab ∈ s.world.queue ++ [task] := by
                  simpa only [List.contains_iff_mem] using listed
                rcases List.mem_append.1 listed' with before | last
                · exact Or.inl (List.contains_iff_mem.2 before)
                · exact Or.inr (List.mem_singleton.1 last).symm
              simp only [archiveDue, Bool.or_eq_true]
              refine either.imp id fun same => List.any_eq_true.2 ⟨_, mem, ?_⟩
              simp [Calling.archiveDue, same]
            · simp [Calling.announcements, archivals, Notice.announcesArchival]
          · refine .onward rfl rfl rfl trivial stored (fun listed => ?_) (fun due => ?_) ?_
            · simp only [archiveDue, listed, Bool.true_or]
            · simp [Calling.archiveDue, Phase.unfinished] at due
            · simpa [Calling.announcements, archivals, Notice.announcesArchival] using silent

theorem turn_socket (h : s.Sound settings) {phase : Phase}
    (mem : Calling.mk operation phase ∈ s.calls)
    (socket : phase = .receive ∨ ∃ op, phase = .append op) :
    s.Turn settings ⟨operation, phase⟩
      (callStep settings outside held operation phase s.world).1
      (callStep settings outside held operation phase s.world).2 := by
  rcases socket with rfl | ⟨op, rfl⟩
  · have stored := recorded_of_finished h mem rfl
    simp only [callStep]
    split
    · refine .onward rfl rfl rfl trivial stored (fun listed => ?_) (fun due => ?_) rfl
      · simp only [archiveDue, listed, Bool.true_or]
      · simp [Calling.archiveDue, Phase.unfinished] at due
    · exact .ended _ rfl stored
  · have stored := recorded_of_finished h mem rfl
    simp only [callStep]
    split
    all_goals
      refine .onward rfl rfl rfl trivial stored (fun listed => ?_) (fun due => ?_) rfl
      · have before : s.world.queue.contains .archiveCollab = true := listed
        simp only [archiveDue, before, Bool.true_or]
      · simp [Calling.archiveDue, Phase.unfinished] at due

theorem turn_advance (h : s.Sound settings) {index : Nat}
    (found : s.calls[index]? = some call)
    (right : s.archivesRight (.advance index outside) = true) :
    s.Turn settings call
      (callStep settings outside held call.operation call.phase s.world).1
      (callStep settings outside held call.operation call.phase s.world).2 := by
  have mem := List.mem_of_getElem? found
  obtain ⟨operation, phase⟩ := call
  simp only [archivesRight, found, Option.all_some] at right
  cases phase with
  | load =>
      apply turn_load h mem
      · rintro activityAt rfl
        exact right
      · rintro rfl
        simpa using right
  | flush change notices =>
      apply turn_flush h mem
      rintro activityAt rfl
      exact right
  | commit change notices =>
      apply turn_commit h mem
      · rintro activityAt rfl
        simpa using right
      · intro archives
        cases change with
        | archiveCollab | archiveFinalize => simpa using right
        | _ => cases archives
  | announce notices =>
      apply turn_announce h mem
      rintro reason time rest rfl
      exact right
  | receive => exact turn_socket h mem (Or.inl rfl)
  | append op => exact turn_socket h mem (Or.inr ⟨op, rfl⟩)
  | done result => exact .ended result rfl (recorded_of_finished h mem rfl)

/-! ## Runs -/

theorem created_sound (id profileIdA profileIdB : Uuid) (now : Timestamp) :
    (created id profileIdA profileIdB now).Sound settings where
  shaped := by
    intro call mem
    cases mem
  recorded := by
    intro call mem
    cases mem
  due := nofun
  counted := rfl

theorem Idle.of_world {s' : CollabState} (h : s.Idle settings)
    (row_eq : s'.world.row.lastActivityAt = s.world.row.lastActivityAt)
    (now_le : s.world.now ≤ s'.world.now)
    (calm : ∀ call ∈ s'.calls, call.reporting = false) : s'.Idle settings where
  stored := by
    rw [row_eq]
    exact Int.lt_of_lt_of_le h.stored (Int.sub_le_sub_right now_le _)
  calm := calm

/-- The world and the calls after a step that keeps the row, with one call more. -/
theorem Sound.join (h : s.Sound settings) {s' : CollabState} {operation : Operation}
    (row_eq : s'.world.row = s.world.row) (now_eq : s'.world.now = s.world.now)
    (published_eq : s'.world.published = s.world.published)
    (calls_eq : s'.calls = s.calls ++ [⟨operation, .load⟩])
    (due : s'.archiveDue = true → s.archiveDue = true)
    (calm : s'.archiveDue = true → ∀ activityAt, operation ≠ .updateLastActivity activityAt) :
    s'.Sound settings where
  shaped := by
    rw [calls_eq]
    exact forall_mem_concat trivial h.shaped
  recorded := by
    rw [calls_eq, row_eq]
    refine forall_mem_concat ?_ h.recorded
    rintro activityAt rfl
    exact Or.inl rfl
  due := by
    intro now
    have idle := h.due (due now)
    refine idle.of_world (by rw [row_eq]) (by rw [now_eq]) ?_
    rw [calls_eq]
    refine forall_mem_concat ?_ idle.calm
    unfold Calling.reporting
    split
    · rename_i activityAt same
      exact absurd same (calm now activityAt)
    · rfl
  counted := by
    rw [calls_eq]
    simp only [archivals, published_eq, archivedOnce, row_eq, List.map_append, List.sum_append]
    exact h.counted

theorem Sound.advance (h : s.Sound settings) {index : Nat} {phase : Phase} {w : CollabWorld}
    (found : s.calls[index]? = some call) (turn : s.Turn settings call phase w) :
    (CollabState.mk w (s.calls.set index { call with phase })).Sound settings where
  shaped := forall_mem_set turn.shaped h.shaped
  recorded := by
    refine forall_mem_set ?_ fun other mem activityAt same => ?_
    · intro activityAt same
      rcases turn.recorded activityAt same with unfinished | recorded
      · left
        simp only [Calling.reporting]
        rw [same]
        exact unfinished
      · exact Or.inr recorded
    · exact (h.recorded other mem activityAt same).imp id fun recorded =>
        Int.le_trans recorded turn.stored
  due := by
    intro due
    have idle : s.Idle settings := by
      simp only [archiveDue, Bool.or_eq_true] at due
      rcases due with queued | due
      · exact h.due (turn.queued queued)
      · obtain ⟨other, mem, due⟩ := List.any_eq_true.1 due
        rcases mem_set_cases mem with rfl | ⟨j, -, atJ⟩
        · exact turn.due due
        · exact due_of_mem h (List.mem_of_getElem? atJ) due
    refine idle.of_world (turn.calm idle) (Int.le_of_eq turn.now_eq.symm) ?_
    refine forall_mem_set ?_ idle.calm
    by_contra reporting
    have before := turn.reporting (by simpa using reporting)
    simp [idle.calm call (List.mem_of_getElem? found)] at before
  counted := by
    have sum := sum_map_set found { call with phase } Calling.announcements
    have counted := turn.counted
    have before := h.counted
    simp only [archivals] at before counted ⊢
    omega

theorem step_sound (h : s.Sound settings) (e : Event) (right : s.archivesRight e = true) :
    (s.step settings e).Sound settings := by
  cases e with
  | begin operation =>
      cases operation with
      | task queued => exact h
      | request | whiteboard | applyBlock | inactivityCheck =>
          refine h.join rfl rfl rfl rfl (fun due => ?_) (fun _ _ => ?_)
          · simpa [step, archiveDue, Calling.archiveDue] using due
          · simp
      | updateLastActivity activityAt =>
          have free : s.archiveDue = false := by simpa [archivesRight] using right
          have still : (s.step settings (.begin (.updateLastActivity activityAt))).archiveDue =
              false := by
            simp only [archiveDue, Bool.or_eq_false_iff] at free
            simp only [step, archiveDue, List.any_append, free.1, free.2, Bool.false_or]
            rfl
          refine h.join rfl rfl rfl rfl (fun due => ?_) (fun due => ?_)
          all_goals
            rw [still] at due
            cases due
  | deliver index again =>
      simp only [step]
      split
      · rename_i task found
        have queued : task ∈ s.world.queue := List.mem_of_getElem? found
        refine h.join ?_ ?_ ?_ rfl (fun due => ?_) (fun _ _ => ?_)
        · split <;> rfl
        · split <;> rfl
        · split <;> rfl
        · have before : .archiveCollab ∈ s.world.queue ∨
              s.calls.any (·.archiveDue) = true := by
            simp only [archiveDue, List.any_append, Bool.or_eq_true, List.contains_iff_mem] at due
            rcases due with listed | earlier | new
            · left
              split at listed
              · exact listed
              · exact List.mem_of_mem_eraseIdx listed
            · exact Or.inr earlier
            · left
              obtain rfl : task = .archiveCollab := by
                simpa [Calling.archiveDue, Phase.unfinished] using new
              exact queued
          simpa only [archiveDue, Bool.or_eq_true, List.contains_iff_mem] using before
        · simp
      · exact h
  | advance index outside =>
      simp only [step]
      cases found : s.calls[index]? with
      | none => exact h
      | some call => exact h.advance found (turn_advance h found right)
  | tick time =>
      exact
        { shaped := h.shaped
          recorded := h.recorded
          due := fun due => (h.due due).of_world rfl
            (Int.le_add_of_nonneg_right (Int.natCast_nonneg time)) (h.due due).calm
          counted := h.counted }

/-- What is archived stays archived since then. -/
theorem Sound.kept (h : s.Sound settings) {e : Event} (right : s.archivesRight e = true)
    {time : Timestamp} (archived : s.world.row.archivedAt = some time) :
    (s.step settings e).world.row.archivedAt = some time := by
  cases e with
  | begin operation =>
      cases operation with
      | task | request | whiteboard | applyBlock | inactivityCheck | updateLastActivity =>
          exact archived
  | deliver index again =>
      simp only [step]
      split
      · split
        all_goals exact archived
      · exact archived
  | advance index outside =>
      simp only [step]
      cases found : s.calls[index]? with
      | none => exact archived
      | some call => exact (turn_advance h found right).kept time archived
  | tick time => exact archived

theorem Idle.inactive (h : s.Sound settings) (idle : s.Idle settings) : s.Inactive settings where
  stored := idle.stored
  received := by
    intro call mem activityAt same
    rcases h.recorded call mem activityAt same with reporting | recorded
    · simp [idle.calm call mem] at reporting
    · exact Int.lt_of_le_of_lt recorded idle.stored

/-- The task archives what has been inactive, and what is not archived yet. -/
theorem Sound.justified (h : s.Sound settings) {index : Nat} {outside : Outside}
    (right : s.archivesRight (.advance index outside) = true)
    (found : s.calls[index]? = some call) (archives : call.operation = .task .archiveCollab)
    (changed : (s.step settings (.advance index outside)).world.row.archivedAt ≠
      s.world.row.archivedAt) :
    s.world.row.archivedAt = none ∧ s.Inactive settings := by
  constructor
  · cases stored : s.world.row.archivedAt with
    | none => rfl
    | some time =>
        rw [h.kept right stored, stored] at changed
        exact absurd rfl changed
  · simp only [step, found] at changed
    have moved := callStep_moved settings outside s.held call.operation call.phase s.world
    have unfinished := moved.archivedAt changed
    apply Idle.inactive h
    apply due_of_mem h (List.mem_of_getElem? found)
    unfold Calling.archiveDue
    split
    · rename_i notices announcing
      rw [announcing] at unfinished
      cases unfinished
    · simp [archives, unfinished]

/-- In every run whose steps go right, inactive collaborations are archived once, and
announced once. -/
theorem archived_once {id profileIdA profileIdB : Uuid} {now : Timestamp} {events : List Event}
    (right : Guarded (step settings) (fun s e => s.archivesRight e = true)
      (created id profileIdA profileIdB now) events) :
    Archives settings (created id profileIdA profileIdB now) events := by
  have sound : ∀ first, Guarded (step settings) (fun s e => s.archivesRight e = true)
      (created id profileIdA profileIdB now) first →
      (run settings (created id profileIdA profileIdB now) first).Sound settings := by
    have keeps : ∀ (s : CollabState) (e : Event), s.archivesRight e = true →
        s.Sound settings → (s.step settings e).Sound settings := by
      intro s e ok h
      exact step_sound h e ok
    intro first guarded
    exact runFrom_invariant_of_guarded keeps (created_sound id profileIdA profileIdB now) guarded
  have counted := (sound events right).counted
  exact
    { justified := by
        rintro first index outside rest call rfl found archives changed
        exact (sound first right.prefix).justified right.suffix.1 found archives changed
      kept := by
        rintro first rest rfl time archived
        have keeps : ∀ (s : CollabState) (e : Event), s.archivesRight e = true →
            (s.Sound settings ∧ s.world.row.archivedAt = some time) →
            (s.step settings e).Sound settings ∧
              (s.step settings e).world.row.archivedAt = some time := by
          rintro s e ok ⟨h, before⟩
          exact ⟨step_sound h e ok, h.kept ok before⟩
        rw [run, runFrom_append]
        exact (runFrom_invariant_of_guarded keeps ⟨sound first right.prefix, archived⟩
          right.suffix).2
      bounded := by
        simp only [archivedOnce] at counted
        omega
      announced := by
        intro settled
        have none : ((run settings (created id profileIdA profileIdB now) events).calls.map
            Calling.announcements).sum = 0 := by
          apply List.sum_eq_zero
          intro n mem
          obtain ⟨call, inside, rfl⟩ := List.mem_map.1 mem
          exact settled call inside
        simp only [archivedOnce] at counted
        omega }

/-! ## Four runs -/

def month : Nat := 30 * 24 * 3600 * 1000000

/-- A scan, by the call at `index`. -/
def scans (index : Nat) : List Event :=
  .begin .inactivityCheck :: List.replicate 3 (.advance index {})

/-- The next task of the queue, by the call at `index`. -/
def works (index : Nat) : List Event :=
  .deliver 0 false :: List.replicate 5 (.advance index {})

/-- What has been inactive for more than a month is archived. -/
theorem inactive_archived :
    Archives {} duet (.tick (month + 1) :: scans 0 ++ works 1 ++ scans 2) :=
  archived_once (by decide +kernel)

/-- A scan, a message after it, and the task of the scan up to its commit. -/
def messageBetween : List Event :=
  .tick (month + 1) :: scans 0 ++ .begin (.updateLastActivity (month + 1)) ::
    List.replicate 3 (.advance 1 {}) ++ [.deliver 0 false, .advance 2 {}, .advance 2 {}]

/-- `anna` completes a collaboration that she has loaded before it is archived. -/
def completedBetween : List Event :=
  .tick (month + 1) :: .begin (.request anna (.transitionStatus .completed none)) ::
    .advance 0 {} :: scans 1 ++ works 2

/-- Two scans announce one archival twice, a message comes between the scan and its archival,
and the end of the collaboration overwrites its archival. -/
theorem archived_wrongly :
    ¬ Archives {} duet (.tick (month + 1) :: scans 0 ++ scans 1 ++ works 2 ++ works 3) ∧
      ¬ Archives {} duet (messageBetween ++ [.advance 2 {}]) ∧
      ¬ Archives {} duet (completedBetween ++
        (List.replicate 5 (.advance 0 {}) ++ .tick 1 :: works 3)) := by
  refine ⟨fun h => ?_, fun h => ?_, fun h => ?_⟩
  · exact absurd h.bounded (by decide +kernel)
  · have inactive := (h.justified messageBetween 2 {} [] _ rfl rfl rfl (by decide +kernel)).2
    exact absurd inactive.stored (by decide +kernel)
  · have kept := h.kept completedBetween _ rfl (month + 1) (by decide +kernel)
    exact absurd kept (by decide +kernel)

end CollabState

end ColabPlatform.Collabs
