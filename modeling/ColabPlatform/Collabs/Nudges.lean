import ColabPlatform.Collabs.Runs
import Mathlib.Algebra.Order.BigOperators.Group.List
import Mathlib.Algebra.Order.Ring.Nat

/-!
# Nudges

Who works on a collaboration is to be nudged once when nothing happens for `nudge_days`.
The scan queues a task and does not mark the row, and the task looks only for an earlier
nudge, which another task may store before it does.  The promise is kept in every run in
which a nudge that commits is the first one and still due, and in which nothing happens
between the nudge and its announcement.
-/

namespace ColabPlatform.Collabs

open Foundation
open Billing (Uuid Timestamp)

/-! ## What is promised -/

def CollabEvent.isNudge : CollabEvent → Bool
  | .nudgeDue _ _ => true
  | _ => false

def Notice.announcesNudge : Notice → Bool
  | .publish event => event.isNudge
  | .enqueue _ => false

/-- How many nudges a call has still to announce. -/
def Phase.nudges : Phase → Nat
  | .announce notices => notices.countP (·.announcesNudge)
  | _ => 0

def CollabWorld.nudges (w : CollabWorld) : Nat := w.published.countP (·.isNudge)

/-- The collaboration is active, and inactive for `nudge_days`. -/
def CollabWorld.nudgeDue (settings : CollabSettings) (w : CollabWorld) : Bool :=
  !w.row.status.isTerminal && w.row.archivedAt.isNone &&
    decide (w.row.lastActivityAt < w.now - days settings.nudgeDays)

theorem CollabWorld.nudgeDue_iff {settings : CollabSettings} {w : CollabWorld} :
    w.nudgeDue settings = true ↔ w.row.status.isTerminal = false ∧ w.row.archivedAt = none ∧
      w.row.lastActivityAt < w.now - days settings.nudgeDays := by
  simp [CollabWorld.nudgeDue, and_assoc]

namespace CollabState

/-- An activity is stored by the step. -/
def storesActivity (s : CollabState) : Event → Bool
  | .advance index outside =>
      s.calls[index]?.any fun call =>
        match call.phase with
        | .commit (.activity _) _ => outside.db
        | _ => false
  | _ => false

/-- What a run promises about the nudges of the collaboration. -/
structure NudgesOnce (settings : CollabSettings) (start : CollabState) (events : List Event) :
    Prop where
  once : ∀ first spell rest, events = first ++ spell ++ rest →
    Guarded (step settings) (fun s e => s.storesActivity e = false)
      (run settings start first) spell →
    (run settings start (first ++ spell)).world.nudges ≤
      (run settings start first).world.nudges + 1
  due : ∀ first e rest, events = first ++ e :: rest →
    (run settings start first).world.nudges <
      ((run settings start first).step settings e).world.nudges →
    (run settings start first).world.nudgeDue settings = true

/-! ## Which steps keep it -/

/-- How many nudges have been stored and not been announced. -/
def announcing (s : CollabState) : Nat := (s.calls.map fun call => call.phase.nudges).sum

/-- A nudge is stored where there is none, in a collaboration that is due; activity is
stored, and the collaboration ended, when no nudge is about to be announced; and nothing
else takes a nudge back. -/
def commitsRight (settings : CollabSettings) (s : CollabState) : Change → Bool
  | .nudge _ => s.world.row.nudgeSentAt.isNone && s.world.nudgeDue settings
  | .activity _ => s.announcing == 0
  | change =>
      let row := change.setRow s.world.row
      (s.world.row.nudgeSentAt.isNone || row.nudgeSentAt.isSome) &&
        (s.announcing == 0 || !row.status.isTerminal && row.archivedAt.isNone)

def nudgesRight (settings : CollabSettings) (s : CollabState) : Event → Bool
  | .advance index outside =>
      s.calls[index]?.all fun call =>
        match call.phase with
        | .commit change _ => !outside.db || s.commitsRight settings change
        | _ => true
  | _ => true

end CollabState

/-! ## What a call announces -/

def Change.nudges : Change → Nat
  | .nudge _ => 1
  | _ => 0

/-- A change that is not committed yet announces the nudge that it stores. -/
def Phase.NudgesFit : Phase → Prop
  | .flush change notices | .commit change notices =>
      notices.countP (·.announcesNudge) = change.nudges
  | _ => True

theorem Notice.announcesNudge_of_ofRequest {notice : Notice} (h : notice.ofRequest = true) :
    notice.announcesNudge = false := by
  cases notice with
  | publish event =>
      cases event with
      | nudgeDue => cases h
      | _ => rfl
  | enqueue task => rfl

theorem Request.Loads.nudges {w : CollabWorld} {asked : Request} {change : Change}
    (h : Request.Loads w asked change) : change.nudges = 0 := by
  cases h with
  | patch | transition => rfl
  | task unchecked free =>
      cases change with
      | nudge => cases free
      | _ => rfl

theorem nudges_inactivityCheck (settings : CollabSettings) (w : CollabWorld) :
    (w.inactivityCheck settings).countP (·.announcesNudge) = 0 := by
  simp only [CollabWorld.inactivityCheck]
  repeat' split
  all_goals rfl

theorem load_nudgesFit (settings : CollabSettings) (outside : Outside) (w : CollabWorld)
    (operation : Operation) :
    (operation.load settings outside w).NudgesFit ∧
      (operation.load settings outside w).nudges = 0 := by
  cases operation with
  | request profileId asked =>
      simp only [Operation.load]
      cases result : asked.validate.bind fun _ => asked.load outside w profileId with
      | error error => exact ⟨trivial, rfl⟩
      | ok loaded =>
          obtain ⟨passed, -, loads⟩ := Common.bind_eq_ok.1 result
          have both := Request.load_loads loads
          have silent : loaded.2.countP (·.announcesNudge) = 0 := by
            apply List.countP_eq_zero.2
            intro notice mem
            simp [Notice.announcesNudge_of_ofRequest (both.2 notice mem)]
          exact ⟨silent.trans both.1.nudges.symm, rfl⟩
  | whiteboard profileId =>
      simp only [Operation.load, openSocket]
      repeat' split
      all_goals exact ⟨trivial, rfl⟩
  | applyBlock | updateLastActivity => exact ⟨rfl, rfl⟩
  | inactivityCheck => exact ⟨trivial, nudges_inactivityCheck settings w⟩
  | task queued =>
      cases queued with
      | archiveCollab => exact ⟨rfl, rfl⟩
      | archiveFinalize reason =>
          simp only [Operation.load, CollabTask.load, Phase.NudgesFit]
          split
          all_goals exact ⟨rfl, rfl⟩
      | sendNudge =>
          simp only [Operation.load, CollabTask.load]
          split
          · exact ⟨rfl, rfl⟩
          · exact ⟨trivial, rfl⟩

theorem callStep_nudgesFit {settings : CollabSettings} {outside : Outside} {held : Bool}
    {operation : Operation} {phase : Phase} {w : CollabWorld} (fits : phase.NudgesFit) :
    (callStep settings outside held operation phase w).1.NudgesFit := by
  cases phase with
  | load =>
      simp only [callStep]
      split
      · exact (load_nudgesFit settings outside w operation).1
      · trivial
  | flush change notices =>
      simp only [callStep]
      repeat' split
      all_goals first | exact fits | trivial
  | commit | receive =>
      simp only [callStep]
      repeat' split
      all_goals trivial
  | announce notices =>
      cases notices with
      | nil => trivial
      | cons notice notices =>
          cases notice with
          | publish event => trivial
          | enqueue task =>
              simp only [callStep]
              split
              all_goals trivial
  | append | done => trivial

/-! ## The row and the clock -/

theorem Moved.now_eq {w w' : CollabWorld} {phase : Phase} (moved : Moved w phase w') :
    w'.now = w.now := by
  cases moved with
  | same | committed | published | enqueued | appended => rfl

theorem Moved.row_eq {w w' : CollabWorld} {phase : Phase} (moved : Moved w phase w')
    (other : ∀ change notices, phase ≠ .commit change notices) : w'.row = w.row := by
  cases moved with
  | committed change notices => exact absurd rfl (other change notices)
  | same | published | enqueued | appended => rfl

/-- What is announced was stored before. -/
theorem callStep_nudges (settings : CollabSettings) (outside : Outside) (held : Bool)
    (operation : Operation) {phase : Phase} (w : CollabWorld)
    (other : ∀ change notices, phase ≠ .commit change notices) :
    (callStep settings outside held operation phase w).2.nudges +
        (callStep settings outside held operation phase w).1.nudges ≤
      w.nudges + phase.nudges := by
  cases phase with
  | load =>
      simp only [callStep]
      split
      · simp [(load_nudgesFit settings outside w operation).2]
      · exact Nat.le_refl _
  | flush | receive | append =>
      simp only [callStep]
      repeat' split
      all_goals exact Nat.le_refl _
  | commit change notices => exact absurd rfl (other change notices)
  | announce notices =>
      cases notices with
      | nil => exact Nat.le_refl _
      | cons notice notices =>
          cases notice with
          | publish event =>
              simp only [callStep]
              split
              · simp only [CollabWorld.nudges, Phase.nudges, List.countP_append, List.countP_cons,
                  List.countP_nil, Notice.announcesNudge]
                omega
              · simp only [Phase.nudges, List.countP_cons]
                omega
          | enqueue task =>
              simp only [callStep]
              split
              · simp [CollabWorld.nudges, Phase.nudges, Notice.announcesNudge]
              · simp only [Phase.nudges]
                omega
  | done result => exact Nat.le_refl _

/-- A nudge that is published was about to be announced. -/
theorem Moved.nudges {w w' : CollabWorld} {phase : Phase} (moved : Moved w phase w') :
    w.nudges ≤ w'.nudges ∧ (w.nudges < w'.nudges → 0 < phase.nudges) := by
  cases moved with
  | same | committed | enqueued | appended => exact ⟨Nat.le_refl _, fun lt => absurd lt (Nat.lt_irrefl _)⟩
  | published event notices =>
      simp only [CollabWorld.nudges, Phase.nudges, List.countP_append, List.countP_cons,
        List.countP_nil, Notice.announcesNudge]
      omega

/-! ## One step -/

namespace CollabState

/-- A nudge may be stored. -/
def room (w : CollabWorld) : Nat := if w.row.nudgeSentAt.isNone then 1 else 0

/-- At most one nudge is about to be announced, of a collaboration that is due. -/
structure Nudging (settings : CollabSettings) (s : CollabState) : Prop where
  fits : ∀ call ∈ s.calls, call.phase.NudgesFit
  single : s.announcing + room s.world ≤ 1
  due : 0 < s.announcing → s.world.nudgeDue settings = true

/-- The nudges of a spell: those announced, stored, and still to come. -/
def spent (s : CollabState) : Nat := s.world.nudges + s.announcing + room s.world

variable {settings : CollabSettings} {s : CollabState} {change : Change}

theorem room_of_isNone {w : CollabWorld} (free : w.row.nudgeSentAt.isNone = true) :
    room w = 1 := if_pos free

theorem room_of_isSome {w : CollabWorld} (stored : w.row.nudgeSentAt.isSome = true) :
    room w = 0 := by
  obtain ⟨time, same⟩ := Option.isSome_iff_exists.1 stored
  simp [room, same]

theorem room_le_one (w : CollabWorld) : room w ≤ 1 := by
  unfold room
  split
  · exact Nat.le_refl _
  · exact Nat.zero_le _

theorem room_commit (right : s.commitsRight settings change = true)
    (silent : ∀ activityAt, change ≠ .activity activityAt) :
    change.nudges + room (change.apply s.world) ≤ room s.world := by
  cases change with
  | activity activityAt => exact absurd rfl (silent activityAt)
  | nudge now =>
      simp only [commitsRight, Bool.and_eq_true] at right
      have free : s.world.row.nudgeSentAt = none := Option.isNone_iff_eq_none.1 right.1
      have full : room (Change.apply s.world (.nudge now)) = 0 := by
        apply room_of_isSome
        simp [Change.apply, Change.setRow, free]
      rw [room_of_isNone right.1, full]
      exact Nat.le_refl _
  | patch | transition | block | archiveCollab | archiveFinalize | addTask | setTasks
  | addComment =>
      simp only [commitsRight, Bool.and_eq_true, Bool.or_eq_true] at right
      simp only [Change.nudges, Nat.zero_add]
      rcases right.1 with free | stored
      · rw [room_of_isNone free]
        exact room_le_one _
      · exact (room_of_isSome stored).trans_le (Nat.zero_le _)

theorem due_commit (right : s.commitsRight settings change = true)
    (before : 0 < s.announcing → s.world.nudgeDue settings = true)
    (now : 0 < s.announcing ∨ 0 < change.nudges) :
    (change.apply s.world).nudgeDue settings = true := by
  cases change with
  | activity activityAt =>
      simp only [commitsRight, beq_iff_eq] at right
      simp [right, Change.nudges] at now
  | nudge time =>
      simp only [commitsRight, Bool.and_eq_true, Option.isNone_iff_eq_none] at right
      have due := CollabWorld.nudgeDue_iff.1 right.2
      simpa [CollabWorld.nudgeDue_iff, Change.apply, Change.setRow, right.1] using due
  | patch | transition | block | archiveCollab | archiveFinalize | addTask | setTasks
  | addComment =>
      have pending : 0 < s.announcing := by simpa [Change.nudges] using now
      have due := CollabWorld.nudgeDue_iff.1 (before pending)
      have apart : s.announcing ≠ 0 := by omega
      simp only [commitsRight, Bool.and_eq_true, Bool.or_eq_true, beq_iff_eq, apart,
        false_or, Bool.not_eq_true', Option.isNone_iff_eq_none] at right
      refine CollabWorld.nudgeDue_iff.2 ⟨right.2.1, right.2.2, ?_⟩
      exact (Change.lastActivityAt_setRow (by simp) _).trans_lt due.2.2

variable {call : Calling} {outside : Outside} {held : Bool}

/-- The commit that a step carries out, if it goes right. -/
theorem commitsRight_of_nudgesRight {index : Nat} {notices : List Notice}
    (right : s.nudgesRight settings (.advance index outside) = true)
    (found : s.calls[index]? = some call) (committing : call.phase = .commit change notices)
    (stored : outside.db = true) : s.commitsRight settings change = true := by
  simpa [nudgesRight, found, committing, stored] using right

theorem spent_turn (fits : call.phase.NudgesFit)
    (right : ∀ change notices, call.phase = .commit change notices → outside.db = true →
      s.commitsRight settings change = true ∧ ∀ activityAt, change ≠ .activity activityAt) :
    (callStep settings outside held call.operation call.phase s.world).2.nudges +
        (callStep settings outside held call.operation call.phase s.world).1.nudges +
        room (callStep settings outside held call.operation call.phase s.world).2 ≤
      s.world.nudges + call.phase.nudges + room s.world := by
  by_cases committing : ∃ change notices, call.phase = .commit change notices
  · obtain ⟨change, notices, same⟩ := committing
    rw [same] at fits right ⊢
    simp only [callStep]
    split
    · rename_i stored
      have both := right change notices rfl stored
      have left := room_commit both.1 both.2
      simp only [Phase.NudgesFit] at fits
      simp only [Phase.nudges, fits]
      change s.world.nudges + change.nudges + room (change.apply s.world) ≤ _
      omega
    · exact Nat.le_refl _
  · simp only [not_exists] at committing
    have kept := (callStep_moved settings outside held call.operation call.phase s.world).row_eq
      committing
    have nudges := callStep_nudges settings outside held call.operation s.world committing
    simp only [room, kept]
    exact Nat.add_le_add_right nudges _

theorem due_turn (fits : call.phase.NudgesFit)
    (right : ∀ change notices, call.phase = .commit change notices → outside.db = true →
      s.commitsRight settings change = true)
    (before : 0 < s.announcing → s.world.nudgeDue settings = true)
    (mem : call.phase.nudges ≤ s.announcing)
    (now : 0 < s.announcing ∨
      0 < (callStep settings outside held call.operation call.phase s.world).1.nudges) :
    (callStep settings outside held call.operation call.phase s.world).2.nudgeDue settings =
      true := by
  by_cases committing : ∃ change notices, call.phase = .commit change notices
  · obtain ⟨change, notices, same⟩ := committing
    rw [same] at fits right now ⊢
    simp only [callStep] at now ⊢
    split at now
    · rename_i stored
      rw [if_pos stored]
      simp only [Phase.NudgesFit] at fits
      simp only [Phase.nudges, fits] at now
      exact due_commit (right change notices rfl stored) before now
    · rename_i failed
      rw [if_neg failed]
      exact before (by simpa [Phase.nudges] using now)
  · simp only [not_exists] at committing
    have moved := callStep_moved settings outside held call.operation call.phase s.world
    have nudges := callStep_nudges settings outside held call.operation s.world committing
    have grows := moved.nudges.1
    have due : s.world.nudgeDue settings = true := by
      apply before
      omega
    rw [CollabWorld.nudgeDue_iff] at due ⊢
    rwa [moved.row_eq committing, moved.now_eq]

/-! ## Runs -/

theorem announcing_advance {index : Nat} (found : s.calls[index]? = some call)
    (w : CollabWorld) (phase : Phase) :
    (CollabState.mk w (s.calls.set index { call with phase })).announcing + call.phase.nudges =
      s.announcing + phase.nudges :=
  sum_map_set found { call with phase } fun call => call.phase.nudges

theorem announcing_quiet {s' : CollabState}
    (calls : s'.calls = s.calls ∨ ∃ operation, s'.calls = s.calls ++ [⟨operation, .load⟩]) :
    s'.announcing = s.announcing := by
  rcases calls with same | ⟨operation, more⟩
  · rw [announcing, same, announcing]
  · simp [announcing, more, Phase.nudges]

theorem nudges_le_announcing (mem : call ∈ s.calls) : call.phase.nudges ≤ s.announcing :=
  List.le_sum_of_mem (List.mem_map_of_mem mem)

theorem created_nudging (id profileIdA profileIdB : Uuid) (now : Timestamp) :
    (created id profileIdA profileIdB now).Nudging settings where
  fits := by
    intro call mem
    cases mem
  single := by simp [created, announcing, room]
  due := by simp [created, announcing]

/-- Without new activity the nudges of a spell are used up. -/
theorem Nudging.spent_step (h : s.Nudging settings) {e : Event}
    (right : s.nudgesRight settings e = true) (silent : s.storesActivity e = false) :
    (s.step settings e).spent ≤ s.spent := by
  have stepped := step_stepped settings s e
  generalize s.step settings e = s' at stepped ⊢
  cases stepped with
  | quiet row_eq now_le published_eq calls =>
      simp only [spent, CollabWorld.nudges, room, row_eq, published_eq, announcing_quiet calls]
      exact Nat.le_refl _
  | @advance index call outside found =>
      have fits := h.fits _ (List.mem_of_getElem? found)
      have turn := @spent_turn settings s call outside s.held fits fun change notices same db =>
        ⟨commitsRight_of_nudgesRight right found same db, fun activityAt => by
          rintro rfl
          simp [storesActivity, found, same, db] at silent⟩
      have total := announcing_advance found
        (callStep settings outside s.held call.operation call.phase s.world).2
        (callStep settings outside s.held call.operation call.phase s.world).1
      simp only [spent]
      omega

theorem activity_of_storesActivity {index : Nat}
    (stores : s.storesActivity (.advance index outside) = true)
    (found : s.calls[index]? = some call) :
    ∃ activityAt notices, call.phase = .commit (.activity activityAt) notices ∧
      outside.db = true := by
  simp only [storesActivity, found, Option.any_some] at stores
  split at stores
  · rename_i activityAt notices committing
    exact ⟨activityAt, notices, committing, stores⟩
  · cases stores

theorem nudges_activity {activityAt : Timestamp} {notices : List Notice}
    (fits : call.phase.NudgesFit) (committing : call.phase = .commit (.activity activityAt) notices)
    (settings : CollabSettings) (outside : Outside) (held : Bool) (w : CollabWorld) :
    (callStep settings outside held call.operation call.phase w).1.nudges = 0 := by
  rw [committing] at fits ⊢
  simp only [callStep]
  split
  · exact fits
  · rfl

theorem Nudging.quiet (h : s.Nudging settings) {s' : CollabState}
    (row_eq : s'.world.row = s.world.row) (now_le : s.world.now ≤ s'.world.now)
    (calls : s'.calls = s.calls ∨ ∃ operation, s'.calls = s.calls ++ [⟨operation, .load⟩]) :
    s'.Nudging settings := by
  have announcing := announcing_quiet calls
  constructor
  · rcases calls with same | ⟨operation, more⟩
    · rw [same]
      exact h.fits
    · rw [more]
      exact forall_mem_concat trivial h.fits
  · simp only [announcing, room, row_eq]
    exact h.single
  · rw [announcing]
    intro pending
    obtain ⟨active, stored, inactive⟩ := CollabWorld.nudgeDue_iff.1 (h.due pending)
    rw [CollabWorld.nudgeDue_iff, row_eq]
    exact ⟨active, stored, Int.lt_of_lt_of_le inactive (Int.sub_le_sub_right now_le _)⟩

/-- An await leaves at most one nudge to be announced: it spends one, or stores activity when
none is on its way. -/
theorem Nudging.single_advance (h : s.Nudging settings) {index : Nat}
    (found : s.calls[index]? = some call)
    (right : s.nudgesRight settings (.advance index outside) = true)
    (spent : s.storesActivity (.advance index outside) = false →
      (s.step settings (.advance index outside)).spent ≤ s.spent)
    (stepped : s.step settings (.advance index outside) =
      { world := (callStep settings outside s.held call.operation call.phase s.world).2
        calls := s.calls.set index
          { call with
            phase := (callStep settings outside s.held call.operation call.phase s.world).1 } }) :
    (s.step settings (.advance index outside)).announcing +
      room (s.step settings (.advance index outside)).world ≤ 1 := by
  have fits := h.fits call (List.mem_of_getElem? found)
  have total := announcing_advance found
    (callStep settings outside s.held call.operation call.phase s.world).2
    (callStep settings outside s.held call.operation call.phase s.world).1
  have moved := callStep_moved settings outside s.held call.operation call.phase s.world
  rw [stepped] at spent ⊢
  dsimp only
  cases stores : s.storesActivity (.advance index outside) with
  | false =>
      have less := spent stores
      have before := h.single
      have grows := moved.nudges.1
      simp only [CollabState.spent] at less
      omega
  | true =>
      obtain ⟨activityAt, notices, committing, db⟩ := activity_of_storesActivity stores found
      have none := commitsRight_of_nudgesRight right found committing db
      have silent := nudges_activity fits committing settings outside s.held s.world
      have free := room_le_one
        (callStep settings outside s.held call.operation call.phase s.world).2
      simp only [commitsRight, beq_iff_eq] at none
      omega

theorem Nudging.step (h : s.Nudging settings) (e : Event)
    (right : s.nudgesRight settings e = true) : (s.step settings e).Nudging settings := by
  have stepped := step_stepped settings s e
  have spent := h.spent_step right
  generalize same : s.step settings e = s' at stepped spent ⊢
  cases stepped with
  | quiet row_eq now_le published_eq calls => exact h.quiet row_eq now_le calls
  | @advance index call outside found =>
      have mem := List.mem_of_getElem? found
      have fits := h.fits call mem
      have total := announcing_advance found
        (callStep settings outside s.held call.operation call.phase s.world).2
        (callStep settings outside s.held call.operation call.phase s.world).1
      have single := h.single_advance found right (by rwa [same]) same
      rw [same] at single
      refine ⟨forall_mem_set (callStep_nudgesFit fits) h.fits, single, fun pending => ?_⟩
      refine due_turn fits (fun change notices same db => ?_) h.due (nudges_le_announcing mem) ?_
      · exact commitsRight_of_nudgesRight right found same db
      · omega

/-- What is published was about to be announced, and due. -/
theorem Nudging.due_of_published (h : s.Nudging settings) {e : Event}
    (more : s.world.nudges < (s.step settings e).world.nudges) :
    s.world.nudgeDue settings = true := by
  have stepped := step_stepped settings s e
  generalize s.step settings e = s' at stepped more
  cases stepped with
  | quiet row_eq now_le published_eq calls =>
      simp [CollabWorld.nudges, published_eq] at more
  | advance outside found =>
      have moved := callStep_moved settings outside s.held
      have pending := (moved _ _ s.world).nudges.2 more
      exact h.due (Nat.lt_of_lt_of_le pending (nudges_le_announcing (List.mem_of_getElem? found)))

def fortnight : Nat := 14 * 24 * 3600 * 1000000

/-- The call at `index` takes so many steps. -/
def goes (index steps : Nat) : List Event := List.replicate steps (.advance index {})

/-- A collaboration that has been inactive, and the scan that finds it. -/
def scanned : List Event := .tick (fortnight + 1) :: .begin .inactivityCheck :: goes 0 3

/-- Two tasks, of two scans, that have both loaded the row. -/
def twoTasks : List Event :=
  scanned ++ .begin .inactivityCheck :: goes 1 3 ++ .deliver 0 false :: .deliver 0 false ::
    goes 2 1 ++ goes 3 1

/-- A message after the scan, and the task up to its announcement. -/
def messageAfter : List Event :=
  scanned ++ .begin (.updateLastActivity (fortnight + 1)) :: goes 1 4 ++
    .deliver 0 false :: goes 2 3

/-- `anna` completes the collaboration after the scan. -/
def completedAfter : List Event :=
  scanned ++ .begin (.request anna (.transitionStatus .completed none)) :: goes 1 5 ++
    .deliver 0 false :: goes 2 3

end CollabState

end ColabPlatform.Collabs
