import ColabPlatform.Moderation.Cases

/-!
# Moderation service: the lifecycle of a case

One holder, one action, and a terminal status that stays: what the endpoints
keep under every interleaving whose commits find the case as they should.
Nothing in the code makes them find it so; a release after the action is enough
for a second one.
-/

namespace ColabPlatform.Moderation

open Foundation

/-- What is wanted of a case in every state. -/
structure Orderly (s : CaseState) : Prop where
  one_holder : ∀ holder ∈ s.holders, ∀ other ∈ s.holders, holder = other
  one_action : s.recorded.length ≤ 1
  one_propagated : s.dispatched.length ≤ 1
  entitled : ∀ recorded ∈ s.recorded, recorded.byHolder ∨ recorded.onEscalated

/-- The state in which a commit leaves the case in order. -/
def CommitsInTurn (s : CaseState) (moderator : String) (case : ModerationCase) :
    Operation → Prop
  | .claim => s.row.status.terminal = false ∧ ∀ holder ∈ s.holders, holder = moderator
  | .release => s.row.status.terminal = true → case.status = .opened
  | .takeAction _ =>
      s.row.status.terminal = false ∧ (moderator ∈ s.holders ∨ s.row.status = .escalated)
  | .escalate => s.row.status.terminal = true → case.status = .escalated

instance (s : CaseState) (moderator : String) (case : ModerationCase) (operation : Operation) :
    Decidable (CommitsInTurn s moderator case operation) := by
  cases operation <;> unfold CommitsInTurn <;> infer_instance

/--
A claim is committed while the case is not decided and no other moderator holds
it, an action while the case is not decided and its moderator holds it or it is
escalated, and what else is committed does not write the status of a decided case.
-/
def InTurn (s : CaseState) : Event → Prop
  | .arrive _ | .fail _ => True
  | .advance index _ =>
      match s.calls[index]? with
      | some { request, phase := .checked moderator case } =>
          CommitsInTurn s moderator case request.operation
      | _ => True

instance (s : CaseState) : DecidablePred (InTurn s) := fun e => by
  unfold InTurn
  split
  · infer_instance
  · infer_instance
  · split <;> infer_instance

/-! ## What a commit writes -/

theorem status_takeAction {moderator : String} {case : ModerationCase}
    {body : CaseActionRequest}
    (checked : (Operation.takeAction body).check moderator case = .ok ()) (now : Int)
    (stored : ModerationCase) :
    (case.update ((Operation.takeAction body).assign moderator now case) stored).status.terminal =
      true := by
  have undecided : case.status ∈ [.inReview, .escalated] := by
    by_contra other
    simp [Operation.check, other] at checked
  have moves : (if body.actionType = .dismiss then CaseStatus.dismissed else .actioned) ≠
      case.status := by
    simp only [List.mem_cons, List.not_mem_nil, or_false] at undecided
    rcases undecided with loaded | loaded <;> rw [loaded] <;> split <;> simp
  simp only [ModerationCase.update, Operation.assign, written_of_ne moves]
  split <;> rfl

/-- A commit in its turn leaves a decided case decided as it was. -/
theorem status_update_of_terminal {s : CaseState} {moderator : String} {case : ModerationCase}
    {operation : Operation} (inTurn : CommitsInTurn s moderator case operation)
    (decided : s.row.status.terminal = true) (now : Int) :
    (case.update (operation.assign moderator now case) s.row).status = s.row.status := by
  cases operation with
  | claim => simp [CommitsInTurn, decided] at inTurn
  | takeAction body => simp [CommitsInTurn, decided] at inTurn
  | release =>
      have loaded := inTurn decided
      simp [ModerationCase.update, Operation.assign, written, loaded]
  | escalate =>
      have loaded := inTurn decided
      simp [ModerationCase.update, Operation.assign, written, loaded]

/-! ## What the steps keep -/

def Call.dispatching (call : Call) : Bool :=
  match call.phase with
  | .dispatching _ => true
  | _ => false

/-- A call that is about to commit has passed the checks on what it has loaded. -/
def Call.Sound (call : Call) : Prop :=
  ∀ moderator case, call.phase = .checked moderator case →
    call.request.operation.check moderator case = .ok ()

structure Kept (s : CaseState) : Prop where
  orderly : Orderly s
  sound : ∀ call ∈ s.calls, call.Sound
  decided : s.recorded ≠ [] → s.row.status.terminal = true
  one_dispatching : AtMostOne Call.dispatching s.calls
  undispatched : ∀ call ∈ s.calls, call.dispatching = true → s.recorded ≠ [] ∧ s.dispatched = []
  recorded_first : s.dispatched ≠ [] → s.recorded ≠ []

namespace Kept

variable {s : CaseState} {index : Nat} {call : Call}

theorem initial (forcedHuman : Bool) (owner : String) :
    Kept (CaseState.initial forcedHuman owner) where
  orderly := ⟨by simp [CaseState.initial], by simp [CaseState.initial],
    by simp [CaseState.initial], by simp [CaseState.initial]⟩
  sound := by simp [CaseState.initial]
  decided := by simp [CaseState.initial]
  one_dispatching := .nil
  undispatched := by simp [CaseState.initial]
  recorded_first := by simp [CaseState.initial]

theorem arrive (h : Kept s) (request : Request) :
    Kept { s with calls := s.calls ++ [⟨request, .received⟩] } where
  orderly := ⟨h.orderly.one_holder, h.orderly.one_action, h.orderly.one_propagated,
    h.orderly.entitled⟩
  sound := forall_mem_concat (by intro moderator case phase; cases phase) h.sound
  decided := h.decided
  one_dispatching := h.one_dispatching.concat rfl
  undispatched := forall_mem_concat (by intro busy; cases busy) h.undispatched
  recorded_first := h.recorded_first

/-- A call goes on, and a row and holders are stored that keep the case in order. -/
theorem goOn (h : Kept s) (found : s.calls[index]? = some call) {new : Call}
    (sound : new.Sound) (idle : new.dispatching = false) {row : ModerationCase}
    (decided : s.row.status.terminal = true → row.status.terminal = true)
    {holders : List String} (one : ∀ a ∈ holders, ∀ b ∈ holders, a = b) :
    Kept { s with row := row, holders := holders, calls := s.calls.set index new } where
  orderly := ⟨one, h.orderly.one_action, h.orderly.one_propagated, h.orderly.entitled⟩
  sound := forall_mem_set sound h.sound
  decided := fun recorded => decided (h.decided recorded)
  one_dispatching := h.one_dispatching.set found (by simp [idle])
  undispatched := forall_mem_set (by simp [idle]) h.undispatched
  recorded_first := h.recorded_first

theorem setCall (h : Kept s) (found : s.calls[index]? = some call) {new : Call}
    (sound : new.Sound) (idle : new.dispatching = false) :
    Kept { s with calls := s.calls.set index new } :=
  h.goOn found sound idle id h.orderly.one_holder

theorem recorded_eq_nil (h : Kept s) (undecided : s.row.status.terminal = false) :
    s.recorded = [] := by
  by_contra recorded
  simp [h.decided recorded] at undecided

theorem takeAction (h : Kept s) (found : s.calls[index]? = some call) {moderator : String}
    {case : ModerationCase} {body : CaseActionRequest}
    (checked : (Operation.takeAction body).check moderator case = .ok ())
    (inTurn : CommitsInTurn s moderator case (.takeAction body)) (now : Int) :
    let (phase, s') := commit moderator case now s (.takeAction body)
    Kept { s' with calls := s'.calls.set index { call with phase } } := by
  obtain ⟨undecided, entitled⟩ := inTurn
  have none := h.recorded_eq_nil undecided
  have nothing : s.dispatched = [] := by
    by_contra dispatched
    exact h.recorded_first dispatched none
  have idle : ∀ c ∈ s.calls, c.dispatching = false := by
    intro c mem
    by_contra busy
    exact (h.undispatched c mem (by simpa using busy)).1 none
  refine ⟨⟨h.orderly.one_holder, by simp [none], by simp [nothing], ?_⟩, ?_, ?_,
    ?_, ?_, ?_⟩
  · simpa [commit, none] using entitled
  · exact forall_mem_set (by intro moderator case phase; cases phase) h.sound
  · exact fun _ => status_takeAction checked now s.row
  · exact h.one_dispatching.set found fun _ => Or.inr idle
  · refine forall_mem_set (fun _ => ⟨by simp, nothing⟩) ?_
    intro c mem busy
    simp [idle c mem] at busy
  · exact fun dispatched => absurd nothing dispatched

theorem dispatch (h : Kept s) (found : s.calls[index]? = some call) {action : Nat}
    (phase : call.phase = .dispatching action) :
    Kept { s with
      dispatched := s.dispatched ++ [action]
      calls := s.calls.set index { call with phase := .finished (.ok ()) } } := by
  have busy : call.dispatching = true := by simp [Call.dispatching, phase]
  obtain ⟨recorded, nothing⟩ := h.undispatched call (List.mem_of_getElem? found) busy
  have idle : ∀ c ∈ s.calls.set index { call with phase := .finished (.ok ()) },
      c.dispatching = false := by
    intro c mem
    rcases mem_set_cases mem with rfl | ⟨j, apart, atJ⟩
    · rfl
    · exact h.one_dispatching.others found busy apart atJ
  refine ⟨⟨h.orderly.one_holder, h.orderly.one_action, by simp [nothing], h.orderly.entitled⟩,
    ?_, h.decided, ?_, ?_, fun _ => recorded⟩
  · exact forall_mem_set (by intro moderator case phase; cases phase) h.sound
  · exact h.one_dispatching.set found (by simp [Call.dispatching])
  · intro c mem dispatching
    simp [idle c mem] at dispatching

/-- A commit in its turn. -/
theorem commits (h : Kept s) (found : s.calls[index]? = some call) {moderator : String}
    {case : ModerationCase} (phase : call.phase = .checked moderator case)
    (inTurn : CommitsInTurn s moderator case call.request.operation) (now : Int) :
    let (phase, s') := commit moderator case now s call.request.operation
    Kept { s' with calls := s'.calls.set index { call with phase } } := by
  have checked := h.sound call (List.mem_of_getElem? found) moderator case phase
  have decided : s.row.status.terminal = true →
      (case.update (call.request.operation.assign moderator now case) s.row).status.terminal =
        true := by
    intro terminal
    rw [status_update_of_terminal inTurn terminal now]
    exact terminal
  have sound : ∀ result, Call.Sound { call with phase := .finished result } := by
    intro result moderator case phase
    cases phase
  cases operation : call.request.operation with
  | claim =>
      rw [operation] at decided inTurn
      refine h.goOn found (sound _) rfl decided ?_
      intro a memA b memB
      rw [List.mem_insert_iff] at memA memB
      rw [memA.elim id (inTurn.2 a), memB.elim id (inTurn.2 b)]
  | release =>
      rw [operation] at decided
      refine h.goOn found (sound _) rfl decided ?_
      intro a memA b memB
      exact h.orderly.one_holder a (List.mem_of_mem_filter memA) b (List.mem_of_mem_filter memB)
  | takeAction body =>
      rw [operation] at checked inTurn
      exact h.takeAction found checked inTurn now
  | escalate =>
      rw [operation] at decided
      exact h.goOn found (sound _) rfl decided h.orderly.one_holder

theorem advance (h : Kept s) (found : s.calls[index]? = some call) (now : Int)
    (inTurn : InTurn s (.advance index now)) :
    let (phase, s') := Moderation.advance now call s
    Kept { s' with calls := s'.calls.set index { call with phase } } := by
  have finished : ∀ result, Call.Sound { call with phase := .finished result } := by
    intro result moderator case phase
    cases phase
  unfold Moderation.advance
  cases phase : call.phase with
  | received =>
      cases call.request.operation.validate with
      | error refused => exact h.setCall found (finished _) rfl
      | ok _ =>
          cases requireModRole call.request.role call.request.userId with
          | error refused => exact h.setCall found (finished _) rfl
          | ok moderator =>
              exact h.setCall found (by intro moderator case phase; cases phase) rfl
  | loaded moderator case =>
      cases checked : call.request.operation.check moderator case with
      | error refused => simpa [checked] using h.setCall found (finished _) rfl
      | ok _ =>
          have sound : Call.Sound { call with phase := .checked moderator case } := by
            intro moderator case phase
            cases phase
            exact checked
          simpa [checked] using h.setCall found sound rfl
  | checked moderator case =>
      obtain ⟨request, _⟩ := call
      subst phase
      simp only [InTurn, found] at inTurn
      exact h.commits found rfl inTurn now
  | dispatching action => exact h.dispatch found phase
  | finished result => exact h.setCall found (finished _) rfl
  | raised => exact h.setCall found (by intro moderator case phase; cases phase) rfl

theorem step (h : Kept s) (e : Event) (inTurn : InTurn s e) : Kept (Moderation.step s e) := by
  cases e with
  | arrive request => exact h.arrive request
  | advance index now =>
      cases found : s.calls[index]? with
      | none => simpa [Moderation.step, found] using h
      | some call => simpa [Moderation.step, found] using h.advance found now inTurn
  | fail index =>
      cases found : s.calls[index]? with
      | none => simpa [Moderation.step, found] using h
      | some call =>
          have idle : ∀ phase : Phase, phase.failed = .raised ∨ ∃ r, phase.failed = .finished r := by
            intro phase
            cases phase <;> simp [Phase.failed]
          have sound : Call.Sound { call with phase := call.phase.failed } := by
            intro moderator case phase
            rcases idle call.phase with failed | ⟨r, failed⟩ <;> simp [failed] at phase
          have quiet : Call.dispatching { call with phase := call.phase.failed } = false := by
            rcases idle call.phase with failed | ⟨r, failed⟩ <;> simp [Call.dispatching, failed]
          simpa [Moderation.step, found] using h.setCall found sound quiet

end Kept

/-! ## The status of a decided case -/

theorem status_step {s : CaseState} {e : Event} (inTurn : InTurn s e)
    (decided : s.row.status.terminal = true) : (step s e).row.status = s.row.status := by
  cases e with
  | arrive request => rfl
  | fail index =>
      cases found : s.calls[index]? with
      | none => simp [step, found]
      | some call => simp [step, found]
  | advance index now =>
      cases found : s.calls[index]? with
      | none => simp [step, found]
      | some call =>
          obtain ⟨request, phase⟩ := call
          cases phase with
          | checked moderator case =>
              simp only [InTurn, found] at inTurn
              have kept := status_update_of_terminal inTurn decided now
              simp only [step, found, advance]
              cases operation : request.operation <;>
                simpa [commit, operation] using kept
          | received =>
              simp only [step, found, advance]
              cases request.operation.validate with
              | error refused => rfl
              | ok _ => cases requireModRole request.role request.userId <;> rfl
          | loaded moderator case =>
              simp only [step, found, advance]
              cases request.operation.check moderator case <;> rfl
          | dispatching action => simp [step, found, advance]
          | finished result => simp [step, found, advance]
          | raised => simp [step, found, advance]

theorem status_run {s : CaseState} {events : List Event} (inTurn : Guarded step InTurn s events)
    (decided : s.row.status.terminal = true) :
    (runFrom step s events).row.status = s.row.status := by
  induction events generalizing s with
  | nil => rfl
  | cons e events ih =>
      have kept := status_step inTurn.1 decided
      rw [runFrom_cons, ih inTurn.2 (kept ▸ decided), kept]

def warning : Operation :=
  .takeAction ⟨.warn, "insults in the chat", [], none⟩

/-- A call of the moderator from its arrival to its end; `index` is its number. -/
def wholeCall (moderator : String) (index : Nat) (operation : Operation) : List Event :=
  .arrive ⟨"mod", some moderator, operation⟩ ::
    [.advance index 10, .advance index 11, .advance index 12, .advance index 13]

def claimActRelease : List Event :=
  wholeCall "ana" 0 .claim ++ wholeCall "ana" 1 warning ++ wholeCall "ana" 2 .release

end ColabPlatform.Moderation
