import ColabPlatform.Billing.HandlerSpecs
import ColabPlatform.Foundation.Run

/-!
# The dunning timeline

A failed payment opens a case, a tick moves every case on whose delay is over,
a paid invoice ends it.  The delay counts from the last attempt, which every
move sets anew; that a case is as old as the label of its state is the
invariant `OnTime`, which no late tick breaks.
-/

namespace ColabPlatform.Billing

open Foundation Foundation.Program

/-! ## The tick -/

/-- Microseconds. -/
def days (n : Nat) : Int := n * 86400000000

/-- `STATE_DELAYS` -/
def stateDelay : DunningState → Option Int
  | .day0 => some (days 3)
  | .day3 => some (days 4)
  | .day7 => some (days 3)
  | .day10Canceled => some (days 20)
  | .day30GraceExpired => none
  | .recovered => none

inductive DunningMove where
  | retryCharge
  | cancelSubscription
  | expireGrace
  deriving DecidableEq, Repr

structure DunningAction where
  caseId : Uuid
  userId : Uuid
  subscriptionId : Uuid
  oldState : DunningState
  newState : DunningState
  action : DunningMove
  deriving DecidableEq, Repr

namespace DunningState

def next : DunningState → Option (DunningState × DunningMove)
  | .day0 => some (.day3, .retryCharge)
  | .day3 => some (.day7, .retryCharge)
  | .day7 => some (.day10Canceled, .cancelSubscription)
  | .day10Canceled => some (.day30GraceExpired, .expireGrace)
  | .day30GraceExpired => none
  | .recovered => none

/-- The `N` of a state `dayN`. -/
def label : DunningState → Option Nat
  | .day0 => some 0
  | .day3 => some 3
  | .day7 => some 7
  | .day10Canceled => some 10
  | .day30GraceExpired => some 30
  | .recovered => none

end DunningState

/-- The body of the loop over the open cases; `none` is `continue`. -/
def DunningCase.advance (now : Timestamp) (row : DunningCase) :
    Option (DunningCase × DunningAction) := do
  let delay ← stateDelay row.state
  if now < row.lastAttemptAt.getD row.openedAt + delay then none
  else
    let (state, action) ← row.state.next
    return ({ row with state, lastAttemptAt := some now },
      { caseId := row.id, userId := row.userId, subscriptionId := row.subscriptionId,
        oldState := row.state, newState := state, action })

/-- A case after the loop.  The cases in a terminal state are not selected. -/
def DunningCase.ticked (now : Timestamp) (row : DunningCase) : DunningCase :=
  if row.state.terminal then row else ((row.advance now).map Prod.fst).getD row

theorem DunningCase.advance_id {now : Timestamp} {row row' : DunningCase} {action : DunningAction}
    (h : row.advance now = some (row', action)) : row'.id = row.id := by
  unfold advance at h
  cases state : row.state <;> grind [stateDelay, DunningState.next]

@[simp] theorem DunningCase.ticked_id (now : Timestamp) (row : DunningCase) :
    (row.ticked now).id = row.id := by
  unfold ticked
  split
  · rfl
  · cases moved : row.advance now with
    | none => rfl
    | some result => exact advance_id moved

/-- The flush, which updates each changed object by its primary key. -/
def Db.tickDunning (now : Timestamp) (db : Db) : Db :=
  { db with
    dunningCases := db.dunningCases.modifyAll (DunningCase.ticked now)
      (DunningCase.ticked_id now) fun _ _ h => h }

def advanceDunningCases (now : Timestamp) : BillingM (List DunningAction) := do
  let cases ← query fun db => db.dunningCases.rows.filter fun row => ¬ row.state.terminal
  let actions := cases.filterMap fun row => (row.advance now).map Prod.snd
  write fun db => .ok (db.tickDunning now)
  return actions

/-! ## Calls, one at a time -/

inductive DunningRequest where
  | openCase (userId subscriptionId : Uuid) (draws : Draws)
  | recover (subscriptionId : Uuid) (draws : Draws)
  | tick

/-- `elapsed` is the time since the call before. -/
structure DunningCall where
  elapsed : Nat
  request : DunningRequest

structure DunningWorld where
  db : Db
  now : Timestamp

namespace DunningWorld

def answer (db : Db) (now : Timestamp) : DunningRequest → Db
  | .openCase userId subscriptionId draws =>
      ((openDunningCase userId subscriptionId { draws with now }).atomically false db).2
  | .recover subscriptionId draws =>
      ((markRecovered subscriptionId { draws with now }).atomically false db).2
  | .tick => ((advanceDunningCases now).atomically false db).2

def step (w : DunningWorld) (call : DunningCall) : DunningWorld :=
  ⟨answer w.db (w.now + call.elapsed) call.request, w.now + call.elapsed⟩

abbrev after (w : DunningWorld) (calls : List DunningCall) : DunningWorld :=
  runFrom step w calls

def caseOf (id : Uuid) (w : DunningWorld) : Option DunningCase :=
  w.db.dunningCases.lookup id

/-- The states of a case at the points of a run at which it exists. -/
def statesOf (id : Uuid) : DunningWorld → List DunningCall → List DunningState
  | w, [] => ((w.caseOf id).map DunningCase.state).toList
  | w, call :: calls =>
      ((w.caseOf id).map DunningCase.state).toList ++ statesOf id (w.step call) calls

end DunningWorld

/-- `state'` comes after `state` in a history of states. -/
def DunningState.Follows (state state' : DunningState) : Prop :=
  state' = state ∨ state.next.map Prod.fst = some state' ∨
    state.terminal = false ∧ state' = .recovered

/-- The states of every case that a run from `start` opens, and their times. -/
structure KeepsTimeline (start : DunningWorld) : Prop where
  in_order : ∀ calls id, (start.statesOf id calls).head? ∈ [none, some DunningState.day0] ∧
    (start.statesOf id calls).IsChain DunningState.Follows
  one_at_a_time : ∀ calls elapsed id row, (start.after calls).caseOf id = some row →
    ∃ row', (start.after (calls ++ [⟨elapsed, .tick⟩])).caseOf id = some row' ∧
      (row' = row ∨ row.state.next.map Prod.fst = some row'.state)
  not_early : ∀ calls call later id row row' n, (start.after calls).caseOf id = none →
    (start.after (calls ++ [call])).caseOf id = some row →
    (start.after (calls ++ call :: later)).caseOf id = some row' → row'.state.label = some n →
    (start.after (calls ++ [call])).now + days n ≤ (start.after (calls ++ call :: later)).now
  one_open : ∀ calls subscriptionId,
    ((start.after calls).db.openDunningCases subscriptionId).length ≤ 1
  closed : ∀ calls later id row, (start.after calls).caseOf id = some row →
    row.state.terminal → (start.after (calls ++ later)).caseOf id = some row

/-! ## What a call does to one case -/

/-- The case that `open_dunning_case` adds at `now`. -/
def DunningCase.opened (userId subscriptionId : Uuid) (draws : Draws) (now : Timestamp) :
    DunningCase :=
  { id := draws.dunningCaseId, userId, subscriptionId, openedAt := now, state := .day0,
    lastAttemptAt := some now, recoveredAt := none, closedAt := none }

/-- A case is only opened for a subscription that has no open one in `db`. -/
inductive CaseStep (now : Timestamp) (db : Db) : DunningRequest → Option DunningCase →
    Option DunningCase → Prop
  | same (request : DunningRequest) (row : Option DunningCase) : CaseStep now db request row row
  | opened (userId subscriptionId : Uuid) (draws : Draws)
      (none_open : db.openDunningCases subscriptionId = []) :
      CaseStep now db (.openCase userId subscriptionId draws) none
        (some (.opened userId subscriptionId draws now))
  | recovered (subscriptionId : Uuid) (draws : Draws) (row : DunningCase)
      (going : row.state.terminal = false) :
      CaseStep now db (.recover subscriptionId draws) (some row)
        (some { row with state := .recovered, recoveredAt := some now, closedAt := some now })
  | ticked (row : DunningCase) : CaseStep now db .tick (some row) (some (row.ticked now))

def Worked (now : Timestamp) (request : DunningRequest) (db db' : Db) : Prop :=
  ∀ id, CaseStep now db request (db.dunningCases.lookup id) (db'.dunningCases.lookup id)

theorem openDunningCase_worked (userId subscriptionId : Uuid) (draws : Draws) (now : Timestamp)
    (db : Db) :
    Worked now (.openCase userId subscriptionId draws) db
      (DunningWorld.answer db now (.openCase userId subscriptionId draws)) := by
  refine atomically_preserves (fun id => .same _ _) ?_
  unfold openDunningCase
  refine transacts_bind (transacts_query fun _ => ?_)
  refine transacts_bind (transacts_scalarOneOrNone ?_ ?_)
  · intro none_open
    refine transacts_bind (transacts_write fun _ db' inserted => ?_)
    obtain ⟨cases, added, rfl⟩ := map_stored_eq_ok inserted
    have stored : db.dunningCases.insert? (.opened userId subscriptionId draws now) =
      some cases := added
    refine transacts_pure fun id => ?_
    change CaseStep now db _ (db.dunningCases.lookup id) (cases.lookup id)
    rw [Table.puts_insert stored id]
    by_cases new : (DunningCase.opened userId subscriptionId draws now).id = id
    · rw [if_pos new, ← new, Table.lookup_of_insert? stored]
      exact .opened userId subscriptionId draws none_open
    · rw [if_neg new]
      exact .same _ _
  · intro row _
    exact transacts_pure fun id => .same _ _

theorem markRecovered_worked (subscriptionId : Uuid) (draws : Draws) (now : Timestamp) (db : Db) :
    Worked now (.recover subscriptionId draws) db
      (DunningWorld.answer db now (.recover subscriptionId draws)) := by
  refine atomically_preserves (fun id => .same _ _) ?_
  unfold markRecovered
  refine transacts_bind (transacts_query fun _ => ?_)
  refine transacts_bind (transacts_scalarOneOrNone ?_ ?_)
  · intro _
    exact transacts_pure fun id => .same _ _
  · intro row found
    refine transacts_bind (transacts_write fun _ db' updated => ?_)
    cases updated
    rw [Session.working_start] at found
    obtain ⟨stored, selected⟩ : row ∈ db.dunningCases.rows ∧ _ :=
      List.mem_filter.1 (found ▸ List.mem_singleton_self row)
    have going : row.state.terminal = false := by simpa using (of_decide_eq_true selected).2
    refine transacts_pure fun id => ?_
    change CaseStep now db _ (db.dunningCases.lookup id) (Table.lookup (Table.modify ..) id)
    rw [Table.lookup_modify, Session.working_start]
    by_cases same : row.id = id
    · rw [if_pos same, ← same, Table.lookup_of_mem stored]
      exact .recovered subscriptionId draws row going
    · rw [if_neg same]
      exact .same _ _

theorem advanceDunningCases_worked (now : Timestamp) (db : Db) :
    Worked now .tick db (DunningWorld.answer db now .tick) := by
  refine atomically_preserves (fun id => .same _ _) ?_
  unfold advanceDunningCases
  refine transacts_bind (transacts_query fun _ => ?_)
  refine transacts_bind (transacts_write fun _ db' updated => ?_)
  cases updated
  refine transacts_pure fun id => ?_
  change CaseStep now db .tick (db.dunningCases.lookup id)
    ((db.tickDunning now).dunningCases.lookup id)
  rw [Db.tickDunning, Table.lookup_modifyAll]
  cases db.dunningCases.lookup id with
  | none => exact .same _ _
  | some row => exact .ticked row

theorem answer_worked (request : DunningRequest) (now : Timestamp) (db : Db) :
    Worked now request db (DunningWorld.answer db now request) := by
  cases request with
  | openCase userId subscriptionId draws =>
      exact openDunningCase_worked userId subscriptionId draws now db
  | recover subscriptionId draws => exact markRecovered_worked subscriptionId draws now db
  | tick => exact advanceDunningCases_worked now db

theorem DunningWorld.step_worked (w : DunningWorld) (call : DunningCall) (id : Uuid) :
    CaseStep (w.step call).now w.db call.request (w.caseOf id) ((w.step call).caseOf id) :=
  answer_worked call.request _ w.db id

/-! ## One case -/

/-- A tick leaves a case, or moves it on when its delay is over. -/
theorem DunningCase.ticked_cases (now : Timestamp) (row : DunningCase) :
    row.ticked now = row ∨
      ∃ delay state action, stateDelay row.state = some delay ∧
        row.state.next = some (state, action) ∧
        row.lastAttemptAt.getD row.openedAt + delay ≤ now ∧
        row.ticked now = { row with state, lastAttemptAt := some now } := by
  unfold ticked advance
  cases state : row.state <;> grind [stateDelay, DunningState.next]

/-- The delay of a state is the time between its label and that of the next. -/
theorem DunningState.label_next {state state' : DunningState} {action : DunningMove}
    {delay : Int} {m : Nat} (delayed : stateDelay state = some delay)
    (moves : state.next = some (state', action)) (labelled : state'.label = some m) :
    ∃ n, state.label = some n ∧ days n + delay = days m := by
  cases state <;> cases moves <;> cases delayed <;> cases labelled <;> exact ⟨_, rfl, rfl⟩

/-- A case is as old as its label, and was when it was last attempted. -/
def DunningCase.OnTime (now : Timestamp) (row : DunningCase) : Prop :=
  ∃ last, row.lastAttemptAt = some last ∧ last ≤ now ∧
    ∀ n, row.state.label = some n → row.openedAt + days n ≤ last

theorem DunningCase.OnTime.ticked {now before : Timestamp} {row : DunningCase}
    (h : row.OnTime before) (later : before ≤ now) : (row.ticked now).OnTime now := by
  obtain ⟨last, attempted, past, aged⟩ := h
  rcases row.ticked_cases now with same | ⟨delay, state, action, delayed, moves, elapsed, moved⟩
  · rw [same]
    exact ⟨last, attempted, past.trans later, aged⟩
  · rw [moved]
    refine ⟨now, rfl, le_rfl, fun m labelled => ?_⟩
    obtain ⟨n, label, sum⟩ := DunningState.label_next delayed moves labelled
    have since : row.openedAt + days n ≤ last := aged n label
    rw [attempted, Option.getD_some] at elapsed
    calc row.openedAt + days m = row.openedAt + days n + delay := by rw [← sum, Int.add_assoc]
      _ ≤ last + delay := Int.add_le_add_right since delay
      _ ≤ now := elapsed

/-! ## Every case of a world -/

/-- Every case is on time, and no subscription has two that are open. -/
structure DunningWorld.Sound (w : DunningWorld) : Prop where
  on_time : ∀ id row, w.caseOf id = some row → row.OnTime w.now
  one_open : ∀ id id' row row', w.caseOf id = some row → w.caseOf id' = some row' →
    row.state.terminal = false → row'.state.terminal = false →
    row.subscriptionId = row'.subscriptionId → id = id'

/-- What a step leaves as it was in a case, and where the state may go. -/
structure DunningCase.Goes (row row' : DunningCase) : Prop where
  openedAt : row'.openedAt = row.openedAt
  subscriptionId : row'.subscriptionId = row.subscriptionId
  state : row.state.Follows row'.state
  closed : row.state.terminal = true → row' = row

theorem CaseStep.goes {now : Timestamp} {db : Db} {request : DunningRequest} {row : DunningCase}
    {case' : Option DunningCase} (h : CaseStep now db request (some row) case') :
    ∃ row', case' = some row' ∧ row.Goes row' := by
  cases h with
  | same => exact ⟨row, rfl, rfl, rfl, Or.inl rfl, fun _ => rfl⟩
  | recovered subscriptionId draws _ going =>
      refine ⟨_, rfl, rfl, rfl, Or.inr (Or.inr ⟨going, rfl⟩), fun ended => ?_⟩
      rw [going] at ended
      cases ended
  | ticked =>
      refine ⟨_, rfl, ?_⟩
      rcases row.ticked_cases now with same | ⟨delay, state, action, delayed, moves, elapsed, moved⟩
      · rw [same]
        exact ⟨rfl, rfl, Or.inl rfl, fun _ => rfl⟩
      · rw [moved]
        refine ⟨rfl, rfl, Or.inr (Or.inl (by rw [moves]; rfl)), fun ended => ?_⟩
        cases state : row.state <;> rw [state] at ended moves <;> cases ended <;> cases moves

theorem CaseStep.on_time {now before : Timestamp} {db : Db} {request : DunningRequest}
    {old new : Option DunningCase} (h : CaseStep now db request old new)
    (sound : ∀ row, old = some row → row.OnTime before) (later : before ≤ now) :
    ∀ row, new = some row → row.OnTime now := by
  rintro row rfl
  cases h with
  | same =>
      obtain ⟨last, attempted, past, aged⟩ := sound row rfl
      exact ⟨last, attempted, past.trans later, aged⟩
  | opened userId subscriptionId draws none_open =>
      refine ⟨now, rfl, le_rfl, fun n labelled => ?_⟩
      cases labelled
      simp [DunningCase.opened, days]
  | recovered subscriptionId draws row going =>
      obtain ⟨last, attempted, past, aged⟩ := sound row rfl
      exact ⟨last, attempted, past.trans later, nofun⟩
  | ticked row => exact (sound row rfl).ticked later

/-- An open case was open before, or its subscription had none. -/
theorem CaseStep.open_cases {now : Timestamp} {db : Db} {request : DunningRequest}
    {old : Option DunningCase} {row' : DunningCase} (h : CaseStep now db request old (some row'))
    (going : row'.state.terminal = false) :
    (∃ row, old = some row ∧ row.state.terminal = false ∧
        row.subscriptionId = row'.subscriptionId) ∨
      ∃ userId draws, request = .openCase userId row'.subscriptionId draws ∧
        row'.id = draws.dunningCaseId ∧ db.openDunningCases row'.subscriptionId = [] := by
  cases old with
  | none =>
      cases h with
      | opened userId subscriptionId draws none_open =>
          exact Or.inr ⟨userId, draws, rfl, rfl, none_open⟩
  | some row =>
      obtain ⟨_, same, goes⟩ := h.goes
      cases same
      refine Or.inl ⟨row, rfl, ?_, goes.subscriptionId.symm⟩
      cases ended : row.state.terminal with
      | false => rfl
      | true =>
          rw [goes.closed ended, ended] at going
          cases going

theorem DunningWorld.caseOf_id {w : DunningWorld} {id : Uuid} {row : DunningCase}
    (h : w.caseOf id = some row) : row.id = id :=
  Table.key_of_lookup h

theorem DunningWorld.mem_open {w : DunningWorld} {id subscriptionId : Uuid} {row : DunningCase}
    (h : w.caseOf id = some row) (going : row.state.terminal = false)
    (paid : row.subscriptionId = subscriptionId) :
    row ∈ w.db.openDunningCases subscriptionId := by
  refine List.mem_filter.2 ⟨Table.mem_of_lookup h, ?_⟩
  simp [going, paid]

theorem DunningWorld.Sound.step {w : DunningWorld} (sound : w.Sound) (call : DunningCall) :
    (w.step call).Sound := by
  constructor
  · intro id row found
    have later : w.now ≤ (w.step call).now := Int.le_add_of_nonneg_right (Int.natCast_nonneg _)
    exact (w.step_worked call id).on_time (sound.on_time id) later row found
  · intro id id' row row' found found' going going' same
    have step := w.step_worked call id
    have step' := w.step_worked call id'
    rw [found] at step
    rw [found'] at step'
    rcases step.open_cases going with ⟨old, at_id, open_, sub⟩ | ⟨user, draws, request, new, clear⟩
    · rcases step'.open_cases going' with
        ⟨old', at_id', open', sub'⟩ | ⟨user', draws', request', new', clear'⟩
      · exact sound.one_open id id' old old' at_id at_id' open_ open'
          (sub.trans (same.trans sub'.symm))
      · have mem := DunningWorld.mem_open at_id open_ (sub.trans same)
        rw [clear'] at mem
        cases mem
    · rcases step'.open_cases going' with
        ⟨old', at_id', open', sub'⟩ | ⟨user', draws', request', new', clear'⟩
      · have mem := DunningWorld.mem_open at_id' open' (sub'.trans same.symm)
        rw [clear] at mem
        cases mem
      · rw [request] at request'
        have drawn : draws = draws' := (DunningRequest.openCase.inj request').2.2
        rw [← caseOf_id found, ← caseOf_id found', new, new', drawn]

theorem DunningWorld.Sound.after {w : DunningWorld} (sound : w.Sound) (calls : List DunningCall) :
    (w.after calls).Sound :=
  runFrom_invariant (fun _ call h => h.step call) sound calls

/-! ## Runs -/

namespace DunningWorld

theorem after_goes {w : DunningWorld} {id : Uuid} {row : DunningCase}
    (found : w.caseOf id = some row) (calls : List DunningCall) :
    ∃ row', (w.after calls).caseOf id = some row' ∧ row'.openedAt = row.openedAt ∧
      (row.state.terminal = true → row' = row) := by
  induction calls generalizing w row with
  | nil => exact ⟨row, found, rfl, fun _ => rfl⟩
  | cons call calls ih =>
      have step := w.step_worked call id
      rw [found] at step
      obtain ⟨middle, there, goes⟩ := step.goes
      obtain ⟨row', reached, opened, closed⟩ := ih there
      refine ⟨row', reached, opened.trans goes.openedAt, fun ended => ?_⟩
      have same : middle = row := goes.closed ended
      rw [same] at closed
      exact closed ended

/-- A case that a call adds is new, and was opened at the time of the call. -/
theorem opened_of_none {w : DunningWorld} {call : DunningCall} {id : Uuid} {row : DunningCase}
    (absent : w.caseOf id = none) (found : (w.step call).caseOf id = some row) :
    row.state = .day0 ∧ row.openedAt = (w.step call).now := by
  obtain ⟨elapsed, request⟩ := call
  have step := w.step_worked ⟨elapsed, request⟩ id
  rw [absent, found] at step
  cases step with
  | opened userId subscriptionId draws none_open => exact ⟨rfl, rfl⟩

theorem statesOf_of_some {w : DunningWorld} {id : Uuid} {row : DunningCase}
    (found : w.caseOf id = some row) (calls : List DunningCall) :
    ∃ rest, w.statesOf id calls = row.state :: rest := by
  cases calls with
  | nil => exact ⟨[], by simp [statesOf, found]⟩
  | cons call calls => exact ⟨(w.step call).statesOf id calls, by simp [statesOf, found]⟩

theorem statesOf_cons_of_none {w : DunningWorld} {id : Uuid} (absent : w.caseOf id = none)
    (call : DunningCall) (calls : List DunningCall) :
    w.statesOf id (call :: calls) = (w.step call).statesOf id calls := by
  simp [statesOf, absent]

theorem statesOf_cons_of_some {w : DunningWorld} {id : Uuid} {row : DunningCase}
    (found : w.caseOf id = some row) (call : DunningCall) (calls : List DunningCall) :
    w.statesOf id (call :: calls) = row.state :: (w.step call).statesOf id calls := by
  simp [statesOf, found]

theorem head_statesOf {w : DunningWorld} {id : Uuid} (absent : w.caseOf id = none)
    (calls : List DunningCall) :
    (w.statesOf id calls).head? ∈ [none, some DunningState.day0] := by
  induction calls generalizing w with
  | nil => simp [statesOf, absent]
  | cons call calls ih =>
      rw [statesOf_cons_of_none absent]
      cases found : (w.step call).caseOf id with
      | none => exact ih found
      | some row =>
          obtain ⟨rest, states⟩ := statesOf_of_some found calls
          rw [states, (opened_of_none absent found).1]
          simp

theorem isChain_statesOf (id : Uuid) (w : DunningWorld) (calls : List DunningCall) :
    (w.statesOf id calls).IsChain DunningState.Follows := by
  induction calls generalizing w with
  | nil => cases found : w.caseOf id <;> simp [statesOf, found]
  | cons call calls ih =>
      cases found : w.caseOf id with
      | none =>
          rw [statesOf_cons_of_none found]
          exact ih _
      | some row =>
          have step := w.step_worked call id
          rw [found] at step
          obtain ⟨row', there, goes⟩ := step.goes
          obtain ⟨rest, states⟩ := statesOf_of_some there calls
          have chain := ih (w.step call)
          rw [states] at chain
          rw [statesOf_cons_of_some found, states]
          exact List.isChain_cons_cons.2 ⟨goes.state, chain⟩

theorem step_tick {w : DunningWorld} {id : Uuid} {row : DunningCase}
    (found : w.caseOf id = some row) (elapsed : Nat) :
    ∃ row', (w.step ⟨elapsed, .tick⟩).caseOf id = some row' ∧
      (row' = row ∨ row.state.next.map Prod.fst = some row'.state) := by
  have step := w.step_worked ⟨elapsed, .tick⟩ id
  rw [found] at step
  obtain ⟨row', there, -⟩ := step.goes
  rw [there] at step
  refine ⟨row', there, ?_⟩
  cases step with
  | same => exact Or.inl rfl
  | ticked =>
      rcases row.ticked_cases _ with same | ⟨delay, state, action, delayed, moves, elapsed, moved⟩
      · exact Or.inl same
      · rw [moved, moves]
        exact Or.inr rfl

theorem Sound.length_open {w : DunningWorld} (sound : w.Sound) (subscriptionId : Uuid) :
    (w.db.openDunningCases subscriptionId).length ≤ 1 := by
  have nodup : (w.db.openDunningCases subscriptionId).Nodup :=
    w.db.dunningCases.keys_nodup.of_map.filter _
  have only : ∀ row ∈ w.db.openDunningCases subscriptionId,
      ∀ row' ∈ w.db.openDunningCases subscriptionId, row = row' := by
    intro row mem row' mem'
    obtain ⟨stored, selected⟩ := List.mem_filter.1 mem
    obtain ⟨stored', selected'⟩ := List.mem_filter.1 mem'
    obtain ⟨paid, going⟩ := of_decide_eq_true selected
    obtain ⟨paid', going'⟩ := of_decide_eq_true selected'
    have same : row.id = row'.id :=
      sound.one_open row.id row'.id row row' (Table.lookup_of_mem stored)
        (Table.lookup_of_mem stored') (by simpa using going) (by simpa using going')
        (paid.trans paid'.symm)
    exact Table.eq_of_key_eq stored stored' same
  match rows : w.db.openDunningCases subscriptionId with
  | [] => simp
  | [row] => simp
  | row :: row' :: rest =>
      rw [rows] at nodup only
      have same := only row (by simp) row' (by simp)
      simp [same] at nodup

theorem Sound.keepsTimeline {start : DunningWorld} (sound : start.Sound)
    (none_yet : ∀ id, start.caseOf id = none) : KeepsTimeline start := by
  constructor
  · intro calls id
    exact ⟨head_statesOf (none_yet id) calls, isChain_statesOf id start calls⟩
  · intro calls elapsed id row found
    rw [DunningWorld.after, runFrom_append]
    exact step_tick found elapsed
  · intro calls call later id row row' n absent found reached labelled
    have opening : start.after (calls ++ [call]) = (start.after calls).step call :=
      runFrom_append DunningWorld.step start calls [call]
    have whole : start.after (calls ++ call :: later) =
        ((start.after calls).step call).after later :=
      runFrom_append DunningWorld.step start calls (call :: later)
    rw [opening] at found ⊢
    rw [whole] at reached ⊢
    obtain ⟨_, there, since, -⟩ := after_goes found later
    rw [reached] at there
    cases there
    obtain ⟨last, attempted, past, aged⟩ :=
      (((sound.after calls).step call).after later).on_time id row' reached
    calc ((start.after calls).step call).now + days n = row'.openedAt + days n := by
          rw [since, (opened_of_none absent found).2]
      _ ≤ last := aged n labelled
      _ ≤ (((start.after calls).step call).after later).now := past
  · intro calls subscriptionId
    exact (sound.after calls).length_open subscriptionId
  · intro calls later id row found ended
    obtain ⟨row', there, -, closed⟩ := after_goes found later
    rw [DunningWorld.after, runFrom_append, ← closed ended]
    exact there

end DunningWorld

/-- The table of cases is empty at the start, whatever the others hold. -/
theorem dunning_timeline (db : Db) (now : Timestamp) :
    KeepsTimeline ⟨{ db with dunningCases := .empty }, now⟩ := by
  apply DunningWorld.Sound.keepsTimeline
  · constructor
    · intro id row found
      cases found
    · intro id id' row row' found
      cases found
  · intro id
    rfl

end ColabPlatform.Billing
