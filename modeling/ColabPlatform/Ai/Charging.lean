import ColabPlatform.Ai.GenerationSpecs
import ColabPlatform.Foundation.Interleaving

/-!
# Every finished interaction is charged as its outcome demands

The invariant of the runs in which the operations go well enough: a call under way
keeps its contract from the cell that it sees, works on its interaction alone, and
leaves the cell of its interaction at rest.
-/

namespace ColabPlatform.Ai

open Foundation Foundation.Process
open Billing (Uuid Timestamp)

def Running.worksOn (x : Uuid) (call : Running) : Bool :=
  call.program.active && call.subject = some x

/-! ## The end of a call -/

namespace World

variable {w : World} {x y : Uuid} {subject : Option Uuid} {program : AiM Response}

theorem finish_active (active : program.active = true) : w.finish subject program = w := by
  cases program with
  | done result => cases active
  | call op next => rfl

theorem drawn_finish : (w.finish subject program).drawn = w.drawn := by
  unfold finish
  split
  · split <;> rfl
  · rfl

theorem cell_finish_of_ne (other : subject ≠ some y) :
    (w.finish subject program).cell y = w.cell y := by
  unfold finish
  split
  · split
    · rename_i response _ id
      have apart : id ≠ y := fun same => other (congrArg some same)
      unfold cell
      rw [List.filter_cons_of_neg (by simpa using apart)]
    · rfl
  · rfl

theorem cell_finish {result : Except Failure Response} :
    (w.finish (some x) (.done result)).cell x = (w.cell x).respond result := by
  cases result with
  | error error => rfl
  | ok response =>
      change World.cell { w with responses := (x, response) :: w.responses } x = _
      unfold cell
      rw [List.filter_cons_of_pos (by simp)]
      rfl

theorem sound_finish (sound : Sound w) (drawn : ∀ x, subject = some x → (.interaction, x) ∈ w.drawn) :
    Sound (w.finish subject program) := by
  have blank : ∀ y, (.interaction, y) ∉ (w.finish subject program).drawn →
      (w.finish subject program).cell y = {} := by
    intro y undrawn
    rw [drawn_finish] at undrawn
    rw [cell_finish_of_ne fun same => undrawn (drawn y same)]
    exact sound.blank y undrawn
  revert blank
  unfold finish
  split
  · split
    · exact fun blank => { sound with blank }
    · exact fun _ => sound
  · exact fun _ => sound

/-- A call that works on an interaction goes on working on it. -/
theorem subject_kept {call : Call} {op : Op} {reply : op.Reply} {w' : World}
    (drawn : (.interaction, x) ∈ w.drawn) (permits : (w.cell x).Permits call op) :
    subjectAfter w' (some x) op reply = some x := by
  have known : (w.cell x).id = some x := if_pos drawn
  cases op with
  | draw kind =>
      cases kind with
      | interaction =>
          have blank : (w.cell x).id = none := permits.1
          rw [known] at blank
          cases blank
      | asset | consent => rfl
  | isMarked id =>
      have blank : (w.cell x).id = none := permits
      rw [known] at blank
      cases blank
  | _ => rfl

end World

namespace AiState

variable {settings : AISettings} {loads : String → Option Json} {s : AiState} {x y : Uuid}

theorem idle_iff : s.idle x ↔ ∀ call ∈ s.running, call.worksOn x = false := by
  simp only [idle, Running.worksOn, List.all_eq_true]
  refine forall₂_congr fun call _ => ?_
  cases call.program.active <;> simp

/-- What holds in every state of a run in which the operations go well enough. -/
structure Kept (settings : AISettings) (loads : String → Option Json) (s : AiState) : Prop where
  sound : s.world.Sound
  drawn : ∀ call ∈ s.running, ∀ x, call.subject = some x → (.interaction, x) ∈ s.world.drawn
  alone : ∀ x, AtMostOne (Running.worksOn x) s.running
  ensures : ∀ call ∈ s.running, call.program.active →
    Ensures (call.call.contract settings loads) call.call.Leaves call.program
      (s.world.view call.subject)
  rest : ∀ x, s.idle x → (s.world.cell x).Rest

theorem kept_initial : initial.Kept settings loads where
  sound := World.sound_initial
  drawn := fun call mem => by cases mem
  alone := fun x => .nil
  ensures := fun call mem => by cases mem
  rest := fun x _ => by
    change (World.initial.cell x).Rest
    rw [World.sound_initial.blank x (by simp [World.initial])]
    exact .unreserved rfl rfl rfl fun row stored => by cases stored

/-! ## A call comes in -/

theorem idle_concat {call : Running} {w : World} :
    idle { world := w, running := s.running ++ [call] } x ↔
      s.idle x ∧ call.worksOn x = false := by
  simp only [idle_iff, List.forall_mem_append, List.forall_mem_singleton]

namespace Kept

variable (kept : s.Kept settings loads)
include kept

theorem begin {call : Call}
    (leaves : Ensures (call.contract settings loads) call.Leaves (call.program settings loads) {}) :
    (s.begin settings loads call).Kept settings loads where
  sound := kept.sound
  drawn := forall_mem_concat (fun x subject => by cases subject) kept.drawn
  alone := fun x => (kept.alone x).concat (by simp [Call.start, Running.worksOn])
  ensures := forall_mem_concat (fun _ => leaves) kept.ensures
  rest := fun x idle => kept.rest x (idle_concat.1 idle).1

/-! ## A worker takes a task -/

end Kept

/-- What is left of a part of the queue when a worker has taken a task. -/
theorem filter_eraseIdx {tasks : List GenerationTask} {index : Nat} {task : GenerationTask}
    (found : tasks[index]? = some task) (p : GenerationTask → Bool) :
    (p task = false → (tasks.eraseIdx index).filter p = tasks.filter p) ∧
      (p task = true → tasks.filter p = [task] → (tasks.eraseIdx index).filter p = []) := by
  obtain ⟨inside, rfl⟩ := List.getElem?_eq_some_iff.1 found
  have parts : tasks.filter p =
      (tasks.take index).filter p ++ (tasks[index] :: tasks.drop (index + 1)).filter p := by
    rw [← List.filter_append, ← List.drop_eq_getElem_cons inside, List.take_append_drop]
  rw [List.eraseIdx_eq_take_drop_succ, List.filter_append]
  constructor
  · intro other
    rw [parts, List.filter_cons_of_neg (by simp [other])]
  · intro own only
    rw [parts, List.filter_cons_of_pos own] at only
    rcases List.append_eq_singleton_iff.1 only with ⟨before, after⟩ | ⟨-, after⟩
    · rw [before, List.cons.inj after |>.2]
      rfl
    · cases after

theorem runTask_active {task : GenerationTask} : (runTask settings task).active = true := by
  unfold runTask
  cases task.kind <;> rfl

theorem marked_of_predictions {w : World} (none : (w.cell x).predictions = []) :
    (w.cell x).marked = [] := by
  refine List.filter_eq_nil_iff.2 fun p _ => ?_
  have unstarted : p ∉ (w.cell x).predictions := by simp [none]
  simpa using fun started => unstarted (World.mem_predictions.2 started)

namespace Kept

variable (kept : s.Kept settings loads)
include kept

/-- A call that is active finds its cell as its operations need it. -/
theorem opened {call : Running} (mem : call ∈ s.running) (works : call.worksOn x = true) :
    (s.world.cell x).Open := by
  simp only [Running.worksOn, Bool.and_eq_true, decide_eq_true_eq] at works
  have ensures := kept.ensures call mem works.1
  rw [works.2] at ensures
  cases program : call.program with
  | done result => simp [program, Process.active] at works
  | call op next =>
      rw [program] at ensures
      exact ensures.1.1

theorem idle_of_task {task : GenerationTask} (mem : task ∈ s.world.tasks) :
    s.idle task.interactionId := by
  refine idle_iff.2 fun call here => ?_
  by_contra works
  have opened := kept.opened here (by simpa using works)
  have queued : task ∈ (s.world.cell task.interactionId).tasks :=
    List.mem_filter.2 ⟨mem, by simp⟩
  rw [opened.idle] at queued
  cases queued

theorem take {index : Nat} {task : GenerationTask} (found : s.world.tasks[index]? = some task) :
    Kept settings loads
      { world := { s.world with tasks := s.world.tasks.eraseIdx index }
        running := s.running ++
          [(Call.task task).start settings loads (some task.interactionId)] } := by
  have mem := List.mem_of_getElem? found
  have idle := kept.idle_of_task mem
  have queued : task ∈ (s.world.cell task.interactionId).tasks :=
    List.mem_filter.2 ⟨mem, by simp⟩
  obtain ⟨row, asset, reservationId, generating, status, only, uses, unstarted⟩ :=
    (kept.rest _ idle).queued_of_task queued
  have drawn : (RowKind.interaction, task.interactionId) ∈ s.world.drawn := by
    by_contra undrawn
    rw [kept.sound.blank _ undrawn] at queued
    cases queued
  have same : ∀ y, task.interactionId ≠ y →
      World.cell { s.world with tasks := s.world.tasks.eraseIdx index } y = s.world.cell y := by
    intro y other
    have left := (filter_eraseIdx found fun task => task.interactionId = y).1 (by simpa using other)
    exact congrArg (fun tasks => { s.world.cell y with tasks := tasks }) left
  have taken : World.cell { s.world with tasks := s.world.tasks.eraseIdx index }
      task.interactionId = { s.world.cell task.interactionId with tasks := [] } := by
    have left := (filter_eraseIdx found fun other => other.interactionId = task.interactionId).2
      (by simp) only
    exact congrArg (fun tasks => { s.world.cell task.interactionId with tasks := tasks }) left
  have own : task.interactionId = row.id := (World.id_cell generating.ident).1
  have start : Ensures ((Call.task task).contract settings loads) (Call.task task).Leaves
      (runTask settings task)
      (World.cell { s.world with tasks := s.world.tasks.eraseIdx index } task.interactionId) := by
    rw [taken]
    exact runTask_ensures { generating with } status ⟨rfl, marked_of_predictions unstarted⟩
      unstarted own uses
  refine ⟨?_, ?_, ?_, ?_, ?_⟩
  · refine { kept.sound with blank := fun y undrawn => ?_ }
    rw [same y fun eq => undrawn (eq ▸ drawn)]
    exact kept.sound.blank y undrawn
  · refine forall_mem_concat ?_ kept.drawn
    rintro x ⟨⟩
    exact drawn
  · intro x
    by_cases eq : task.interactionId = x
    · exact .concat_first (idle_iff.1 (eq ▸ idle))
    · exact (kept.alone x).concat (by simp [Running.worksOn, Call.start, eq])
  · refine forall_mem_concat (fun _ => start) fun call here active => ?_
    have ensures := kept.ensures call here active
    cases subject : call.subject with
    | none =>
        rw [subject] at ensures
        exact ensures
    | some y =>
        rw [subject] at ensures
        have other : task.interactionId ≠ y := by
          rintro rfl
          simpa [Running.worksOn, active, subject] using idle_iff.1 idle call here
        change Ensures _ _ _ (World.cell _ y)
        rw [same y other]
        exact ensures
  · intro x rests
    obtain ⟨before, ended⟩ := idle_concat.1 rests
    have other : task.interactionId ≠ x := by
      rintro rfl
      simp [Running.worksOn, Call.start, Call.program, runTask_active] at ended
    rw [same x other]
    exact kept.rest x before

end Kept

/-! ## A call goes on -/

/-- The interaction is processing, and no call under way works on it. -/
def Awaited (s : AiState) (x : Uuid) : Prop :=
  s.idle x ∧ ∃ row, (s.world.cell x).row = some row ∧ row.status = .processing

/-- How a call comes to work on an interaction: a request draws it, a delivery finds it. -/
inductive Turned (s : AiState) (call : Call) (subject : Option Uuid) (x : Uuid) : Prop
  | same (before : subject = some x)
  | drawn (request : call.isRequest = true) (undrawn : (.interaction, x) ∉ s.world.drawn)
  | found (decided : call.decided = true) (awaited : s.Awaited x)

theorem subject_turned {call : Call} {subject : Option Uuid} {op : Op} {answer reply : op.Reply}
    {w' : World} (performed : s.world.perform subject op answer = some (reply, w'))
    (permits : (s.world.view subject).Permits call op)
    (well : s.goesWell settings loads call subject op answer = true)
    (turned : subjectAfter w' subject op reply = some x) : s.Turned call subject x := by
  cases op with
  | draw kind =>
      cases kind with
      | interaction =>
          unfold World.perform at performed
          dsimp only at performed
          split at performed
          · cases performed
          rename_i fresh
          obtain ⟨rfl, -⟩ := Prod.mk.inj (Option.some.inj performed)
          obtain rfl := Option.some.inj turned
          exact .drawn permits.2 fun mem => fresh (List.mem_map_of_mem (f := Prod.snd) mem)
      | asset | consent => exact .same turned
  | isMarked id =>
      match reply with
      | .error text => exact .same turned
      | .ok true => exact .same turned
      | .ok false =>
          cases answer with
          | error text => cases performed
          | ok read =>
              obtain ⟨decided, rfl⟩ := Prod.mk.inj (Option.some.inj performed)
              have unmarked : id ∉ s.world.marked := by simpa using decided
              obtain ⟨row, found, rfl⟩ := Option.map_eq_some_iff.1 turned
              simp only [goesWell, Except.toBool, Bool.not_true, unmarked, decide_false, found,
                Bool.false_or, Bool.and_eq_true, decide_eq_true_eq] at well
              obtain ⟨reports, processing, idle⟩ := well
              exact .found reports ⟨idle, row,
                Table.lookup_of_mem (List.mem_of_find?_eq_some found), processing⟩
  | _ => exact .same turned

/-- What one operation of a call does, in a run in which the operations go well enough. -/
structure Turn (settings : AISettings) (loads : String → Option Json) (s : AiState) (index : Nat)
    (call : Call) (subject : Option Uuid) (op : Op) (next : op.Reply → AiM Response)
    (reply : op.Reply) (w : World) : Prop where
  found : s.running[index]? = some ⟨call, subject, .call op next⟩
  performed : ∃ answer, s.world.perform subject op answer = some (reply, w)
  permits : (s.world.view subject).Permits call op
  meets : World.Meets s.world call subject op settings loads reply w
  turned : ∀ x, subjectAfter w subject op reply = some x → s.Turned call subject x
  stays : ∀ x, subject = some x → subjectAfter w subject op reply = some x
  after : Ensures (call.contract settings loads) call.Leaves (next reply)
    (w.view (subjectAfter w subject op reply))

/-- The state after an operation of a call. -/
def goneOn (s : AiState) (index : Nat) (call : Call) (subject : Option Uuid) (op : Op)
    (next : op.Reply → AiM Response) (reply : op.Reply) (w : World) : AiState where
  world := w.finish (subjectAfter w subject op reply) (next reply)
  running := s.running.set index ⟨call, subjectAfter w subject op reply, next reply⟩

theorem Kept.turn (kept : s.Kept settings loads) {index : Nat} {call : Call}
    {subject : Option Uuid} {op : Op} {next : op.Reply → AiM Response} {answer reply : op.Reply}
    {w : World} (found : s.running[index]? = some ⟨call, subject, .call op next⟩)
    (performed : s.world.perform subject op answer = some (reply, w))
    (well : s.goesWell settings loads call subject op answer = true) :
    s.Turn settings loads index call subject op next reply w := by
  have mem := List.mem_of_getElem? found
  have known := kept.drawn _ mem
  have runs : Ensures (call.contract settings loads) call.Leaves (.call op next)
      (s.world.view subject) := kept.ensures _ mem rfl
  have meets : World.Meets s.world call subject op settings loads reply w :=
    World.perform_meets kept.sound known rfl (fun x idle => kept.rest x idle) performed
      runs.1.2 well
  exact
    { found
      performed := ⟨answer, performed⟩
      permits := runs.1.2
      meets
      turned := fun x now => subject_turned performed runs.1.2 well now
      stays := by
        rintro x rfl
        exact World.subject_kept (known x rfl) runs.1.2
      after := runs.2 reply _ meets.answered }

section

variable {index : Nat} {call : Call} {subject : Option Uuid} {op : Op}
  {next : op.Reply → AiM Response} {reply : op.Reply} {w : World}
  (turn : s.Turn settings loads index call subject op next reply w)
include turn

/-- No other call that is active works on the interaction of the call that goes on. -/
theorem Kept.apart (kept : s.Kept settings loads) {j : Nat} {other : Running}
    (distinct : index ≠ j) (atJ : s.running[j]? = some other) (works : other.worksOn x = true) :
    subjectAfter w subject op reply ≠ some x := by
  intro eq
  have here := List.mem_of_getElem? atJ
  cases turn.turned x eq with
  | same before =>
      exact distinct (kept.alone x index j _ other turn.found atJ
        (by simp [Running.worksOn, Process.active, before]) works)
  | drawn _ undrawn =>
      refine undrawn (kept.drawn other here x ?_)
      simp only [Running.worksOn, Bool.and_eq_true, decide_eq_true_eq] at works
      exact works.2
  | found _ awaited => simp [idle_iff.1 awaited.1 other here] at works

/-- An interaction on which no call works afterwards, unless it is that of the call. -/
theorem Turn.idle_before (elsewhere : subjectAfter w subject op reply ≠ some x)
    (rests : (s.goneOn index call subject op next reply w).idle x) : s.idle x := by
  rw [idle_iff] at rests
  refine idle_iff.2 fun other here => ?_
  obtain ⟨j, atJ⟩ := List.mem_iff_getElem?.1 here
  by_cases same : index = j
  · obtain rfl := same
    obtain rfl := Option.some.inj (turn.found.symm.trans atJ)
    have foreign : subject ≠ some x := fun before => elsewhere (turn.stays x before)
    simp [Running.worksOn, foreign]
  · exact rests other (List.mem_of_getElem? ((List.getElem?_set_ne same).trans atJ))

theorem Turn.cell_of_ne (elsewhere : subjectAfter w subject op reply ≠ some x) :
    (s.goneOn index call subject op next reply w).world.cell x = s.world.cell x := by
  unfold goneOn
  rw [World.cell_finish_of_ne elsewhere, turn.meets.others x elsewhere]

/-- The call has ended if no call works on its interaction afterwards. -/
theorem Turn.ended (own : subjectAfter w subject op reply = some x)
    (rests : (s.goneOn index call subject op next reply w).idle x) :
    ∃ result, next reply = .done result ∧ call.Leaves result (w.cell x) ∧
      (s.goneOn index call subject op next reply w).world.cell x =
        (w.cell x).respond result := by
  have idle := idle_iff.1 rests _ (mem_set_of_found turn.found)
  have after := turn.after
  rw [own] at idle after
  unfold goneOn
  rw [own]
  cases program : next reply with
  | call op' next' => simp [Running.worksOn, Process.active, program] at idle
  | done result =>
      rw [program] at after
      exact ⟨result, rfl, after, World.cell_finish⟩

theorem Turn.kept (kept : s.Kept settings loads) :
    (s.goneOn index call subject op next reply w).Kept settings loads := by
  have drawn : (s.goneOn index call subject op next reply w).world.drawn = w.drawn :=
    World.drawn_finish
  refine ⟨World.sound_finish turn.meets.sound turn.meets.drawn, ?_, ?_, ?_, ?_⟩
  · rw [drawn]
    exact forall_mem_set turn.meets.drawn fun other here x eq =>
      turn.meets.mono _ (kept.drawn other here x eq)
  · intro x
    refine (kept.alone x).set turn.found fun works => ?_
    simp only [Running.worksOn, Bool.and_eq_true, decide_eq_true_eq] at works
    cases turn.turned x works.2 with
    | same before => exact Or.inl (by simp [Running.worksOn, Process.active, before])
    | drawn _ undrawn =>
        refine Or.inr fun other here => ?_
        simp only [Running.worksOn, Bool.and_eq_false_iff, decide_eq_false_iff_not]
        exact Or.inr fun eq => undrawn (kept.drawn other here x eq)
    | found _ awaited => exact Or.inr (idle_iff.1 awaited.1)
  · intro other here active
    rcases mem_set_cases here with rfl | ⟨j, distinct, atJ⟩
    · change Ensures _ _ _ ((w.finish _ _).view _)
      rw [World.finish_active active]
      exact turn.after
    · have before := kept.ensures other (List.mem_of_getElem? atJ) active
      cases subject' : other.subject with
      | none =>
          rw [subject'] at before
          exact before
      | some y =>
          rw [subject'] at before
          have away := kept.apart turn distinct atJ
            (by simp [Running.worksOn, active, subject'] : other.worksOn y = true)
          change Ensures _ _ _ (World.cell _ y)
          rw [turn.cell_of_ne away]
          exact before
  · intro x rests
    by_cases own : subjectAfter w subject op reply = some x
    · obtain ⟨result, -, leaves, cell⟩ := turn.ended own rests
      rw [cell]
      exact leaves.rest
    · rw [turn.cell_of_ne own]
      exact kept.rest x (turn.idle_before own rests)

end

/-! ## A step of a run -/

/-- What a step may do in a run in which the operations go well enough. -/
inductive Stepped (settings : AISettings) (loads : String → Option Json) (s : AiState) :
    AiState → Prop
  | stay : Stepped settings loads s s
  | begin (call : Call) (taskless : ∀ task, call ≠ .task task)
      (leaves : Ensures (call.contract settings loads) call.Leaves
        (call.program settings loads) {}) :
      Stepped settings loads s (s.begin settings loads call)
  | take (index : Nat) (task : GenerationTask) (found : s.world.tasks[index]? = some task) :
      Stepped settings loads s
        { world := { s.world with tasks := s.world.tasks.eraseIdx index }
          running := s.running ++
            [(Call.task task).start settings loads (some task.interactionId)] }
  | goOn (index : Nat) (call : Call) (subject : Option Uuid) (op : Op)
      (next : op.Reply → AiM Response) (reply : op.Reply) (w : World)
      (turn : s.Turn settings loads index call subject op next reply w) :
      Stepped settings loads s (s.goneOn index call subject op next reply w)

theorem Kept.stepped (kept : s.Kept settings loads) {event : AiEvent}
    (well : s.untroubled settings loads event = true) :
    s.Stepped settings loads (aiStep settings loads s event) := by
  cases event with
  | command request =>
      exact .begin _ (fun task same => by cases same) (runCommand_ensures request)
  | consent call => exact .begin _ (fun task same => by cases same) (mockupConsent_ensures call)
  | deliver delivery =>
      exact .begin _ (fun task same => by cases same) (replicateWebhook_ensures delivery)
  | work index =>
      cases found : s.world.tasks[index]? with
      | none =>
          simp only [aiStep, found]
          exact .stay
      | some task =>
          simp only [aiStep, found]
          exact .take index task found
  | advance index answer =>
      rcases found : s.running[index]? with _ | ⟨call, subject, _ | ⟨op, next⟩⟩
      · simp only [aiStep, found]
        exact .stay
      · simp only [aiStep, found]
        exact .stay
      · simp only [untroubled, found] at well
        cases performed : s.world.perform subject op (answer op) with
        | none =>
            simp only [aiStep, found, performed]
            exact .stay
        | some after =>
            simp only [aiStep, found, performed]
            exact .goOn _ _ _ _ _ _ _ (kept.turn found performed well)

theorem Kept.next (kept : s.Kept settings loads) {s' : AiState}
    (stepped : s.Stepped settings loads s') : s'.Kept settings loads := by
  cases stepped with
  | stay => exact kept
  | begin call taskless leaves => exact kept.begin leaves
  | take index task found => exact kept.take found
  | goOn index call subject op next reply w turn => exact turn.kept kept

theorem kept_run {events : List AiEvent}
    (well : Guarded (aiStep settings loads) (fun s e => s.untroubled settings loads e) initial
      events) : (runFrom (aiStep settings loads) initial events).Kept settings loads :=
  runFrom_invariant_of_guarded (fun _ _ well kept => kept.next (kept.stepped well)) kept_initial
    well

/-! ## Charging -/

end AiState

namespace Cell

variable {w : World} {x : Uuid} {row : AIInteraction} {reservationId : Uuid}

theorem Delivered.world (delivered : (w.cell x).Delivered) : w.Delivered x := by
  rcases delivered with ⟨response, mem, result⟩ | ⟨row, stored, asset, mem, linked, active, key⟩
  · obtain ⟨⟨owner, sent⟩, here, rfl⟩ := List.mem_map.1 mem
    obtain ⟨returned, own⟩ := List.mem_filter.1 here
    obtain rfl : owner = x := by simpa using own
    exact Or.inl ⟨sent, returned, result⟩
  · exact Or.inr ⟨row, Table.mem_of_lookup stored, Table.key_of_lookup stored, asset,
      (List.mem_filter.1 mem).1, linked, active, key⟩

theorem Closed.chargedRight (closed : (w.cell x).Closed row reservationId) :
    w.ChargedRight x reservationId := by
  have held : (reservationId, x) ∈ w.reservations := by
    refine World.mem_reservations.1 ?_
    rw [closed.reserved]
    exact List.mem_cons_self
  have own : w.settlementsOf reservationId =
      (((w.cell x).settlements.filter fun settled => settled.1 = reservationId).map Prod.snd) := by
    unfold World.settlementsOf World.cell
    rw [List.filter_filter]
    congr 1
    refine List.filter_congr fun settled _ => ?_
    by_cases same : settled.1 = reservationId
    · simp [same, held]
    · simp [same]
  have status : w.statusOf x = some row.status := congrArg (Option.map _) closed.stored
  rcases closed.settled with ⟨completed, delivered, settled⟩ | ⟨incomplete, settled⟩
  · have only : w.settlementsOf reservationId = [.committed] := by
      rw [own, settled]
      simp
    refine ⟨⟨_, only⟩, ?_, ?_⟩
    · rw [only, status, completed]
      simp [delivered.world]
    · intro other same _ another
      rw [status, completed] at same
      exact absurd (Option.some.inj same).symm another
  · have only : w.settlementsOf reservationId = [.released] := by
      rw [own, settled]
      simp
    refine ⟨⟨_, only⟩, ?_, ?_⟩
    · rw [only, status]
      simp [incomplete]
    · intro other _ _ _
      rw [only]
      exact List.mem_singleton.2 rfl

end Cell

namespace AiState

variable {settings : AISettings} {loads : String → Option Json} {s : AiState} {x : Uuid}

theorem Kept.charged (kept : s.Kept settings loads) : s.Charged := by
  intro reservationId x reserved finished
  simp only [AiState.finished, Bool.and_eq_true, Bool.not_eq_true'] at finished
  obtain ⟨⟨idle, reported⟩, queue⟩ := finished
  have held : reservationId ∈ (s.world.cell x).reservations := World.mem_reservations.2 reserved
  cases kept.rest x idle with
  | unreserved none =>
      rw [none] at held
      cases held
  | closed row other closed =>
      obtain rfl : reservationId = other := by simpa [closed.reserved] using held
      exact closed.chargedRight
  | queued row asset other task generating status only =>
      have waits : task ∈ (s.world.cell x).tasks := by
        rw [only]
        exact List.mem_cons_self
      obtain ⟨mem, own⟩ := List.mem_filter.1 waits
      have other := List.all_eq_true.1 queue task mem
      simp only [decide_eq_true_eq] at own other
      exact absurd own other
  | predicted row asset other predictionId predicted =>
      have stored : s.world.interactions.lookup x = some row := predicted.stored
      have started : (predictionId, x) ∈ s.world.predictions := by
        refine World.mem_predictions.1 ?_
        rw [predicted.started]
        exact List.mem_cons_self
      have unmarked : predictionId ∉ s.world.marked := by
        intro marked
        have here : predictionId ∈ (s.world.cell x).marked :=
          List.mem_filter.2 ⟨marked, by simpa using started⟩
        rw [predicted.unmarked] at here
        cases here
      simp [World.awaits, stored, predicted.processing, predicted.rowPrediction, unmarked]
        at reported

end AiState

/-! ### A charge that is carried out, and one that is not -/

/-- An environment in which every call succeeds; `id` is what is drawn or given out. -/
def sampleAnswer (id : Uuid) : (op : Op) → op.Reply
  | .ask (.completions ..) => fun _ => .completed ⟨"three ideas", 1, 1⟩
  | .ask (.scanText _) => .response 200 (some 0)
  | .ask (.scanImage _) => .response 200 (some 0)
  | .ask (.countCall _) => .ok 1
  | .ask (.entitlement _) => .response 200 (some "pro")
  | .ask (.participants _) => .response 200 []
  | .ask (.moderation _) => .ok []
  | .ask (.messages ..) => .response 200 []
  | .ask (.vocations _) => .response 200 []
  | .ask (.fileCase _) => ()
  | .ask (.download _) => .response 200 [1]
  | .ask (.watermark _ bytes) => .ok bytes
  | .ask (.upload ..) => .ok ()
  | .draw _ => id
  | .reserve .. => .response 200 (some id)
  | .settle .. => ⟨.response 200 (), true⟩
  | .save _ => .ok ()
  | .enqueue _ => .ok ()
  | .predict _ => .response 200 (some id.text)
  | .isMarked _ => .ok false
  | .mark _ => .ok ()
  | .interactionOf _ => none
  | .assetOf _ => none
  | .consent _ => none
  | .openConsent _ => none

/-- billing-svc does not carry the call out. -/
def billingDown (id : Uuid) : (op : Op) → op.Reply
  | .settle .. => ⟨.response 503 (), false⟩
  | op => sampleAnswer id op

/-- A request and its operations, of which the last is the commit of the reservation. -/
def brainstormEvents (last : (op : Op) → op.Reply) : List AiEvent :=
  .command ⟨⟨"room"⟩, some ⟨"a"⟩, .brainstorm, some "a mural", 50, 0⟩ ::
    (List.replicate 9 (.advance 0 (sampleAnswer ⟨"1"⟩)) ++ [.advance 0 last])

end ColabPlatform.Ai
