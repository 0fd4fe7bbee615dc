import ColabPlatform.Ai.Charging

/-!
# Every prediction is reported once

A delivery that finds its key unset takes up the interaction of its prediction,
and no other does so afterwards.  The key of a prediction is set by such a
delivery only, so a delivery that returns has been applied, or another one has.
-/

namespace ColabPlatform.Ai

open Foundation Foundation.Process
open Billing (Uuid Timestamp)

/-! ## What is to hold -/

/-- The statuses for which the webhook has a handler. -/
def Call.reports : Call → Bool
  | .delivery report => report.status = .succeeded ∨ report.status = .failed
  | _ => false

def Call.delivers (predictionId : String) : Call → Bool
  | .delivery report => report.predictionId = predictionId
  | _ => false

/-- A delivery that has found the interaction, and runs a handler or has run it. -/
def Running.reportsOn (x : Uuid) (call : Running) : Bool :=
  call.call.reports && call.subject = some x

def Running.returned (call : Running) : Bool :=
  match call.program with
  | .done (.ok _) => true
  | _ => false

namespace AiState

/-- A delivery of the prediction has returned, and none is under way. -/
def processed (s : AiState) (predictionId : String) : Bool :=
  (s.running.any fun call => call.call.delivers predictionId && call.returned) &&
    s.running.all fun call => !call.call.delivers predictionId || !call.program.active

/-- No call works on the interaction, and no task of it waits. -/
def settledDown (s : AiState) (x : Uuid) : Bool :=
  s.idle x && s.world.tasks.all fun task => task.interactionId ≠ x

/-- The outcome of the prediction was stored, by one handler, and charged once. -/
structure AppliedOnce (s : AiState) (x : Uuid) : Prop where
  terminal : ∃ status, s.world.statusOf x = some status ∧ status.terminal
  handled : (s.running.filter (Running.reportsOn x)).length = 1
  settled : ∀ reservationId, (reservationId, x) ∈ s.world.reservations →
    ∃ settlement, s.world.settlementsOf reservationId = [settlement]

/-- In this state every prediction whose deliveries are processed was applied once. -/
structure DeliveredOnce (s : AiState) : Prop where
  once : ∀ predictionId x, (predictionId, x) ∈ s.world.predictions →
    s.processed predictionId → s.settledDown x → s.AppliedOnce x
  applied : ∀ predictionId x, (predictionId, x) ∈ s.world.predictions →
    predictionId ∈ s.world.marked → ∃ call ∈ s.running, call.reportsOn x

end AiState

/-! ## The key of a prediction -/

/-- Whether a call knows that the key of the prediction is set. -/
def keyContract (predictionId : String) : Contract Op.Reply Bool where
  pre _ _ := True
  post op known reply known' := known' = (known || op.tells predictionId reply)

/-- A call that returns knows that the key is set. -/
def KeySet (result : Except Failure Response) (known : Bool) : Prop :=
  result.toBool = true → known = true

variable {settings : AISettings} {loads : String → Option Json} {x y : Uuid} {p : String}

theorem markPrediction_tells {response : Response} {known : Bool} :
    Ensures (keyContract p) KeySet
      (do
        markPrediction p
        return response) known := by
  refine ensures_bind.2 (ensures_perform_bind.2 ⟨trivial, ?_⟩)
  rintro (text | done) known' rfl
  · intro returned
    cases returned
  · intro returned
    simp [Op.tells]

theorem replicateWebhook_tells (delivery : Delivery) :
    Ensures (keyContract delivery.predictionId) KeySet (replicateWebhook settings delivery)
      false := by
  have raised : ∀ {error : Failure} {known : Bool}, KeySet (.error error) known := fun h => by
    cases h
  unfold replicateWebhook
  dsimp only
  split
  · exact raised
  split
  · exact raised
  refine ensures_perform_bind.2 ⟨trivial, ?_⟩
  rintro (text | _ | _) known rfl
  · exact raised
  · refine ensures_perform_bind.2 ⟨trivial, fun found known _ => ?_⟩
    refine ensures_perform_bind.2 ⟨trivial, fun asset known _ => ?_⟩
    cases found with
    | none => exact markPrediction_tells
    | some interaction =>
        refine ensures_bind.2 ((ensures_true (fun _ _ => trivial) _ _).mono
          fun result known _ => ?_)
        cases result with
        | ok status => exact markPrediction_tells
        | error error => exact raised
  · intro returned
    simp [Op.tells]

namespace World

variable {w w' : World} {subject : Option Uuid} {op : Op} {answer reply : op.Reply}

/-- The end of a call changes the responses only. -/
theorem finish_eq (w : World) (subject : Option Uuid) (program : AiM Response) :
    ∃ responses, w.finish subject program = { w with responses := responses } := by
  unfold finish
  split
  · split
    · exact ⟨_, rfl⟩
    · exact ⟨w.responses, rfl⟩
  · exact ⟨w.responses, rfl⟩

/-- What an operation may do to the predictions and their keys. -/
structure KeysKept (w : World) (op : Op) (reply : op.Reply) (w' : World) : Prop where
  kept : ∀ p ∈ w.marked, p ∈ w'.marked
  marked : ∀ p ∈ w'.marked, p ∈ w.marked ∨ op = .mark p
  started : ∀ p x, (p, x) ∈ w'.predictions → (p, x) ∈ w.predictions ∨ p ∉ w'.marked
  told : ∀ p, op.tells p reply = true → p ∈ w'.marked

theorem KeysKept.of_same (marked : w'.marked = w.marked) (predictions : w'.predictions = w.predictions)
    (silent : ∀ p, op.tells p reply = false) : w.KeysKept op reply w' where
  kept p mem := marked ▸ mem
  marked p mem := Or.inl (marked ▸ mem)
  started p x mem := Or.inl (predictions ▸ mem)
  told p tells := by simp [silent p] at tells

theorem keys_apply {write : Write} (done : w.apply write = some w') :
    w'.marked = w.marked ∧ w'.predictions = w.predictions := by
  cases write <;> simp only [apply, Option.map_eq_some_iff, Option.some.injEq] at done
  case updateInteraction | approveConsent => exact ⟨by rw [← done], by rw [← done]⟩
  all_goals
    obtain ⟨table, -, rfl⟩ := done
    exact ⟨rfl, rfl⟩

theorem keys_applyAll {writes : List Write} (done : w.applyAll writes = some w') :
    w'.marked = w.marked ∧ w'.predictions = w.predictions := by
  induction writes generalizing w with
  | nil => exact Option.some.inj done ▸ ⟨rfl, rfl⟩
  | cons write rest ih =>
      obtain ⟨middle, first, later⟩ := Option.bind_eq_some_iff.1 done
      have one := keys_apply first
      have all := ih later
      exact ⟨all.1.trans one.1, all.2.trans one.2⟩

theorem Effect.keysKept (effect : w.Effect op reply w') : w.KeysKept op reply w' := by
  cases effect with
  | unchanged silent => exact .of_same rfl rfl silent
  | seen id known so =>
      refine ⟨fun p mem => mem, fun p mem => Or.inl mem, fun p x mem => Or.inl mem, ?_⟩
      intro p tells
      cases known with
      | false => cases tells
      | true =>
          obtain rfl : id = p := of_decide_eq_true tells
          exact of_decide_eq_true so.symm
  | drawn | reserved | settled | enqueued => exact .of_same rfl rfl fun p => rfl
  | saved stored =>
      obtain ⟨marked, predictions⟩ := keys_applyAll stored
      exact .of_same marked predictions fun p => rfl
  | predicted id owner fresh =>
      refine ⟨fun p mem => mem, fun p mem => Or.inl mem, fun p x mem => ?_, fun p tells => ?_⟩
      · rcases List.mem_cons.1 mem with same | old
        · obtain ⟨rfl, -⟩ := Prod.mk.inj same
          exact Or.inr fresh
        · exact Or.inl old
      · cases tells
  | marked id =>
      refine ⟨fun p mem => List.mem_cons_of_mem _ mem, fun p mem => ?_,
        fun p x mem => Or.inl mem, fun p tells => ?_⟩
      · rcases List.mem_cons.1 mem with rfl | old
        · exact Or.inr rfl
        · exact Or.inl old
      · obtain rfl : id = p := of_decide_eq_true tells
        exact List.mem_cons_self

end World

/-! ## Cells that are closed stay so -/

namespace Cell

variable {c : Cell} {row other : AIInteraction} {reservationId : Uuid}

theorem Closed.not_processing (closed : c.Closed row reservationId) (stored : c.row = some other) :
    other.status ≠ .processing := by
  intro processing
  obtain rfl := Option.some.inj (closed.stored.symm.trans stored)
  have terminal := closed.terminal
  rw [processing] at terminal
  cases terminal

theorem Closed.settlements_ne_nil (closed : c.Closed row reservationId) : c.settlements ≠ [] := by
  rcases closed.settled with ⟨-, -, settled⟩ | ⟨-, settled⟩ <;> simp [settled]

end Cell

namespace AiState

variable {s s' : AiState} {row : AIInteraction} {reservationId : Uuid}

theorem Awaited.not_closed (awaited : s.Awaited x) :
    ¬ (s.world.cell x).Closed row reservationId := by
  obtain ⟨-, stored, has, processing⟩ := awaited
  exact fun closed => closed.not_processing has processing

/-- No task waits for an interaction that is closed. -/
theorem Kept.taskless (kept : s.Kept settings loads)
    (closed : (s.world.cell x).Closed row reservationId) :
    ∀ task ∈ s.world.tasks, task.interactionId ≠ x := by
  rintro task mem rfl
  have queued : task ∈ (s.world.cell task.interactionId).tasks :=
    List.mem_filter.2 ⟨mem, by simp⟩
  obtain ⟨_, _, _, generating, -⟩ :=
    (kept.rest _ (kept.idle_of_task mem)).queued_of_task queued
  exact closed.settlements_ne_nil generating.unsettled

/-- An interaction that is closed, with no call working on it, stays as it is. -/
theorem Kept.closed_stays (kept : s.Kept settings loads) (stepped : s.Stepped settings loads s')
    (idle : s.idle x) (closed : (s.world.cell x).Closed row reservationId) :
    s'.idle x ∧ s'.world.cell x = s.world.cell x := by
  cases stepped with
  | stay => exact ⟨idle, rfl⟩
  | begin call taskless leaves => exact ⟨idle_concat.2 ⟨idle, by simp [Call.start, Running.worksOn]⟩, rfl⟩
  | take index task found =>
      have other := kept.taskless closed task (List.mem_of_getElem? found)
      refine ⟨idle_concat.2 ⟨idle, by simp [Call.start, Running.worksOn, other]⟩, ?_⟩
      have left := (filter_eraseIdx found fun task => task.interactionId = x).1 (by simpa using other)
      exact congrArg (fun tasks => { s.world.cell x with tasks := tasks }) left
  | goOn index call subject op next reply w turn =>
      have elsewhere : subjectAfter w subject op reply ≠ some x := by
        intro now
        cases turn.turned x now with
        | same before =>
            have busy := idle_iff.1 idle _ (List.mem_of_getElem? turn.found)
            simp [Running.worksOn, Process.active, before] at busy
        | drawn request undrawn =>
            have blank := kept.sound.blank x undrawn
            have reserved := closed.reserved
            rw [blank] at reserved
            cases reserved
        | found decided awaited => exact awaited.not_closed closed
      refine ⟨idle_iff.2 (forall_mem_set ?_ (idle_iff.1 idle)), turn.cell_of_ne elsewhere⟩
      simp [Running.worksOn, elsewhere]

/-! ## The invariant of deliveries -/

end AiState

theorem Call.reports_of_decided {call : Call} (decided : call.decided = true) :
    call.reports = true := by
  cases call with
  | delivery report =>
      simp only [Call.decided] at decided
      simp only [Call.reports]
      cases status : report.status <;> simp [status] at decided ⊢
  | command | consent | task => cases decided

theorem Call.isDelivery_of_reports {call : Call} (reports : call.reports = true) :
    call.isDelivery = true := by
  cases call with
  | delivery report => rfl
  | command | consent | task => cases reports

/-- What the call knows about the key of its prediction is so. -/
def Running.TellsTruly (marked : List String) (call : Running) : Prop :=
  ∀ report, call.call = .delivery report → ∃ known : Bool,
    (known = true → report.predictionId ∈ marked) ∧
      Ensures (keyContract report.predictionId) KeySet call.program known

namespace AiState

variable {s s' : AiState}

/-- What holds of the deliveries in a run in which the operations go well enough. -/
structure Reported (settings : AISettings) (loads : String → Option Json) (s : AiState) : Prop where
  kept : s.Kept settings loads
  decided : ∀ call ∈ s.running, call.call.isDelivery = true → ∀ x, call.subject = some x →
    call.call.decided = true
  single : ∀ x, AtMostOne (Running.reportsOn x) s.running
  closed : ∀ x, s.idle x → (∃ call ∈ s.running, call.reportsOn x) →
    ∃ row reservationId, (s.world.cell x).Closed row reservationId
  alone : ∀ x, (∃ call ∈ s.running, call.reportsOn x) → ∀ call ∈ s.running,
    call.worksOn x = true → call.call.isDelivery = true
  marked : ∀ p x, (p, x) ∈ s.world.predictions → p ∈ s.world.marked →
    ∃ call ∈ s.running, call.reportsOn x
  tells : ∀ call ∈ s.running, call.TellsTruly s.world.marked

theorem reported_initial : initial.Reported settings loads where
  kept := kept_initial
  decided := fun call mem => by cases mem
  single := fun x => .nil
  closed := fun x _ reports => by
    obtain ⟨call, mem, -⟩ := reports
    cases mem
  alone := fun x _ call mem => by cases mem
  marked := fun p x started => by cases started
  tells := fun call mem => by cases mem

theorem program_tells (call : Call) (subject : Option Uuid) (marked : List String) :
    (call.start settings loads subject).TellsTruly marked := by
  rintro report rfl
  exact ⟨false, (fun known => by cases known), replicateWebhook_tells report⟩

/-- A call that starts reports on nothing. -/
theorem reports_concat {call : Running} (silent : ∀ x, call.reportsOn x = false) :
    (∃ other ∈ s.running ++ [call], other.reportsOn x) ↔
      ∃ other ∈ s.running, other.reportsOn x := by
  simp [List.mem_append, or_and_right, exists_or, silent]

/-! ### A call goes on -/

section

variable {index : Nat} {call : Call} {subject : Option Uuid} {op : Op}
  {next : op.Reply → AiM Response} {reply : op.Reply} {w : World}
  (turn : s.Turn settings loads index call subject op next reply w)
include turn

/-- A delivery that has reported before, or whose interaction none has reported on. -/
theorem Turn.reports (reports : call.reports = true)
    (own : subjectAfter w subject op reply = some x) :
    subject = some x ∨ s.Awaited x := by
  cases turn.turned x own with
  | same before => exact Or.inl before
  | drawn request undrawn =>
      have delivery := Call.isDelivery_of_reports reports
      rw [Call.not_delivery request] at delivery
      cases delivery
  | found decided awaited => exact Or.inr awaited

/-- Who reports on an interaction afterwards did so before, or takes it up now. -/
theorem Turn.reports_before
    (reports : ∃ other ∈ (s.goneOn index call subject op next reply w).running,
      other.reportsOn x) :
    (∃ other ∈ s.running, other.reportsOn x) ∨
      call.reports = true ∧ subjectAfter w subject op reply = some x ∧ s.Awaited x := by
  obtain ⟨other, mem, reports⟩ := reports
  rcases mem_set_cases mem with rfl | ⟨j, -, atJ⟩
  · simp only [Running.reportsOn, Bool.and_eq_true, decide_eq_true_eq] at reports
    rcases turn.reports reports.1 reports.2 with before | awaited
    · exact Or.inl ⟨_, List.mem_of_getElem? turn.found, by
        simp [Running.reportsOn, reports.1, before]⟩
    · exact Or.inr ⟨reports.1, reports.2, awaited⟩
  · exact Or.inl ⟨other, List.mem_of_getElem? atJ, reports⟩

theorem Turn.reports_after (reports : ∃ other ∈ s.running, other.reportsOn x) :
    ∃ other ∈ (s.goneOn index call subject op next reply w).running, other.reportsOn x := by
  obtain ⟨other, mem, reports⟩ := reports
  obtain ⟨j, atJ⟩ := List.mem_iff_getElem?.1 mem
  by_cases same : index = j
  · obtain rfl := same
    obtain rfl := Option.some.inj (turn.found.symm.trans atJ)
    simp only [Running.reportsOn, Bool.and_eq_true, decide_eq_true_eq] at reports
    refine ⟨_, mem_set_of_found turn.found, ?_⟩
    simp [Running.reportsOn, reports.1, turn.stays x reports.2]
  · exact ⟨other, List.mem_of_getElem? ((List.getElem?_set_ne same).trans atJ), reports⟩

end

namespace Reported

variable (reported : s.Reported settings loads)
include reported

/-- No delivery has reported on an interaction that a delivery may take up. -/
theorem unreported (awaited : s.Awaited x) : ∀ call ∈ s.running, call.reportsOn x = false := by
  intro call mem
  by_contra reports
  obtain ⟨row, reservationId, closed⟩ :=
    reported.closed x awaited.1 ⟨call, mem, by simpa using reports⟩
  exact awaited.not_closed closed

theorem begin {call : Call} (kept : (s.begin settings loads call).Kept settings loads) :
    (s.begin settings loads call).Reported settings loads := by
  have silent : ∀ x, (call.start settings loads none).reportsOn x = false := fun x => by
    simp [Call.start, Running.reportsOn]
  refine ⟨kept, ?_, fun x => (reported.single x).concat (silent x), ?_, ?_, ?_, ?_⟩
  · exact forall_mem_concat (fun _ x subject => by cases subject) reported.decided
  · intro x idle reports
    exact reported.closed x (idle_concat.1 idle).1 ((reports_concat silent).1 reports)
  · intro x reports
    refine forall_mem_concat (fun works => ?_)
      (reported.alone x ((reports_concat silent).1 reports))
    simp [Call.start, Running.worksOn] at works
  · intro p x started marked
    exact (reports_concat silent).2 (reported.marked p x started marked)
  · exact forall_mem_concat (program_tells call none s.world.marked) reported.tells

theorem take {index : Nat} {task : GenerationTask} (found : s.world.tasks[index]? = some task) :
    Reported settings loads
      { world := { s.world with tasks := s.world.tasks.eraseIdx index }
        running := s.running ++
          [(Call.task task).start settings loads (some task.interactionId)] } := by
  have silent : ∀ x, ((Call.task task).start settings loads
      (some task.interactionId)).reportsOn x = false := fun x => rfl
  refine ⟨reported.kept.take found, ?_, fun x => (reported.single x).concat (silent x),
    ?_, ?_, ?_, ?_⟩
  · exact forall_mem_concat (fun delivery => by cases delivery) reported.decided
  · intro x rests reports
    obtain ⟨idle, ended⟩ := idle_concat.1 rests
    obtain ⟨row, reservationId, closed⟩ :=
      reported.closed x idle ((reports_concat silent).1 reports)
    exact ⟨row, reservationId,
      (reported.kept.closed_stays (.take index task found) idle closed).2 ▸ closed⟩
  · intro x reports
    have before := (reports_concat silent).1 reports
    refine forall_mem_concat (fun works => ?_) (reported.alone x before)
    -- a task waits for no interaction that a delivery has reported on
    have own : task.interactionId = x := by
      simp only [Call.start, Running.worksOn, Bool.and_eq_true, decide_eq_true_eq,
        Option.some.injEq] at works
      exact works.2
    have mem := List.mem_of_getElem? found
    obtain ⟨row, reservationId, closed⟩ :=
      reported.closed x (own ▸ reported.kept.idle_of_task mem) before
    exact absurd own (reported.kept.taskless closed task mem)
  · intro p x started marked
    exact (reports_concat silent).2 (reported.marked p x started marked)
  · exact forall_mem_concat (program_tells (.task task) _ s.world.marked) reported.tells

section

variable {index : Nat} {call : Call} {subject : Option Uuid} {op : Op}
  {next : op.Reply → AiM Response} {reply : op.Reply} {w : World}
  (turn : s.Turn settings loads index call subject op next reply w)
include turn

/-- A call that works on an interaction that has been reported on is a delivery. -/
theorem delivery_of_turn (own : subjectAfter w subject op reply = some x)
    (reports : ∃ other ∈ (s.goneOn index call subject op next reply w).running,
      other.reportsOn x) : call.isDelivery = true := by
  rcases turn.reports_before reports with before | ⟨reports, -, -⟩
  · cases turn.turned x own with
    | same subject =>
        exact reported.alone x before _ (List.mem_of_getElem? turn.found)
          (by simp [Running.worksOn, Process.active, subject])
    | drawn _ undrawn =>
        obtain ⟨other, mem, reports⟩ := before
        simp only [Running.reportsOn, Bool.and_eq_true, decide_eq_true_eq] at reports
        exact absurd (reported.kept.drawn other mem x reports.2) undrawn
    | found _ awaited =>
        obtain ⟨other, mem, reports⟩ := before
        simp [reported.unreported awaited other mem] at reports
  · exact Call.isDelivery_of_reports reports

/-- The interactions on which no call works, and that a delivery has reported on, are closed. -/
theorem closed_of_turn
    (rests : (s.goneOn index call subject op next reply w).idle x)
    (reports : ∃ other ∈ (s.goneOn index call subject op next reply w).running,
      other.reportsOn x) :
    ∃ row reservationId,
      ((s.goneOn index call subject op next reply w).world.cell x).Closed row reservationId := by
  by_cases own : subjectAfter w subject op reply = some x
  · obtain ⟨result, -, leaves, cell⟩ := turn.ended own rests
    have known : (w.cell x).id ≠ none := by
      change (if (RowKind.interaction, x) ∈ w.drawn then some x else none) ≠ none
      rw [if_pos (turn.meets.drawn x own)]
      exact Option.some_ne_none x
    obtain ⟨row, reservationId, closed⟩ :=
      leaves.reported (reported.delivery_of_turn turn own reports) known
    exact ⟨row, reservationId, cell ▸ closed.respond result⟩
  · rcases turn.reports_before reports with before | ⟨-, now, -⟩
    · rw [turn.cell_of_ne own]
      exact reported.closed x (turn.idle_before own rests) before
    · exact absurd now own

/-- The key of a prediction is set by a delivery that reports on its interaction. -/
theorem marked_of_turn
    (started : (p, x) ∈ (s.goneOn index call subject op next reply w).world.predictions)
    (marked : p ∈ (s.goneOn index call subject op next reply w).world.marked) :
    ∃ other ∈ (s.goneOn index call subject op next reply w).running, other.reportsOn x := by
  obtain ⟨answer, performed⟩ := turn.performed
  have keys := (World.effect_of_perform performed).keysKept
  obtain ⟨responses, ended⟩ := World.finish_eq w (subjectAfter w subject op reply) (next reply)
  simp only [goneOn, ended] at started marked
  have before : (p, x) ∈ s.world.predictions :=
    (keys.started p x started).resolve_right fun unmarked => unmarked marked
  rcases keys.marked p marked with old | rfl
  · exact turn.reports_after (reported.marked p x before old)
  · obtain ⟨own, decided⟩ := turn.permits
    cases subject with
    | none => cases own
    | some y =>
        obtain rfl := reported.kept.sound.predictor p y x (World.mem_predictions.1 own) before
        refine turn.reports_after ⟨_, List.mem_of_getElem? turn.found, ?_⟩
        simp [Running.reportsOn, Call.reports_of_decided decided]

theorem tells_of_turn :
    ∀ other ∈ (s.goneOn index call subject op next reply w).running,
      other.TellsTruly (s.goneOn index call subject op next reply w).world.marked := by
  obtain ⟨answer, performed⟩ := turn.performed
  have keys := (World.effect_of_perform performed).keysKept
  obtain ⟨responses, ended⟩ := World.finish_eq w (subjectAfter w subject op reply) (next reply)
  simp only [goneOn, ended]
  refine forall_mem_set ?_ ?_
  · intro report same
    obtain ⟨known, so, ensures⟩ :=
      reported.tells _ (List.mem_of_getElem? turn.found) report same
    refine ⟨known || op.tells report.predictionId reply, fun now => ?_,
      ensures.2 reply _ rfl⟩
    rcases Bool.or_eq_true_iff.1 now with before | told
    · exact keys.kept _ (so before)
    · exact keys.told _ told
  · intro other mem report same
    obtain ⟨known, so, ensures⟩ := reported.tells other mem report same
    exact ⟨known, fun before => keys.kept _ (so before), ensures⟩

theorem goOn : (s.goneOn index call subject op next reply w).Reported settings loads where
  kept := turn.kept reported.kept
  decided := by
    have before := reported.decided _ (List.mem_of_getElem? turn.found)
    refine forall_mem_set (fun delivery x own => ?_) reported.decided
    change call.isDelivery = true at delivery
    cases turn.turned x own with
    | same subject => exact before delivery x subject
    | drawn request _ =>
        rw [Call.not_delivery request] at delivery
        cases delivery
    | found decided _ => exact decided
  single x := by
    refine (reported.single x).set turn.found fun reports => ?_
    simp only [Running.reportsOn, Bool.and_eq_true, decide_eq_true_eq] at reports
    rcases turn.reports reports.1 reports.2 with before | awaited
    · exact Or.inl (by simp [Running.reportsOn, reports.1, before])
    · exact Or.inr (reported.unreported awaited)
  closed x rests reports := reported.closed_of_turn turn rests reports
  alone x reports other mem works := by
    rcases mem_set_cases mem with rfl | ⟨j, distinct, atJ⟩
    · simp only [Running.worksOn, Bool.and_eq_true, decide_eq_true_eq] at works
      exact reported.delivery_of_turn turn works.2 reports
    · have elsewhere := reported.kept.apart turn distinct atJ works
      rcases turn.reports_before reports with before | ⟨-, now, -⟩
      · exact reported.alone x before other (List.mem_of_getElem? atJ) works
      · exact absurd now elsewhere
  marked p x started marked := reported.marked_of_turn turn started marked
  tells := reported.tells_of_turn turn

end

theorem next (stepped : s.Stepped settings loads s') : s'.Reported settings loads := by
  cases stepped with
  | stay => exact reported
  | begin call taskless leaves => exact reported.begin (reported.kept.begin leaves)
  | take index task found => exact reported.take found
  | goOn index call subject op next reply w turn => exact reported.goOn turn

end Reported

theorem reported_run {events : List AiEvent}
    (well : Guarded (aiStep settings loads) (fun s e => s.untroubled settings loads e) initial
      events) : (runFrom (aiStep settings loads) initial events).Reported settings loads :=
  runFrom_invariant_of_guarded
    (fun _ _ well reported => reported.next (reported.kept.stepped well)) reported_initial well

/-! ## Exactly once -/

theorem Reported.deliveredOnce (reported : s.Reported settings loads) : s.DeliveredOnce where
  applied := reported.marked
  once predictionId x started processed settled := by
    obtain ⟨ended, -⟩ := Bool.and_eq_true_iff.1 processed
    obtain ⟨⟨call, subject, program⟩, mem, holds⟩ := List.any_eq_true.1 ended
    obtain ⟨delivers, returned⟩ := Bool.and_eq_true_iff.1 holds
    have marked : predictionId ∈ s.world.marked := by
      cases call with
      | delivery report =>
          obtain rfl : report.predictionId = predictionId := of_decide_eq_true delivers
          obtain ⟨known, so, ensures⟩ := reported.tells _ mem report rfl
          cases program with
          | call op next => cases returned
          | done result =>
              cases result with
              | error error => cases returned
              | ok response => exact so (ensures rfl)
      | command | consent | task => cases delivers
    obtain ⟨other, here, reports⟩ := reported.marked predictionId x started marked
    obtain ⟨idle, -⟩ := Bool.and_eq_true_iff.1 settled
    obtain ⟨row, reservationId, closed⟩ := reported.closed x idle ⟨other, here, reports⟩
    refine ⟨⟨row.status, congrArg (Option.map _) closed.stored, closed.terminal⟩, ?_, ?_⟩
    · rw [(reported.single x).filter_eq here reports]
      rfl
    · intro held reserved
      have own : held ∈ (s.world.cell x).reservations := World.mem_reservations.2 reserved
      rw [closed.reserved] at own
      obtain rfl := List.mem_singleton.1 own
      exact closed.chargedRight.once

end AiState

/-! ### A delivery after the task has stored its prediction, and one before -/

/-- A request for an image, up to the start of its prediction at Replicate. -/
def predictEvents : List AiEvent :=
  .command ⟨⟨"room"⟩, some ⟨"a"⟩, .mockupImage, some "a mural", 50, 0⟩ ::
    (List.replicate 6 (.advance 0 (sampleAnswer ⟨"1"⟩)) ++
      List.replicate 3 (.advance 0 (sampleAnswer ⟨"2"⟩)) ++
      [.work 0, .advance 1 (sampleAnswer ⟨"p"⟩)])

/-- The transaction in which the task stores the id of the prediction. -/
def storeEvent : AiEvent := .advance 1 (sampleAnswer ⟨"p"⟩)

def failedDelivery : Delivery :=
  { predictionId := "p", status := .failed, now := 0, drawnCollab := ⟨"3"⟩, drawnAsset := ⟨"4"⟩ }

/-- A delivery that the prediction has failed, and its operations. -/
def deliveryEvents (operations : Nat) : List AiEvent :=
  .deliver failedDelivery :: List.replicate operations (.advance 2 (sampleAnswer ⟨"5"⟩))

end ColabPlatform.Ai
