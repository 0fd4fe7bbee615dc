import ColabPlatform.Ai.Deliveries

/-!
# Generations do not disturb each other

A request whose credits are reserved and whose prompt is not refused stores an
asset of its own and puts a task in the queue, whatever other generations are
pending; a request that fails has given its credits back.
-/

namespace ColabPlatform.Ai

open Foundation Foundation.Process
open Billing (Uuid Timestamp)

-- named, so that membership is decided alike under any import
local instance pairLawfulBEq : LawfulBEq (Uuid × Uuid) := Prod.instLawfulBEq

/-! ## What is to hold -/

def Running.requestsFor (x : Uuid) (call : Running) : Bool :=
  call.call.isRequest && call.subject = some x

/-- An asset that the request for the interaction has drawn is stored. -/
def World.hasAsset (w : World) (x : Uuid) : Bool :=
  w.assets.rows.any fun asset => (asset.id, x) ∈ w.assetOwners

def Call.isTaskOf (x : Uuid) : Call → Bool
  | .task message => message.interactionId = x
  | _ => false

namespace AiState

/-- The task of the interaction waits, or a worker has taken it. -/
def enqueued (s : AiState) (x : Uuid) : Bool :=
  s.world.tasks.any (fun task => task.interactionId = x) ||
    s.running.any fun call => call.call.isTaskOf x

/-- What a request that has reserved credits has come to when it has ended. -/
def GenerationEnded (s : AiState) (x reservationId : Uuid) : Except Failure Response → Prop
  | .ok _ => s.world.hasAsset x ∧ s.enqueued x
  | .error _ => s.world.settlementsOf reservationId = [.released] ∧
      ∃ status, s.world.statusOf x = some status ∧ status.terminal ∧ status ≠ .completed

/--
In this state every generation that has ended, with its credits reserved, is
enqueued with an asset of its own, or was refused and has given them back.
-/
def Undisturbed (s : AiState) : Prop :=
  ∀ call ∈ s.running, call.call.generates → ∀ result, call.program = .done result →
    ∀ x, call.subject = some x → ∀ reservationId, (reservationId, x) ∈ s.world.reservations →
      s.GenerationEnded x reservationId result

end AiState

/-! ## What the operations keep -/

namespace World

variable {settings : AISettings} {loads : String → Option Json} {w w' : World} {op : Op}
  {reply : op.Reply} {x : Uuid}

/-- What no operation takes back: the assets, who drew them, and the tasks. -/
structure AssetsKept (w w' : World) : Prop where
  owners : ∀ owner ∈ w.assetOwners, owner ∈ w'.assetOwners
  rows : ∀ asset ∈ w.assets.rows, ∃ asset' ∈ w'.assets.rows, asset'.id = asset.id
  tasks : ∀ task ∈ w.tasks, task ∈ w'.tasks

theorem AssetsKept.refl : AssetsKept w w :=
  ⟨fun _ mem => mem, fun asset mem => ⟨asset, mem, rfl⟩, fun _ mem => mem⟩

theorem assetsKept_apply {write : Write} (done : w.apply write = some w') : AssetsKept w w' := by
  cases write <;> simp only [apply, Option.map_eq_some_iff, Option.some.injEq] at done
  case updateInteraction | approveConsent =>
    subst done
    exact { AssetsKept.refl (w := w) with }
  case insertInteraction | insertConsent =>
    obtain ⟨table, -, rfl⟩ := done
    exact { AssetsKept.refl (w := w) with }
  case insertAsset row =>
    obtain ⟨table, inserted, rfl⟩ := done
    refine { AssetsKept.refl (w := w) with rows := fun asset mem => ⟨asset, ?_, rfl⟩ }
    rw [(Table.insert?_eq_some inserted).2]
    exact List.mem_cons_of_mem _ mem
  case updateAsset id change =>
    obtain ⟨table, updated, rfl⟩ := done
    refine { AssetsKept.refl (w := w) with rows := fun asset mem => ?_ }
    rw [Table.rows_update updated]
    refine ⟨_, List.mem_map_of_mem mem, ?_⟩
    split <;> rfl

theorem AssetsKept.trans {w'' : World} (first : AssetsKept w w') (second : AssetsKept w' w'') :
    AssetsKept w w'' := by
  refine ⟨fun owner mem => second.owners owner (first.owners owner mem), fun asset mem => ?_,
    fun task mem => second.tasks task (first.tasks task mem)⟩
  obtain ⟨middle, here, same⟩ := first.rows asset mem
  obtain ⟨last, there, same'⟩ := second.rows middle here
  exact ⟨last, there, same'.trans same⟩

theorem assetsKept_applyAll {writes : List Write} (done : w.applyAll writes = some w') :
    AssetsKept w w' := by
  induction writes generalizing w with
  | nil => exact Option.some.inj done ▸ .refl
  | cons write rest ih =>
      obtain ⟨middle, first, later⟩ := Option.bind_eq_some_iff.1 done
      exact (assetsKept_apply first).trans (ih later)

theorem Effect.assetsKept (effect : w.Effect op reply w') : AssetsKept w w' := by
  cases effect with
  | unchanged | seen | reserved | settled | predicted | marked =>
      exact { AssetsKept.refl (w := w) with }
  | drawn kind id owners kept => exact { AssetsKept.refl (w := w) with owners := kept }
  | saved stored => exact assetsKept_applyAll stored
  | enqueued task =>
      exact { AssetsKept.refl (w := w) with tasks := fun other mem => List.mem_append_left _ mem }

theorem reservations_applyAll {writes : List Write} (done : w.applyAll writes = some w') :
    w'.reservations = w.reservations := by
  induction writes generalizing w with
  | nil => exact Option.some.inj done ▸ rfl
  | cons write rest ih =>
      obtain ⟨middle, first, later⟩ := Option.bind_eq_some_iff.1 done
      refine (ih later).trans ?_
      cases write <;> simp only [apply, Option.map_eq_some_iff, Option.some.injEq] at first
      case updateInteraction | approveConsent => rw [← first]
      all_goals
        obtain ⟨table, -, rfl⟩ := first
        rfl

/-- A reservation for an interaction is made before, or by the operation that makes it. -/
theorem Effect.reserved_before (effect : w.Effect op reply w') {reservationId : Uuid}
    (reserved : (reservationId, x) ∈ w'.reservations) :
    (reservationId, x) ∈ w.reservations ∨ ∃ userId amount, op = .reserve userId amount x := by
  cases effect with
  | unchanged | seen | drawn | settled | enqueued | predicted | marked => exact Or.inl reserved
  | saved stored => exact Or.inl (reservations_applyAll stored ▸ reserved)
  | reserved userId amount reference id body =>
      rcases List.mem_cons.1 reserved with same | old
      · obtain ⟨-, rfl⟩ := Prod.mk.inj same
        exact Or.inr ⟨userId, amount, rfl⟩
      · exact Or.inl old

theorem AssetsKept.hasAsset (kept : AssetsKept w w') (has : w.hasAsset x = true) :
    w'.hasAsset x = true := by
  obtain ⟨asset, mem, own⟩ := List.any_eq_true.1 has
  obtain ⟨asset', mem', same⟩ := kept.rows asset mem
  refine List.any_eq_true.2 ⟨asset', mem', ?_⟩
  rw [same]
  exact decide_eq_true (kept.owners _ (of_decide_eq_true own))

end World

namespace AiState

variable {settings : AISettings} {loads : String → Option Json} {s s' : AiState} {x : Uuid}

/-! ## The invariant of requests -/

/-- What a request that has ended has come to, when credits were reserved for it. -/
def CameTo (s : AiState) (x : Uuid) (call : Call) : Except Failure Response → Prop
  | .ok _ => call.generates → s.world.hasAsset x ∧ s.enqueued x
  | .error _ => s.idle x ∧ ∃ row reservationId,
      (s.world.cell x).Closed row reservationId ∧ row.status ≠ .completed

/-- What holds of the requests in a run in which the operations go well enough. -/
structure Serving (settings : AISettings) (loads : String → Option Json) (s : AiState) : Prop where
  kept : s.Kept settings loads
  single : ∀ x, AtMostOne (Running.requestsFor x) s.running
  ended : ∀ call ∈ s.running, call.call.isRequest = true → ∀ result,
    call.program = .done result → ∀ x, call.subject = some x → ∀ reservationId,
      (reservationId, x) ∈ s.world.reservations → s.CameTo x call.call result

theorem serving_initial : initial.Serving settings loads where
  kept := kept_initial
  single := fun x => .nil
  ended := fun call mem => by cases mem

/-! ### What a step keeps -/

section

variable {index : Nat} {call : Call} {subject : Option Uuid} {op : Op}
  {next : op.Reply → AiM Response} {reply : op.Reply} {w : World}
  (turn : s.Turn settings loads index call subject op next reply w)
include turn

theorem Turn.effect : s.world.Effect op reply w := by
  obtain ⟨answer, performed⟩ := turn.performed
  exact World.effect_of_perform performed

/-- Only the request of an interaction reserves credits for it. -/
theorem Turn.reserved_before {reservationId : Uuid} (known : ∀ y, subject = some y →
      (.interaction, y) ∈ s.world.drawn)
    (reserved : (reservationId, x) ∈
      (s.goneOn index call subject op next reply w).world.reservations) :
    (reservationId, x) ∈ s.world.reservations ∨ call.isRequest = true ∧ subject = some x := by
  obtain ⟨responses, ended⟩ := World.finish_eq w (subjectAfter w subject op reply) (next reply)
  simp only [goneOn, ended] at reserved
  rcases turn.effect.reserved_before reserved with before | ⟨userId, amount, rfl⟩
  · exact Or.inl before
  · obtain ⟨own, request⟩ := turn.permits
    obtain ⟨y, rfl, drawn, -⟩ := World.subject_of_ident known (by rw [own]; simp)
    obtain ⟨rfl, -⟩ := World.id_cell own
    exact Or.inr ⟨request, rfl⟩

theorem Turn.hasAsset (has : s.world.hasAsset x = true) :
    (s.goneOn index call subject op next reply w).world.hasAsset x = true := by
  obtain ⟨responses, ended⟩ := World.finish_eq w (subjectAfter w subject op reply) (next reply)
  simp only [goneOn, ended]
  exact turn.effect.assetsKept.hasAsset has

theorem Turn.enqueued (waits : s.enqueued x = true) :
    (s.goneOn index call subject op next reply w).enqueued x = true := by
  obtain ⟨responses, ended⟩ := World.finish_eq w (subjectAfter w subject op reply) (next reply)
  refine Bool.or_eq_true_iff.2 ((Bool.or_eq_true_iff.1 waits).imp (fun queued => ?_) fun taken => ?_)
  · obtain ⟨task, mem, own⟩ := List.any_eq_true.1 queued
    simp only [goneOn, ended]
    exact List.any_eq_true.2 ⟨task, turn.effect.assetsKept.tasks task mem, own⟩
  · obtain ⟨other, mem, own⟩ := List.any_eq_true.1 taken
    obtain ⟨j, atJ⟩ := List.mem_iff_getElem?.1 mem
    by_cases same : index = j
    · obtain rfl := same
      obtain rfl := Option.some.inj (turn.found.symm.trans atJ)
      exact List.any_eq_true.2 ⟨_, mem_set_of_found turn.found, own⟩
    · exact List.any_eq_true.2
        ⟨other, List.mem_of_getElem? ((List.getElem?_set_ne same).trans atJ), own⟩

end

theorem enqueued_take {index : Nat} {task : GenerationTask}
    (found : s.world.tasks[index]? = some task) (waits : s.enqueued x = true) :
    enqueued
      { world := { s.world with tasks := s.world.tasks.eraseIdx index }
        running := s.running ++
          [(Call.task task).start settings loads (some task.interactionId)] } x = true := by
  refine Bool.or_eq_true_iff.2 ?_
  rcases Bool.or_eq_true_iff.1 waits with queued | taken
  · obtain ⟨other, mem, own⟩ := List.any_eq_true.1 queued
    obtain ⟨j, atJ⟩ := List.mem_iff_getElem?.1 mem
    by_cases same : j = index
    · subst same
      obtain rfl := Option.some.inj (found.symm.trans atJ)
      exact Or.inr (List.any_eq_true.2 ⟨_, List.mem_concat_self, own⟩)
    · exact Or.inl (List.any_eq_true.2
        ⟨other, List.mem_eraseIdx_iff_getElem?.2 ⟨j, same, atJ⟩, own⟩)
  · obtain ⟨call, mem, own⟩ := List.any_eq_true.1 taken
    exact Or.inr (List.any_eq_true.2 ⟨call, List.mem_append_left _ mem, own⟩)

theorem enqueued_begin {call : Call} (waits : s.enqueued x = true) :
    (s.begin settings loads call).enqueued x = true := by
  refine Bool.or_eq_true_iff.2 ((Bool.or_eq_true_iff.1 waits).imp_right fun taken => ?_)
  obtain ⟨other, mem, own⟩ := List.any_eq_true.1 taken
  exact List.any_eq_true.2 ⟨other, List.mem_append_left _ mem, own⟩

/-- What a request has come to stays so. -/
theorem CameTo.stays (kept : s.Kept settings loads) (stepped : s.Stepped settings loads s')
    {call : Call} {result : Except Failure Response} (came : s.CameTo x call result) :
    s'.CameTo x call result := by
  cases result with
  | error error =>
      obtain ⟨idle, row, reservationId, closed, incomplete⟩ := came
      obtain ⟨idle', same⟩ := kept.closed_stays stepped idle closed
      exact ⟨idle', row, reservationId, same ▸ closed, incomplete⟩
  | ok response =>
      intro generates
      obtain ⟨has, waits⟩ := came generates
      cases stepped with
      | stay => exact ⟨has, waits⟩
      | begin call taskless leaves => exact ⟨has, enqueued_begin waits⟩
      | take index task found => exact ⟨has, enqueued_take found waits⟩
      | goOn index call subject op next reply w turn =>
          exact ⟨turn.hasAsset has, turn.enqueued waits⟩

/-! ### A request ends -/

/-- A cell whose reservation was given back is closed. -/
theorem closed_of_released {c : Cell} {reservationId : Uuid} (rest : c.Rest)
    (held : reservationId ∈ c.reservations)
    (released : (reservationId, .released) ∈ c.settlements) :
    ∃ row reservationId, c.Closed row reservationId ∧ row.status ≠ .completed := by
  cases rest with
  | unreserved none =>
      rw [none] at held
      cases held
  | queued row asset other task generating =>
      rw [generating.unsettled] at released
      cases released
  | predicted row asset other predictionId predicted =>
      rw [predicted.unsettled] at released
      cases released
  | closed row other closed =>
      refine ⟨row, other, closed, ?_⟩
      rcases closed.settled with ⟨-, -, settled⟩ | ⟨incomplete, -⟩
      · rw [settled] at released
        simp at released
      · exact incomplete

section

variable {index : Nat} {call : Call} {subject : Option Uuid} {op : Op}
  {next : op.Reply → AiM Response} {reply : op.Reply} {w : World}
  (turn : s.Turn settings loads index call subject op next reply w)
include turn

/-- No call works on the interaction of a call that has ended. -/
theorem Turn.idle_after (kept : s.Kept settings loads) {result : Except Failure Response}
    (ended : next reply = .done result) (own : subjectAfter w subject op reply = some x) :
    (s.goneOn index call subject op next reply w).idle x := by
  refine idle_iff.2 fun other mem => ?_
  rcases mem_set_cases mem with rfl | ⟨j, distinct, atJ⟩
  · simp [Running.worksOn, Process.active, ended]
  · by_contra works
    exact kept.apart turn distinct atJ (by simpa using works) own

theorem Turn.cameTo (kept : s.Kept settings loads) (request : call.isRequest = true)
    {result : Except Failure Response} (ended : next reply = .done result)
    (own : subjectAfter w subject op reply = some x) {reservationId : Uuid}
    (reserved : (reservationId, x) ∈
      (s.goneOn index call subject op next reply w).world.reservations) :
    (s.goneOn index call subject op next reply w).CameTo x call result := by
  have idle := turn.idle_after kept ended own
  obtain ⟨_, same, leaves, cell⟩ := turn.ended own idle
  obtain rfl := Process.done.inj (ended.symm.trans same)
  obtain ⟨responses, last⟩ := World.finish_eq w (subjectAfter w subject op reply) (next reply)
  have held : reservationId ∈ (w.cell x).reservations := by
    simp only [goneOn, last] at reserved
    exact World.mem_reservations.2 reserved
  have served := leaves.served request
  cases result with
  | error error =>
      obtain ⟨row, other, closed, incomplete⟩ :=
        closed_of_released leaves.rest held (served reservationId held)
      exact ⟨idle, row, other, cell ▸ closed, incomplete⟩
  | ok response =>
      intro generates
      obtain ⟨assets, tasks⟩ := served generates (List.ne_nil_of_mem held)
      obtain ⟨asset, own⟩ := List.exists_mem_of_ne_nil _ assets
      obtain ⟨task, waits⟩ := List.exists_mem_of_ne_nil _ tasks
      obtain ⟨stored, owned⟩ := List.mem_filter.1 own
      obtain ⟨queued, mine⟩ := List.mem_filter.1 waits
      refine ⟨?_, Bool.or_eq_true_iff.2 (Or.inl ?_)⟩
      · simp only [goneOn, last]
        exact List.any_eq_true.2 ⟨asset, stored, owned⟩
      · simp only [goneOn, last]
        exact List.any_eq_true.2 ⟨task, queued, mine⟩

end

namespace Serving

variable (serving : s.Serving settings loads)
include serving

theorem goOn {index : Nat} {call : Call} {subject : Option Uuid} {op : Op}
    {next : op.Reply → AiM Response} {reply : op.Reply} {w : World}
    (turn : s.Turn settings loads index call subject op next reply w) :
    (s.goneOn index call subject op next reply w).Serving settings loads where
  kept := turn.kept serving.kept
  single x := by
    refine (serving.single x).set turn.found fun requests => ?_
    simp only [Running.requestsFor, Bool.and_eq_true, decide_eq_true_eq] at requests
    cases turn.turned x requests.2 with
    | same before => exact Or.inl (by simp [Running.requestsFor, requests.1, before])
    | drawn _ undrawn =>
        refine Or.inr fun other here => ?_
        simp only [Running.requestsFor, Bool.and_eq_false_iff, decide_eq_false_iff_not]
        exact Or.inr fun eq => undrawn (serving.kept.drawn other here x eq)
    | found decided _ =>
        have delivery := Call.isDelivery_of_reports (Call.reports_of_decided decided)
        rw [Call.not_delivery requests.1] at delivery
        cases delivery
  ended other mem request result ended x own reservationId reserved := by
    rcases mem_set_cases mem with rfl | ⟨j, distinct, atJ⟩
    · exact turn.cameTo serving.kept request ended own reserved
    · have here := List.mem_of_getElem? atJ
      have known := serving.kept.drawn _ (List.mem_of_getElem? turn.found)
      rcases turn.reserved_before known reserved with before | ⟨requests, same⟩
      · exact (serving.ended other here request result ended x own reservationId before).stays
          serving.kept (.goOn index call subject op next reply w turn)
      · exact absurd (serving.single x index j _ other turn.found atJ
          (by simp [Running.requestsFor, requests, same])
          (by simp [Running.requestsFor, request, own])) distinct

theorem next (stepped : s.Stepped settings loads s') : s'.Serving settings loads := by
  have kept := serving.kept.next stepped
  have stays : ∀ call ∈ s.running, call.call.isRequest = true → ∀ result,
      call.program = .done result → ∀ x, call.subject = some x → ∀ reservationId,
        (reservationId, x) ∈ s.world.reservations → s'.CameTo x call.call result :=
    fun call mem request result ended x own reservationId reserved =>
      (serving.ended call mem request result ended x own reservationId reserved).stays
        serving.kept stepped
  cases stepped with
  | stay => exact serving
  | begin call taskless leaves =>
      refine ⟨kept, fun x => (serving.single x).concat ?_, forall_mem_concat ?_ stays⟩
      · simp [Call.start, Running.requestsFor]
      · intro _ result _ x own
        cases own
  | take index task found =>
      refine ⟨kept, fun x => (serving.single x).concat rfl, forall_mem_concat ?_ stays⟩
      intro request
      cases request
  | goOn index call subject op next reply w turn => exact serving.goOn turn

end Serving

theorem serving_run {events : List AiEvent}
    (well : Guarded (aiStep settings loads) (fun s e => s.untroubled settings loads e) initial
      events) : (runFrom (aiStep settings loads) initial events).Serving settings loads :=
  runFrom_invariant_of_guarded
    (fun _ _ well serving => serving.next (serving.kept.stepped well)) serving_initial well

/-! ## Undisturbed -/

theorem isRequest_of_generates {call : Call} (generates : call.generates = true) :
    call.isRequest = true := by
  cases call with
  | command | consent => rfl
  | task | delivery => cases generates

theorem Serving.undisturbed (serving : s.Serving settings loads) : s.Undisturbed := by
  intro call mem generates result ended x own reservationId reserved
  have came := serving.ended call mem (isRequest_of_generates generates) result ended x own
    reservationId reserved
  cases result with
  | ok response => exact came generates
  | error error =>
      obtain ⟨-, row, other, closed, incomplete⟩ := came
      have held : reservationId ∈ (s.world.cell x).reservations := World.mem_reservations.2 reserved
      obtain rfl : reservationId = other := by simpa [closed.reserved] using held
      have status : s.world.statusOf x = some row.status := congrArg (Option.map _) closed.stored
      obtain ⟨settlement, only⟩ := closed.chargedRight.once
      have back := closed.chargedRight.refunded row.status status closed.terminal incomplete
      rw [only] at back
      obtain rfl := List.mem_singleton.1 back
      exact ⟨only, row.status, status, closed.terminal, incomplete⟩

end AiState

/-! ### Two generations, one after the other and both pending -/

/-- A second request for an image, as the call with the given index. -/
def secondEvents (index : Nat) : List AiEvent :=
  .command ⟨⟨"room"⟩, some ⟨"b"⟩, .mockupImage, some "a mural", 50, 0⟩ ::
    (List.replicate 6 (.advance index (sampleAnswer ⟨"3"⟩)) ++
      List.replicate 3 (.advance index (sampleAnswer ⟨"4"⟩)))

/-- The first request has started its prediction, and the task has not stored it yet. -/
def pendingEvents : List AiEvent := predictEvents ++ secondEvents 2

end ColabPlatform.Ai
