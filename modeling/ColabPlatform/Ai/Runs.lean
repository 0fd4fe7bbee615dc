import ColabPlatform.Foundation.Run
import ColabPlatform.Ai.Consent
import ColabPlatform.Ai.Generation

/-!
# Runs of the AI orchestrator

Requests, deliveries of webhooks and workers that take a task are calls; the
calls under way go on one operation at a time, in any order.
-/

namespace ColabPlatform.Ai

open Foundation
open Billing (Uuid Timestamp)

inductive Call where
  | command (request : CommandRequest)
  | consent (call : ConsentCall)
  | task (task : GenerationTask)
  | delivery (delivery : Delivery)

/-- A call under way, with the interaction it works on once there is one. -/
structure Running where
  call : Call
  subject : Option Uuid := none
  program : AiM Response

structure AiState where
  world : World
  running : List Running

def AiState.initial : AiState := ⟨.initial, []⟩

inductive AiEvent where
  | command (request : CommandRequest)
  | consent (call : ConsentCall)
  | deliver (delivery : Delivery)
  /-- A worker takes the task at a place of the queue. -/
  | work (index : Nat)
  /-- A call goes on; `answer` is what the environment answers to its operation. -/
  | advance (index : Nat) (answer : (op : Op) → op.Reply)

/--
The interaction that a call works on after an operation: the row it draws, and
for a delivery that finds its key unset the interaction of its prediction.
-/
def subjectAfter (w : World) (subject : Option Uuid) : (op : Op) → op.Reply → Option Uuid
  | .draw .interaction, id => some id
  | .isMarked predictionId, .ok false =>
      (w.interactionOf predictionId).map AIInteraction.id
  | _, _ => subject

/-- What a call returns is recorded for its interaction. -/
def World.finish (w : World) (subject : Option Uuid) : AiM Response → World
  | .done (.ok response) =>
      match subject with
      | some id => { w with responses := (id, response) :: w.responses }
      | none => w
  | _ => w

section

variable (settings : AISettings) (loads : String → Option Json)

def Call.program : Call → AiM Response
  | .command request => runCommand settings loads request
  | .consent call => mockupConsent settings call
  | .task message => runTask settings message
  | .delivery report => replicateWebhook settings report

def Call.start (call : Call) (subject : Option Uuid) : Running :=
  { call, subject, program := call.program settings loads }

def AiState.begin (s : AiState) (call : Call) : AiState :=
  { s with running := s.running ++ [call.start settings loads none] }

def aiStep (s : AiState) : AiEvent → AiState
  | .command request => s.begin settings loads (.command request)
  | .consent call => s.begin settings loads (.consent call)
  | .deliver delivery => s.begin settings loads (.delivery delivery)
  | .work index =>
      match s.world.tasks[index]? with
      | none => s
      | some task =>
          { world := { s.world with tasks := s.world.tasks.eraseIdx index }
            running := s.running ++
              [(Call.task task).start settings loads (some task.interactionId)] }
  | .advance index answer =>
      match s.running[index]? with
      | some ⟨call, subject, .call op next⟩ =>
          match s.world.perform subject op (answer op) with
          | none => s
          | some (reply, w) =>
              let subject := subjectAfter w subject op reply
              { world := w.finish subject (next reply)
                running := s.running.set index ⟨call, subject, next reply⟩ }
      | _ => s

end

/-! ## Charging -/

def InteractionStatus.terminal : InteractionStatus → Bool
  | .queued | .processing => false
  | _ => true

/-- The responses that carry what a command has generated. -/
def Response.result : Response → Bool
  | .text .. | .palette .. => true
  | _ => false

namespace World

def statusOf (w : World) (interactionId : Uuid) : Option InteractionStatus :=
  (w.interactions.lookup interactionId).map AIInteraction.status

/-- How often, and in which way, a reservation has been settled. -/
def settlementsOf (w : World) (reservationId : Uuid) : List Settlement :=
  (w.settlements.filter fun settlement => settlement.1 = reservationId).map Prod.snd

/-- The result was returned to the caller, or its asset is stored and active. -/
def Delivered (w : World) (interactionId : Uuid) : Prop :=
  (∃ response, (interactionId, response) ∈ w.responses ∧ response.result) ∨
    ∃ row ∈ w.interactions.rows, row.id = interactionId ∧
      ∃ asset ∈ w.assets.rows, row.mockupAssetId = some asset.id ∧
        asset.active ∧ asset.s3Key ≠ ""

/-- A prediction that is under way and that no processed delivery has reported. -/
def awaits (w : World) (interactionId : Uuid) : Bool :=
  match w.interactions.lookup interactionId with
  | some row =>
      row.status = .processing ∧
        row.replicatePredictionId.all fun predictionId => predictionId ∉ w.marked
  | none => false

/-- The reservation of the interaction is settled as its outcome demands. -/
structure ChargedRight (w : World) (interactionId reservationId : Uuid) : Prop where
  once : ∃ settlement, w.settlementsOf reservationId = [settlement]
  charged : .committed ∈ w.settlementsOf reservationId ↔
    w.statusOf interactionId = some .completed ∧ w.Delivered interactionId
  refunded : ∀ status, w.statusOf interactionId = some status → status.terminal →
    status ≠ .completed → .released ∈ w.settlementsOf reservationId

end World

namespace AiState

/-- No call under way works on the interaction. -/
def idle (s : AiState) (interactionId : Uuid) : Bool :=
  s.running.all fun call => !call.program.active || call.subject ≠ some interactionId

/-- The request, its tasks and the prediction they started have finished. -/
def finished (s : AiState) (interactionId : Uuid) : Bool :=
  s.idle interactionId && !s.world.awaits interactionId &&
    s.world.tasks.all fun task => task.interactionId ≠ interactionId

/-- In this state every finished interaction is charged as its outcome demands. -/
def Charged (s : AiState) : Prop :=
  ∀ reservationId interactionId, (reservationId, interactionId) ∈ s.world.reservations →
    s.finished interactionId → s.world.ChargedRight interactionId reservationId

end AiState

/-! ## Runs in which nothing goes wrong at the wrong place -/

section

variable (settings : AISettings) (loads : String → Option Json)

/-- The score of a summary is a number, and a palette is completed with colors. -/
def Call.tolerates : Call → (question : Question) → question.Answer → Bool
  | .command request, .completions .., attempts =>
      request.command ≠ .palette ||
        match completeFrom attempts 0 settings.openaiMaxRetries with
        | .ok completion =>
            !fiveColors (loads completion.content) ||
              (paletteColors (loads completion.content)).isSome
        | .error _ => false
  | .command _, .scanText _, reply => (scanScore reply).isSome
  | _, _, _ => true

def Call.isRequest : Call → Bool
  | .command _ | .consent _ => true
  | .task _ | .delivery _ => false

def Call.isDelivery : Call → Bool
  | .delivery _ => true
  | _ => false

/-- The delivery says that its prediction has succeeded, or why it failed. -/
def Call.decided : Call → Bool
  | .delivery report =>
      match report.status with
      | .succeeded => true
      | .failed => report.error.reason.isSome
      | _ => false
  | _ => false

def Call.mayRetry : Call → Bool
  | .task message => message.retries < maxRetries
  | _ => false

/-- No reservation was returned for the interaction that a call works on. -/
def World.unreserved (w : World) (subject : Option Uuid) : Bool :=
  w.reservations.all fun held => subject ≠ some held.2

/-- The write stores what stands for a prediction that has not been started. -/
def Write.placeholder : Write → Bool
  | .insertAsset row => row.replicatePredictionId = "pending"
  | .updateAsset _ change => change.replicatePredictionId = some "pending"
  | _ => false

/--
The operation of a call goes well enough: once credits are reserved, transactions
and publishing succeed, and no asset gets the placeholder of a prediction while
another has it; releases are carried out (and answered, in a delivery); a
commit is carried out and answered (or, in a delivery, is not carried out); the
last try at a prediction gets one; and a delivery is processed at most once, after
the task has stored its prediction.
-/
def AiState.goesWell (s : AiState) (call : Call) (subject : Option Uuid) :
    (op : Op) → op.Reply → Bool
  | .ask question, answer => call.tolerates settings loads question answer
  | .save writes, answer =>
      s.world.unreserved subject || answer.toBool &&
        (!writes.any Write.placeholder || (s.world.assets.lookupAlt "pending").isNone)
  | .settle _ .released _, answer =>
      answer.carriedOut && (answer.reply.body.toBool || !call.isDelivery)
  | .settle _ .committed _, answer =>
      answer.reply.body.toBool || call.isDelivery && !answer.carriedOut
  | .enqueue _, answer => answer.toBool
  | .predict _, answer =>
      call.mayRetry || match answer.body with
        | .ok (some _) => true
        | _ => false
  | .isMarked predictionId, answer =>
      !answer.toBool || predictionId ∈ s.world.marked || call.decided &&
        match s.world.interactionOf predictionId with
        | some row => row.status = .processing && s.idle row.id
        | none => false
  | _, _ => true

def AiState.untroubled (s : AiState) : AiEvent → Bool
  | .advance index answer =>
      match s.running[index]? with
      | some ⟨call, subject, .call op _⟩ => s.goesWell settings loads call subject op (answer op)
      | _ => true
  | _ => true

end

end ColabPlatform.Ai
