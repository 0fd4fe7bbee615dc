import ColabPlatform.Ai.CallSpecs
import ColabPlatform.Moderation.Scan

/-!
# Moderation of what is generated

The client of the moderation service sends a text without `ctx` and an image as
bytes.  Neither is a body that the scan endpoints accept, and the client reads
every refusal as a score of zero, so nothing that is generated is ever blocked.
-/

namespace ColabPlatform.Ai

open Foundation Foundation.Process
open Billing (Uuid Timestamp)
open Common

/-! ## The requests -/

/-- `json={"text": text}` -/
def textRequest (text : String) : Moderation.RequestBody := .json ⟨some text, none, none⟩

/-- `content=image_bytes`, with the type `image/png` -/
def imageRequest (_bytes : List UInt8) : Moderation.RequestBody := .other "image/png"

/-- A response of a scan endpoint as the client sees it. -/
def scanReply : Except Moderation.HttpError
    (Moderation.ScanResponse × List Moderation.AutoCase) → HttpReply (Option Score)
  | .ok (response, _) => .response 200 (some response.score)
  | .error error => .response error.status none

/-- How the scan of a text may be answered: by the moderation service, in any state and
with any results of its tools, or not at all.  The client does not name its service. -/
inductive TextAnswer (text : String) : HttpReply (Option Score) → Prop where
  | answered (deployment : Moderation.Deployment)
      (openai : Moderation.ToolRun Moderation.OpenAIModResult)
      (semdup : Moderation.ToolRun Moderation.SemdupRun) :
      TextAnswer text
        (scanReply (Moderation.scanText deployment "" (textRequest text) openai semdup))
  | raised (error : String) : TextAnswer text (.raised error)

inductive ImageAnswer (bytes : List UInt8) : HttpReply (Option Score) → Prop where
  | answered (deployment : Moderation.Deployment)
      (rekognition : Moderation.ToolRun (List Moderation.Label))
      (phash : Moderation.ToolRun String) :
      ImageAnswer bytes
        (scanReply (Moderation.scanImage deployment "" (imageRequest bytes) rekognition phash))
  | raised (error : String) : ImageAnswer bytes (.raised error)

theorem textScanRequest_refuses (text : String) :
    ∃ detail, Moderation.textScanRequest (textRequest text) = .error ⟨422, detail⟩ := by
  simp only [Moderation.textScanRequest, textRequest, Moderation.parsed, Moderation.required,
    bind, Except.bind]
  cases checked : Moderation.checkLength "text" text 1 (some 10000) with
  | ok _ => exact ⟨_, rfl⟩
  | error error =>
      unfold Moderation.checkLength at checked
      dsimp only at checked
      repeat' split at checked
      all_goals first | (obtain rfl := Except.error.inj checked; exact ⟨_, rfl⟩) | cases checked

theorem imageScanRequest_refuses (bytes : List UInt8) :
    ∃ detail, Moderation.imageScanRequest (imageRequest bytes) = .error ⟨422, detail⟩ :=
  ⟨_, rfl⟩

/-- Whatever the text, the client reads a score of zero. -/
theorem scanScore_of_textAnswer {text : String} {reply : HttpReply (Option Score)}
    (answered : TextAnswer text reply) : scanScore reply = some 0 := by
  cases answered with
  | raised error => rfl
  | answered deployment openai semdup =>
      obtain ⟨detail, refused⟩ := textScanRequest_refuses text
      rw [Moderation.scanText, refused]
      rfl

theorem scanScore_of_imageAnswer {bytes : List UInt8} {reply : HttpReply (Option Score)}
    (answered : ImageAnswer bytes reply) : scanScore reply = some 0 := by
  cases answered with
  | raised error => rfl
  | answered deployment rekognition phash => rfl

/-! ## Runs that never block -/

/-- The write of a block. -/
def Write.blocks : Write → Bool
  | .updateInteraction _ change => decide (change.status = some .moderationBlocked)
  | .updateAsset _ change => decide (change.moderationStatus = some .blocked)
  | .insertInteraction _ | .insertAsset _ | .insertConsent _ | .approveConsent .. => false

def Op.blocks : Op → Bool
  | .save writes => writes.any Write.blocks
  | _ => false

/-- The scans are answered by the moderation service, and nothing is blocked. -/
def nothingBlocked : Contract Op.Reply Unit where
  pre op _ := op.blocks = false
  post op _ reply _ :=
    match op, reply with
    | .ask (.scanText text), reply => TextAnswer text reply
    | .ask (.scanImage bytes), reply => ImageAnswer bytes reply
    | _, _ => True

/-- No run of the program blocks what was generated. -/
def NeverBlocks {α : Type} (program : AiM α) : Prop :=
  Ensures nothingBlocked (fun _ _ => True) program ()

variable {settings : AISettings} {loads : String → Option Json} {α β : Type}

theorem neverBlocks_of_uses {program : AiM α} (uses : program.Uses (·.blocks = false)) :
    NeverBlocks program :=
  uses.ensures (fun _ allowed => allowed) (fun _ _ _ _ _ => rfl) fun _ => trivial

theorem NeverBlocks.bind {program : AiM α} {next : α → AiM β} (first : NeverBlocks program)
    (rest : ∀ value, NeverBlocks (next value)) : NeverBlocks (program >>= next) := by
  refine ensures_bind.2 (Ensures.mono first fun result _ _ => ?_)
  cases result with
  | ok value => exact rest value
  | error error => trivial

theorem NeverBlocks.tryCatch {program : AiM α} {handler : Failure → AiM α}
    (first : NeverBlocks program) (rest : ∀ error, NeverBlocks (handler error)) :
    NeverBlocks (tryCatch program handler) := by
  refine ensures_tryCatch.2 (Ensures.mono first fun result _ _ => ?_)
  cases result with
  | ok value => trivial
  | error error => exact rest error

theorem neverBlocks_of_quiet {program : AiM α} (quiet : program.Uses Op.Quiet) :
    NeverBlocks program := by
  refine neverBlocks_of_uses (quiet.mono fun op allowed => ?_)
  cases op <;> first | rfl | cases allowed

theorem orRaise_uses {allowed : Op → Prop} {result : Except String α} :
    (orRaise result).Uses allowed := by
  cases result <;> trivial

theorem save_neverBlocks {writes : List Write} (harmless : writes.any Write.blocks = false) :
    NeverBlocks (save writes) :=
  neverBlocks_of_uses (uses_bind (uses_perform.2 harmless) fun _ => orRaise_uses)

/-- A call that neither saves nor is a scan. -/
theorem perform_neverBlocks {op : Op} (harmless : op.blocks = false) :
    NeverBlocks (Process.perform op : AiM op.Reply) :=
  neverBlocks_of_uses (uses_perform.2 harmless)

theorem pure_neverBlocks {value : α} : NeverBlocks (pure value : AiM α) := trivial

theorem releaseReservation_neverBlocks {reservationId : Uuid} {reason : String} :
    NeverBlocks (releaseReservation reservationId reason) := by
  refine (perform_neverBlocks rfl).bind fun answer => ?_
  split <;> trivial

theorem commitReservation_neverBlocks {reservationId : Uuid} :
    NeverBlocks (commitReservation reservationId) :=
  (perform_neverBlocks rfl).bind fun _ => neverBlocks_of_uses orRaise_uses

/-- A check that may end the program. -/
theorem refused_or {condition : Prop} [Decidable condition] {refusal : AiM β} {rest : AiM α}
    (refused : NeverBlocks refusal) (next : NeverBlocks rest) :
    NeverBlocks (if condition then refusal >>= fun _ => rest else rest) := by
  split
  · exact refused.bind fun _ => next
  · exact next

/-! ### Commands -/

-- the prompt is only compared, never computed with
attribute [local irreducible] strip

theorem refuse_neverBlocks {held : HeldCall} {change : InteractionChange} {reason detail : String}
    {status : Nat} (harmless : change.status ≠ some .moderationBlocked) :
    NeverBlocks (refuse held change reason status detail : AiM α) := by
  refine (save_neverBlocks ?_).bind fun _ => releaseReservation_neverBlocks.bind fun _ => trivial
  simp [Write.blocks, harmless]

theorem complete_neverBlocks {held : HeldCall} {completion : Completion} :
    NeverBlocks (complete held completion) :=
  (save_neverBlocks rfl).bind fun _ => commitReservation_neverBlocks

theorem chatComplete_neverBlocks {messages : List ChatMessage} {model : String} {maxTokens : Nat} :
    NeverBlocks (chatComplete settings messages model maxTokens) :=
  neverBlocks_of_quiet chatComplete_quiet

/-- The scan reads zero. -/
theorem scanText_zero {text : String} {post : Except Failure (Option Score) → Unit → Prop}
    (scored : post (.ok (some 0)) ()) : Ensures nothingBlocked post (scanText text) () := by
  refine ensures_perform_bind.2 ⟨rfl, fun reply _ answered => ?_⟩
  change post (.ok (scanScore reply)) ()
  rw [scanScore_of_textAnswer answered]
  exact scored

theorem scanImage_zero {bytes : List UInt8} {post : Except Failure (Option Score) → Unit → Prop}
    (scored : post (.ok (some 0)) ()) : Ensures nothingBlocked post (scanImage bytes) () := by
  refine ensures_perform_bind.2 ⟨rfl, fun reply _ answered => ?_⟩
  change post (.ok (scanScore reply)) ()
  rw [scanScore_of_imageAnswer answered]
  exact scored

/-- And zero does not reach a positive threshold. -/
theorem reaches_zero {threshold : Score} (positive : 0 < threshold)
    {post : Except Failure Bool → Unit → Prop} (passed : post (.ok false) ()) :
    Ensures nothingBlocked post (reaches (some 0) threshold) () := by
  change post (.ok (decide (threshold ≤ 0))) ()
  rw [decide_eq_false (not_le_of_gt positive)]
  exact passed

theorem runSummarize_neverBlocks (positive : 0 < settings.moderationBlockThreshold)
    {held : HeldCall} : NeverBlocks (runSummarize settings held) := by
  unfold runSummarize
  refine NeverBlocks.bind ?_ fun completion => ?_
  · exact (neverBlocks_of_quiet handleSummarize_quiet).tryCatch fun error =>
      refuse_neverBlocks (by simp)
  · refine ensures_bind.2 (scanText_zero ?_)
    refine ensures_bind.2 (reaches_zero positive ?_)
    exact complete_neverBlocks.bind fun _ => pure_neverBlocks

theorem runBrainstorm_neverBlocks {held : HeldCall} :
    NeverBlocks (runBrainstorm settings held) := by
  unfold runBrainstorm
  generalize strip (held.request.prompt.getD "") = topic
  dsimp only
  refine refused_or (refuse_neverBlocks (by simp)) (NeverBlocks.bind ?_ fun completion => ?_)
  · exact (neverBlocks_of_quiet handleBrainstorm_quiet).tryCatch fun error =>
      refuse_neverBlocks (by simp)
  · exact complete_neverBlocks.bind fun _ => pure_neverBlocks

theorem paletteAttempts_neverBlocks {description : String} {draft : PaletteDraft} (left : Nat) :
    NeverBlocks (paletteAttempts settings loads description draft left) := by
  induction left generalizing draft with
  | zero => exact pure_neverBlocks
  | succ left ih =>
      refine chatComplete_neverBlocks.bind fun completion => ?_
      split
      · exact pure_neverBlocks
      · exact ih

theorem runPalette_neverBlocks {held : HeldCall} :
    NeverBlocks (runPalette settings loads held) := by
  unfold runPalette
  generalize strip (held.request.prompt.getD "") = description
  dsimp only
  refine refused_or (refuse_neverBlocks (by simp)) ?_
  refine (paletteAttempts_neverBlocks 2).bind fun draft => ?_
  refine refused_or (refuse_neverBlocks (by simp)) ?_
  refine complete_neverBlocks.bind fun _ => ?_
  split <;> trivial

theorem runMockup_neverBlocks {held : HeldCall} {kind : AssetKind} :
    NeverBlocks (runMockup held kind) := by
  unfold runMockup
  generalize strip (held.request.prompt.getD "") = prompt
  dsimp only
  refine refused_or (refuse_neverBlocks (by simp)) ?_
  refine (perform_neverBlocks rfl).bind fun assetId => ?_
  refine (save_neverBlocks ?_).bind fun _ => ?_
  · simp [Write.blocks]
  · exact ((perform_neverBlocks rfl).bind fun _ => neverBlocks_of_uses orRaise_uses).bind
      fun _ => pure_neverBlocks

/-- No branch of a command blocks its output. -/
theorem runBranch_neverBlocks (positive : 0 < settings.moderationBlockThreshold)
    (held : HeldCall) : NeverBlocks (runBranch settings loads held) := by
  unfold runBranch
  cases held.request.command with
  | summarizeChat => exact runSummarize_neverBlocks positive
  | brainstorm => exact runBrainstorm_neverBlocks
  | palette => exact runPalette_neverBlocks
  | mockupImage => exact runMockup_neverBlocks
  | mockupAudio => exact runMockup_neverBlocks

/-! ### The webhook -/

theorem handleFailure_neverBlocks {interaction : AIInteraction} {asset : Option MockupAsset}
    {reason : Option String} : NeverBlocks (handleFailure interaction asset reason) := by
  refine (save_neverBlocks ?_).bind fun _ => ?_
  · cases asset <;> simp [Write.blocks]
  · split
    · trivial
    · trivial
    · exact releaseReservation_neverBlocks

theorem lifespanDays_neverBlocks {asset : Option MockupAsset} :
    NeverBlocks (lifespanDays asset) := by
  unfold lifespanDays
  split
  · trivial
  · refine (perform_neverBlocks rfl).bind fun consent => ?_
    split <;> trivial

theorem storeAsset_neverBlocks {delivery : Delivery} {interaction : AIInteraction}
    {asset : Option MockupAsset} {kind : AssetKind} {bytes : List UInt8} {score : Score} :
    NeverBlocks (storeAsset delivery interaction asset kind bytes score) := by
  unfold storeAsset
  refine (perform_neverBlocks rfl).bind fun reply => ?_
  refine (neverBlocks_of_uses orRaise_uses).bind fun watermarked => ?_
  refine (perform_neverBlocks rfl).bind fun uploaded => ?_
  refine (neverBlocks_of_uses orRaise_uses).bind fun _ => ?_
  refine lifespanDays_neverBlocks.bind fun days => ?_
  refine (save_neverBlocks ?_).bind fun _ => ?_
  · cases asset <;> simp [Write.blocks]
  · split
    · trivial
    · exact commitReservation_neverBlocks

theorem handleSuccess_neverBlocks (positive : 0 < settings.moderationBlockThreshold)
    {delivery : Delivery} {interaction : AIInteraction} {asset : Option MockupAsset}
    {artifactUrl : Option String} :
    NeverBlocks (handleSuccess settings delivery interaction asset artifactUrl) := by
  unfold handleSuccess
  refine (perform_neverBlocks rfl).bind fun reply => ?_
  refine (neverBlocks_of_uses orRaise_uses).bind fun bytes => ?_
  dsimp only
  split
  · refine ensures_bind.2 (scanImage_zero ?_)
    refine ensures_bind.2 (reaches_zero positive ?_)
    exact storeAsset_neverBlocks
  · exact storeAsset_neverBlocks

/-- No delivery of a prediction blocks what was generated. -/
theorem handlePrediction_neverBlocks (positive : 0 < settings.moderationBlockThreshold)
    (delivery : Delivery) (interaction : AIInteraction) (asset : Option MockupAsset) :
    NeverBlocks (handlePrediction settings delivery interaction asset) := by
  unfold handlePrediction
  split
  · exact handleFailure_neverBlocks.bind fun _ => pure_neverBlocks
  · split
    · exact handleFailure_neverBlocks.bind fun _ => pure_neverBlocks
    · refine NeverBlocks.bind ?_ fun _ => pure_neverBlocks
      exact (handleSuccess_neverBlocks positive).tryCatch fun error => handleFailure_neverBlocks
  · exact pure_neverBlocks

/-! ## Output that is to be blocked -/

/-- No request of the client is accepted, every answer is read as zero, and with a positive
threshold no run of a command or of a delivery blocks what was generated. -/
theorem output_never_moderated (settings : AISettings) (loads : String → Option Json) :
    (∀ text, ∃ detail, Moderation.textScanRequest (textRequest text) = .error ⟨422, detail⟩) ∧
    (∀ bytes, ∃ detail, Moderation.imageScanRequest (imageRequest bytes) = .error ⟨422, detail⟩) ∧
    (∀ text reply, TextAnswer text reply → scanScore reply = some 0) ∧
    (∀ bytes reply, ImageAnswer bytes reply → scanScore reply = some 0) ∧
    (0 < settings.moderationBlockThreshold →
      (∀ held, NeverBlocks (runBranch settings loads held)) ∧
      ∀ delivery interaction asset,
        NeverBlocks (handlePrediction settings delivery interaction asset)) :=
  ⟨textScanRequest_refuses, imageScanRequest_refuses,
    fun _ _ => scanScore_of_textAnswer, fun _ _ => scanScore_of_imageAnswer,
    fun positive => ⟨runBranch_neverBlocks positive, handlePrediction_neverBlocks positive⟩⟩

/-! ### A summary and an image that are delivered -/

def demoDeployment : Moderation.Deployment := ⟨{}, "local", "case", 0, []⟩

def demoOpenai : Moderation.ToolRun Moderation.OpenAIModResult :=
  .completed ⟨true, [("violence", 95 / 100)], ["violence"]⟩

def demoSemdup : Moderation.ToolRun Moderation.SemdupRun := .completed (.embedded 3072)

def demoLabels : Moderation.ToolRun (List Moderation.Label) :=
  .completed [⟨"Explicit", "", 99⟩]

/-- The model writes a threat, the moderation service answers the scans, the rest succeeds. -/
def demoAnswer : (op : Op) → op.Reply
  | .ask (.completions ..) => fun _ => .completed ⟨"threat", 1, 1⟩
  | .ask (.scanText text) =>
      scanReply (Moderation.scanText demoDeployment "" (textRequest text) demoOpenai demoSemdup)
  | .ask (.scanImage bytes) =>
      scanReply (Moderation.scanImage demoDeployment "" (imageRequest bytes) demoLabels
        (.completed "c3a1"))
  | .ask (.countCall _) => .ok 1
  | .ask (.entitlement _) => .response 200 none
  | .ask (.participants _) => .response 200 []
  | .ask (.moderation _) => .ok []
  | .ask (.messages ..) => .response 200 []
  | .ask (.vocations _) => .response 200 []
  | .ask (.fileCase _) => ()
  | .ask (.download _) => .response 200 [1]
  | .ask (.watermark _ bytes) => .ok bytes
  | .ask (.upload ..) => .ok ()
  | .draw _ => ⟨"0"⟩
  | .reserve .. => .response 200 none
  | .settle .. => ⟨.response 200 (), true⟩
  | .save _ => .ok ()
  | .enqueue _ => .ok ()
  | .predict _ => .response 200 none
  | .isMarked _ => .ok false
  | .mark _ => .ok ()
  | .interactionOf _ => none
  | .assetOf _ => none
  | .consent _ => none
  | .openConsent _ => none

def demoHeld : HeldCall :=
  ⟨⟨⟨"1"⟩, some ⟨"2"⟩, .summarizeChat, none, 50, 0⟩, ⟨"2"⟩, .pro, 5, ⟨"3"⟩, ⟨"4"⟩⟩

def demoInteraction : AIInteraction :=
  { id := ⟨"3"⟩, userId := ⟨"2"⟩, command := .mockupImage, costCredits := 50,
    status := .processing, billingReservationId := some ⟨"4"⟩ }

def demoDelivery : Delivery :=
  { predictionId := "p", status := .succeeded, output := .url "https://out/1.png", now := 0,
    drawnCollab := ⟨"5"⟩, drawnAsset := ⟨"6"⟩ }

/-- The charge for what was generated. -/
def Op.charges : Op → Bool
  | .settle _ .committed _ => true
  | _ => false

theorem output_never_moderated_defaults :
    NeverBlocks (runBranch {} (fun _ => none) demoHeld) ∧
      NeverBlocks (handlePrediction {} demoDelivery demoInteraction none) :=
  have never := (output_never_moderated {} fun _ => none).2.2.2.2 (by decide +kernel)
  ⟨never.1 demoHeld, never.2 demoDelivery demoInteraction none⟩

/-- The moderation service would give both a score above 0.7. -/
theorem harmful_output_is_delivered :
    7 / 10 ≤ (Moderation.routeText {} demoOpenai demoSemdup).score ∧
    (runBranch {} (fun _ => none) demoHeld |>.run demoAnswer).1 =
      .ok (.text ⟨"3"⟩ .summarizeChat "threat" (some 1) (some 1) 5) ∧
    (runBranch {} (fun _ => none) demoHeld |>.run demoAnswer).2.any Op.charges = true ∧
    7 / 10 ≤ (Moderation.routeImage {} demoLabels (.completed "c3a1")).score ∧
    (handlePrediction {} demoDelivery demoInteraction none |>.run demoAnswer).2.any
      Op.charges = true ∧
    (handlePrediction {} demoDelivery demoInteraction none |>.run demoAnswer).2.any
      Op.blocks = false := by
  decide +kernel

end ColabPlatform.Ai
