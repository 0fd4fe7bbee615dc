import ColabPlatform.Ai.CallSpecs

/-!
# What a generation leaves behind

The approval of a consent puts a task in the queue, the task starts a prediction,
and the webhook settles it.
-/

namespace ColabPlatform.Ai

open Foundation Foundation.Process
open Billing (Uuid Timestamp)
open Common

variable {settings : AISettings} {loads : String → Option Json}

/-! ## Consent -/

theorem getCollabParticipants_quiet {collabId : Uuid} :
    (getCollabParticipants collabId).Uses Op.Quiet := by
  refine uses_bind ask_quiet fun reply => ?_
  cases reply with
  | raised text => trivial
  | response status participants =>
      dsimp only
      split <;> trivial

theorem createConsent_ensures {consent : ConsentCall} {userId : Uuid} :
    Ensures ((Call.consent consent).contract settings loads) (Call.consent consent).Leaves (createConsent consent userId) {} := by
  have drawn : (draw .consent).Uses Op.Quiet := uses_perform.2 trivial
  refine quiet_then drawn ⟨rfl, rfl⟩ (fun _ => blank_leaves rfl) fun id => ?_
  refine ensures_bind.2 (save_ensures ⟨rfl, rfl⟩ ?_ (fun held => absurd rfl held) (blank_leaves rfl)
    fun _ result => ?_)
  · exact List.forall_mem_singleton.2 trivial
  · cases result with
    | error text => exact blank_leaves rfl
    | ok done => exact blank_leaves rfl

theorem approveConsent_ensures {consent : ConsentCall} {userId : Uuid}
    {existing : MockupConsent} :
    Ensures ((Call.consent consent).contract settings loads) (Call.consent consent).Leaves
      (approveConsent settings consent userId existing) {} := by
  have entitled : (tryCatch (checkEntitlement userId) fun _ => pure none).Uses Op.Quiet :=
    uses_tryCatch checkEntitlement_quiet fun _ => trivial
  unfold approveConsent
  refine quiet_then entitled ⟨rfl, rfl⟩ (fun _ => blank_leaves rfl) fun tier => ?_
  cases tier with
  | none => exact blank_leaves rfl
  | some tier =>
      refine ensures_bind.2 (drawInteraction_ensures rfl ⟨rfl, rfl⟩ rfl fun id => ?_)
      refine ensures_bind.2 (reserveCredits_ensures rfl ⟨rfl, rfl⟩ rfl ?_ ?_ ?_)
      · intro reservationId
        refine ensures_bind.2 (drawAsset_ensures ⟨rfl, rfl⟩ (Option.some_ne_none _) fun assetId => ?_)
        refine ensures_bind.2
          (save_held ⟨rfl, rfl⟩ List.mem_cons_self ?_ ⟨trivial, rfl, rfl, trivial⟩ ?_)
        · refine List.forall_mem_cons.2 ⟨trivial, List.forall_mem_cons.2 ⟨⟨rfl, rfl⟩, ?_⟩⟩
          exact List.forall_mem_singleton.2 ⟨List.mem_cons_self, rfl⟩
        · refine ensures_bind.2 (enqueue_ensures ⟨rfl, rfl⟩ rfl ?_)
          exact Cell.Generating.leaves rfl
            { ident := rfl
              stored := rfl
              assets := rfl
              owned := List.mem_cons_self
              linked := rfl
              reserved := rfl
              recorded := rfl
              unsettled := rfl } rfl rfl rfl
      · refine reject_ensures ?_ rfl _ rfl rfl
        exact List.forall_mem_cons.2 ⟨trivial, List.forall_mem_singleton.2 ⟨rfl, rfl⟩⟩
      · intro error
        exact blank_leaves rfl

theorem mockupConsent_ensures (consent : ConsentCall) :
    Ensures ((Call.consent consent).contract settings loads) (Call.consent consent).Leaves
      (mockupConsent settings consent) {} := by
  unfold mockupConsent
  refine quiet_then getUserId_quiet ⟨rfl, rfl⟩ (fun _ => blank_leaves rfl) fun userId => ?_
  refine quiet_then getCollabParticipants_quiet ⟨rfl, rfl⟩ (fun _ => blank_leaves rfl) fun participants => ?_
  dsimp only
  split
  · exact blank_leaves rfl
  refine ensures_perform_bind.2 ⟨⟨⟨rfl, rfl⟩, trivial⟩, fun existing c answered => ?_⟩
  obtain rfl : c = {} := answered
  cases existing with
  | none => exact createConsent_ensures
  | some existing =>
      dsimp only
      split
      · exact approveConsent_ensures
      · split
        · exact blank_leaves rfl
        · exact createConsent_ensures

/-- An update of the only asset of a cell. -/
theorem map_only {assets : List MockupAsset} {asset : MockupAsset} {id : Uuid}
    (only : assets = [asset]) (own : id = asset.id) (change : AssetChange) :
    (assets.map fun row => if row.id = id then row.set change else row) =
      [asset.set change] := by
  simp [only, own]

/-- The only asset of a generation may be changed. -/
theorem Cell.Generating.fits_update {c : Cell} {row : AIInteraction} {asset : MockupAsset}
    {reservationId id : Uuid} {change : AssetChange}
    (generating : c.Generating row asset reservationId) (own : id = asset.id) :
    (∃ stored ∈ c.assets, stored.id = id) ∧ ∀ stored ∈ c.assets,
      change.replicatePredictionId = some stored.replicatePredictionId → stored.id = id := by
  simp [generating.assets, own]

/-! ## The task -/

theorem Call.Leaves.of_task {task : GenerationTask} {result : Except Failure Response} {c : Cell}
    (rest : (c.respond result).Rest) : (Call.task task).Leaves result c :=
  ⟨rest, (fun request => by cases request), fun delivery => by cases delivery⟩

/-- A task that is put in the queue again. -/
theorem retry_ensures {c : Cell} {row : AIInteraction} {asset : MockupAsset}
    {reservationId : Uuid} {task : GenerationTask} {error : Failure}
    (again : (Call.task task).mayRetry = true)
    (generating : c.Generating row asset reservationId) (status : row.status = .queued)
    (opened : c.Open) (unstarted : c.predictions = []) (own : task.interactionId = row.id)
    (uses : task.assetId = asset.id) :
    Ensures ((Call.task task).contract settings loads) (Call.task task).Leaves (retry task error) c := by
  unfold retry
  rw [if_pos (of_decide_eq_true again)]
  refine ensures_bind.2
    (enqueue_ensures opened (generating.ident.trans (congrArg some own.symm)) ?_)
  exact .of_task (generating.queued status uses unstarted)

theorem runTask_ensures {c : Cell} {row : AIInteraction} {asset : MockupAsset}
    {reservationId : Uuid} {task : GenerationTask}
    (generating : c.Generating row asset reservationId) (status : row.status = .queued)
    (opened : c.Open) (unstarted : c.predictions = []) (own : task.interactionId = row.id)
    (uses : task.assetId = asset.id) :
    Ensures ((Call.task task).contract settings loads) (Call.task task).Leaves (runTask settings task) c := by
  have held : reservationId ∈ c.reservations := by
    rw [generating.reserved]
    exact List.mem_cons_self
  have body : ∀ kind, Ensures ((Call.task task).contract settings loads) (Call.task task).Leaves
      (enqueuePrediction (createPrediction settings kind task.prompt task.tier) task) c := by
    intro kind
    refine ensures_tryCatch.2 (ensures_bind.2 (createPrediction_ensures opened
      (by rw [generating.ident]; exact Option.some_ne_none _) ?_ ?_))
    · intro predictionId _
      refine ensures_bind.2
        (save_held ⟨opened.idle, opened.unmarked⟩ held ?_ ⟨trivial, generating.fits_update uses, trivial⟩ ?_)
      · refine List.forall_mem_cons.2 ⟨⟨?_, ?_⟩, List.forall_mem_singleton.2 ⟨?_, ?_⟩⟩
        · exact generating.ident.trans (congrArg some own.symm)
        · rintro p ⟨⟩
          exact List.mem_cons_self
        · change task.assetId ∈ c.assetIds
          rw [uses]
          exact generating.owned
        · rintro p ⟨⟩
          exact List.mem_cons_self
      · refine .of_task (Cell.Rest.predicted
          (row.set { replicatePredictionId := some predictionId, status := some .processing })
          (asset.set { replicatePredictionId := some predictionId })
          reservationId predictionId ?_ opened.idle)
        exact
          { ident := generating.ident
            stored := congrArg (Option.map _) generating.stored
            assets := map_only generating.assets uses _
            owned := generating.owned
            linked := generating.linked
            reserved := generating.reserved
            recorded := generating.recorded
            unsettled := generating.unsettled
            processing := rfl
            rowPrediction := rfl
            assetPrediction := rfl
            started := congrArg (List.cons predictionId) unstarted
            unmarked := opened.unmarked }
    · intro again error
      exact retry_ensures again generating status opened unstarted own uses
  unfold runTask
  cases task.kind with
  | image => exact body .image
  | audio => exact body .audio

/-! ## The webhook -/

namespace Cell

/-- A generation that a delivery works on, with the rows that it has read. -/
structure Underway (c : Cell) (interaction : AIInteraction) (asset : MockupAsset)
    (reservationId : Uuid) (predictionId : String) : Prop where
  generating : ∃ row stored, c.Generating row stored reservationId ∧
    interaction.id = row.id ∧ asset.id = stored.id
  recorded : interaction.billingReservationId = some reservationId
  opened : c.Open
  started : predictionId ∈ c.predictions

/-- The generation is closed, and the key of its prediction may be set. -/
structure Over (c : Cell) (predictionId : String) : Prop where
  closed : ∃ row reservationId, c.Closed row reservationId
  opened : c.Open
  started : predictionId ∈ c.predictions

/-- The rows of a generation as a delivery changes them. -/
def report (c : Cell) (interactionId assetId : Uuid) (change : InteractionChange)
    (assetChange : AssetChange) : Cell :=
  c.applyAll [.updateInteraction interactionId change, .updateAsset assetId assetChange]

variable {c : Cell} {interaction : AIInteraction} {asset : MockupAsset}
  {reservationId : Uuid} {predictionId : String} {change : InteractionChange}
  {assetChange : AssetChange}

theorem Generating.report {row : AIInteraction} (generating : c.Generating row asset reservationId)
    (unlinked : change.mockupAssetId = none) :
    (c.report row.id asset.id change assetChange).Generating (row.set change)
      (asset.set assetChange) reservationId where
  ident := generating.ident
  stored := congrArg (Option.map _) generating.stored
  assets := map_only generating.assets rfl _
  owned := generating.owned
  linked := by
    change change.mockupAssetId.or row.mockupAssetId = some asset.id
    rw [unlinked]
    exact generating.linked
  reserved := generating.reserved
  recorded := generating.recorded
  unsettled := generating.unsettled

namespace Underway

variable (underway : c.Underway interaction asset reservationId predictionId)
include underway

theorem held : reservationId ∈ c.reservations := by
  obtain ⟨row, stored, generating, -⟩ := underway.generating
  rw [generating.reserved]
  exact List.mem_cons_self

theorem concerns (unpredicted : change.replicatePredictionId = none)
    (unnamed : assetChange.replicatePredictionId = none) :
    ∀ write ∈ [Write.updateInteraction interaction.id change, .updateAsset asset.id assetChange],
      c.Concerns write := by
  obtain ⟨row, stored, generating, same, own⟩ := underway.generating
  refine List.forall_mem_cons.2 ⟨⟨?_, by simp [unpredicted]⟩,
    List.forall_mem_singleton.2 ⟨?_, by simp [unnamed]⟩⟩
  · rw [same]
    exact generating.ident
  · rw [own]
    exact generating.owned

theorem fits :
    c.Fits [.updateInteraction interaction.id change, .updateAsset asset.id assetChange] := by
  obtain ⟨row, stored, generating, same, own⟩ := underway.generating
  exact ⟨trivial, generating.fits_update own, trivial⟩

theorem report (unlinked : change.mockupAssetId = none) :
    (c.report interaction.id asset.id change assetChange).Underway interaction asset
      reservationId predictionId := by
  obtain ⟨row, stored, generating, same, own⟩ := underway.generating
  refine ⟨⟨row.set change, stored.set assetChange, ?_, same, own⟩, underway.recorded,
    ⟨underway.opened.idle, underway.opened.unmarked⟩, underway.started⟩
  rw [same, own]
  exact generating.report unlinked

/-- A generation that is not completed is over with the release. -/
theorem released {outcome : InteractionStatus} (unlinked : change.mockupAssetId = none)
    (sets : change.status = some outcome) (terminal : outcome.terminal)
    (incomplete : outcome ≠ .completed) :
    Over { c.report interaction.id asset.id change assetChange with
      settlements := (reservationId, .released) :: c.settlements } predictionId := by
  obtain ⟨row, stored, generating, same, own⟩ := underway.generating
  have reported : (c.report interaction.id asset.id change assetChange).Generating
      (row.set change) (stored.set assetChange) reservationId := by
    rw [same, own]
    exact generating.report unlinked
  have status : (row.set change).status = outcome := by simp [AIInteraction.set, sets]
  refine ⟨⟨row.set change, reservationId, ?_⟩, ⟨underway.opened.idle, underway.opened.unmarked⟩, underway.started⟩
  exact
    { stored := reported.stored
      reserved := reported.reserved
      terminal := by rw [status]; exact terminal
      settled := Or.inr ⟨by rw [status]; exact incomplete,
        congrArg (List.cons _) generating.unsettled⟩ }

/-- A generation whose asset is stored is over with the charge. -/
theorem committed {key : String} (unlinked : change.mockupAssetId = none)
    (sets : change.status = some .completed) (stores : assetChange.s3Key = some key)
    (nonempty : key ≠ "") (activates : assetChange.active = some true) :
    Over { c.report interaction.id asset.id change assetChange with
      settlements := (reservationId, .committed) :: c.settlements } predictionId := by
  obtain ⟨row, stored, generating, same, own⟩ := underway.generating
  have reported : (c.report interaction.id asset.id change assetChange).Generating
      (row.set change) (stored.set assetChange) reservationId := by
    rw [same, own]
    exact generating.report unlinked
  have status : (row.set change).status = .completed := by simp [AIInteraction.set, sets]
  refine ⟨⟨row.set change, reservationId, ?_⟩, ⟨underway.opened.idle, underway.opened.unmarked⟩, underway.started⟩
  have delivered : (c.report interaction.id asset.id change assetChange).Delivered := by
    refine Or.inr ⟨row.set change, reported.stored, stored.set assetChange, ?_,
      reported.linked, ?_, ?_⟩
    · rw [reported.assets]
      exact List.mem_cons_self
    · simp [MockupAsset.set, activates]
    · simpa [MockupAsset.set, stores] using nonempty
  exact
    { stored := reported.stored
      reserved := reported.reserved
      terminal := by rw [status]; rfl
      settled := Or.inl ⟨status, delivered, congrArg (List.cons _) generating.unsettled⟩ }

end Underway

end Cell

theorem lifespanDays_quiet {asset : Option MockupAsset} :
    (lifespanDays asset).Uses Op.Quiet := by
  unfold lifespanDays
  split
  · trivial
  · refine uses_bind (uses_perform.2 trivial) fun consent => ?_
    cases consent <;> trivial

section

variable {delivery : Delivery} {c : Cell} {interaction : AIInteraction} {asset : MockupAsset}
  {reservationId : Uuid} {predictionId : String} {post : Except Failure Unit → Cell → Prop}
  (underway : c.Underway interaction asset reservationId predictionId)
include underway

theorem report_ensures {change : InteractionChange} {assetChange : AssetChange}
    (unpredicted : change.replicatePredictionId = none)
    (unnamed : assetChange.replicatePredictionId = none)
    (reported : post (.ok ()) (c.report interaction.id asset.id change assetChange)) :
    Ensures ((Call.delivery delivery).contract settings loads) post
      (save [.updateInteraction interaction.id change, .updateAsset asset.id assetChange]) c :=
  save_held ⟨underway.opened.idle, underway.opened.unmarked⟩ underway.held (underway.concerns unpredicted unnamed) underway.fits
    reported

theorem release_ensures {reason : String}
    (released : post (.ok ()) { c with
      settlements := (reservationId, .released) :: c.settlements }) :
    Ensures ((Call.delivery delivery).contract settings loads) post
      (releaseReservation reservationId reason) c :=
  releaseReservation_ensures ⟨underway.opened.idle, underway.opened.unmarked⟩ underway.held released fun request => by cases request

theorem handleFailure_ensures {reason : String}
    (ended : ∀ c', c'.Over predictionId → post (.ok ()) c') :
    Ensures ((Call.delivery delivery).contract settings loads) post
      (handleFailure interaction (some asset) (some reason)) c := by
  unfold handleFailure
  refine ensures_bind.2 (report_ensures underway rfl rfl ?_)
  rw [underway.recorded]
  exact release_ensures (underway.report rfl)
    (ended _ (underway.released rfl rfl rfl (by decide)))

theorem blockAsset_ensures {score : Score}
    (ended : ∀ c', c'.Over predictionId → post (.ok ()) c') :
    Ensures ((Call.delivery delivery).contract settings loads) post
      (blockAsset interaction (some asset) score) c := by
  unfold blockAsset
  refine ensures_bind.2 (report_ensures underway rfl rfl ?_)
  refine ensures_perform_bind.2 ⟨⟨⟨underway.opened.idle, underway.opened.unmarked⟩, trivial⟩, fun reply c' answered => ?_⟩
  obtain ⟨rfl, -⟩ := answered
  rw [underway.recorded]
  exact release_ensures (underway.report rfl)
    (ended _ (underway.released rfl rfl rfl (by decide)))

/-- An asset is stored and charged, or the generation goes on to be reported as failed. -/
theorem storeAsset_ensures {kind : AssetKind} {bytes : List UInt8} {score : Score}
    (ended : ∀ c', c'.Over predictionId → post (.ok ()) c')
    (failed : ∀ error c', c'.Underway interaction asset reservationId predictionId →
      post (.error error) c') :
    Ensures ((Call.delivery delivery).contract settings loads) post
      (storeAsset delivery interaction (some asset) kind bytes score) c := by
  have raised := fun error => failed error c underway
  unfold storeAsset
  refine quiet_then ask_quiet ⟨underway.opened.idle, underway.opened.unmarked⟩ raised fun marked => ?_
  refine quiet_then orRaise_quiet ⟨underway.opened.idle, underway.opened.unmarked⟩ raised fun watermarked => ?_
  split
  rename_i contentType ext _
  have nonempty : "mockups/" ++ (interaction.collabId.getD delivery.drawnCollab).text ++ "/" ++
      asset.id.text ++ "/" ++ ext ≠ "" := by
    simp [String.append_eq_empty_iff]
  refine quiet_then ask_quiet ⟨underway.opened.idle, underway.opened.unmarked⟩ raised fun uploaded => ?_
  refine quiet_then orRaise_quiet ⟨underway.opened.idle, underway.opened.unmarked⟩ raised fun _ => ?_
  refine quiet_then lifespanDays_quiet ⟨underway.opened.idle, underway.opened.unmarked⟩ raised fun days => ?_
  refine ensures_bind.2 (report_ensures underway rfl rfl ?_)
  rw [underway.recorded]
  refine commitReservation_ensures ⟨underway.opened.idle, underway.opened.unmarked⟩ underway.held
    (ended _ (underway.committed rfl rfl rfl nonempty rfl)) fun _ error => ?_
  exact failed error _ (underway.report rfl)

theorem handleSuccess_ensures {artifactUrl : Option String}
    (ended : ∀ c', c'.Over predictionId → post (.ok ()) c')
    (failed : ∀ error c', c'.Underway interaction asset reservationId predictionId →
      post (.error error) c') :
    Ensures ((Call.delivery delivery).contract settings loads) post
      (handleSuccess settings delivery interaction (some asset) artifactUrl) c := by
  have raised := fun error => failed error c underway
  unfold handleSuccess
  refine quiet_then ask_quiet ⟨underway.opened.idle, underway.opened.unmarked⟩ raised fun downloaded => ?_
  refine quiet_then orRaise_quiet ⟨underway.opened.idle, underway.opened.unmarked⟩ raised fun bytes => ?_
  simp only [Option.map_some, Option.getD_some]
  cases asset.kind with
  | image =>
      refine quiet_then scanImage_quiet ⟨underway.opened.idle, underway.opened.unmarked⟩ raised fun score => ?_
      refine quiet_then reaches_quiet ⟨underway.opened.idle, underway.opened.unmarked⟩ raised fun blocked => ?_
      cases blocked with
      | true => exact blockAsset_ensures underway ended
      | false => exact storeAsset_ensures underway ended failed
  | audio => exact storeAsset_ensures underway ended failed

/-- A delivery that reports how the prediction has ended settles the reservation. -/
theorem handlePrediction_ensures {post : Except Failure String → Cell → Prop}
    (decided : (Call.delivery delivery).decided = true)
    (ended : ∀ status c', c'.Over predictionId → post (.ok status) c') :
    Ensures ((Call.delivery delivery).contract settings loads) post
      (handlePrediction settings delivery interaction (some asset)) c := by
  have failure : ∀ reason, Ensures ((Call.delivery delivery).contract settings loads) post
      (do
        handleFailure interaction (some asset) (some reason)
        return "failure_handled") c := fun reason =>
    ensures_bind.2 (handleFailure_ensures underway fun c' settled => ended _ c' settled)
  unfold handlePrediction
  simp only [Call.decided] at decided
  cases status : delivery.status with
  | starting | processing | canceled => simp [status] at decided
  | failed =>
      obtain ⟨reason, found⟩ := Option.isSome_iff_exists.1
        (show delivery.error.reason.isSome = true by simpa [status] using decided)
      dsimp only
      rw [found]
      exact failure reason
  | succeeded =>
      cases delivery.output.artifact with
      | none => exact failure _
      | some artifactUrl =>
          refine ensures_bind.2 (ensures_tryCatch.2 (handleSuccess_ensures underway ?_ ?_))
          · exact fun c' settled => ended _ c' settled
          · intro error c' still
            exact handleFailure_ensures still fun c'' settled => ended _ c'' settled

end

theorem Cell.Predicted.underway {c : Cell} {row : AIInteraction} {asset : MockupAsset}
    {reservationId : Uuid} {predictionId : String}
    (predicted : c.Predicted row asset reservationId predictionId) (idle : c.tasks = []) :
    c.Underway row asset reservationId predictionId where
  generating := ⟨row, asset, predicted.toGenerating, rfl, rfl⟩
  recorded := predicted.recorded
  opened := ⟨idle, predicted.unmarked⟩
  started := by
    rw [predicted.started]
    exact List.mem_cons_self

theorem Cell.Closed.respond {c : Cell} {row : AIInteraction} {reservationId : Uuid}
    (closed : c.Closed row reservationId) (result : Except Failure Response) :
    (c.respond result).Closed row reservationId := by
  cases result with
  | error error => exact closed
  | ok response =>
      refine { closed with settled := closed.settled.imp_left fun charged => ?_ }
      refine ⟨charged.1, charged.2.1.imp_left ?_, charged.2.2⟩
      rintro ⟨sent, mem, carries⟩
      exact ⟨sent, List.mem_cons_of_mem _ mem, carries⟩

theorem Cell.Closed.leaves {delivery : Delivery} {c : Cell} {row : AIInteraction}
    {reservationId : Uuid} {result : Except Failure Response}
    (closed : c.Closed row reservationId) (idle : c.tasks = []) :
    (Call.delivery delivery).Leaves result c := by
  refine ⟨.closed row reservationId (closed.respond result) ?_, (fun request => by cases request),
    fun _ _ => ⟨row, reservationId, closed⟩⟩
  cases result <;> exact idle

/-- A delivery that is not processed. -/
theorem untouched_leaves {delivery : Delivery} {result : Except Failure Response} :
    (Call.delivery delivery).Leaves result {} := by
  refine ⟨?_, (fun request => by cases request), fun _ known => absurd rfl known⟩
  cases result with
  | error error => exact .unreserved rfl rfl rfl fun row stored => by cases stored
  | ok response => exact .unreserved rfl rfl rfl fun row stored => by cases stored

/-- The key of a generation that is over may be set. -/
theorem markPrediction_ensures {delivery : Delivery} {c : Cell} {predictionId : String}
    {response : Response} (decided : (Call.delivery delivery).decided = true)
    (ended : c.Over predictionId) :
    Ensures ((Call.delivery delivery).contract settings loads) (Call.delivery delivery).Leaves
      (do
        markPrediction predictionId
        return response) c := by
  refine ensures_bind.2 (ensures_perform_bind.2 ⟨⟨ended.opened, ended.started, decided⟩, ?_⟩)
  rintro reply c' answered
  obtain ⟨row, reservationId, closed⟩ := ended.closed
  have still : c'.Closed row reservationId ∧ c'.tasks = [] := by
    rcases answered with rfl | rfl
    · exact ⟨closed, ended.opened.idle⟩
    · exact ⟨{ closed with }, ended.opened.idle⟩
  cases reply with
  | error text => exact still.1.leaves still.2
  | ok done => exact still.1.leaves still.2

theorem replicateWebhook_ensures (delivery : Delivery) :
    Ensures ((Call.delivery delivery).contract settings loads) (Call.delivery delivery).Leaves
      (replicateWebhook settings delivery) {} := by
  unfold replicateWebhook
  dsimp only
  split
  · exact untouched_leaves
  split
  · exact untouched_leaves
  refine ensures_perform_bind.2 ⟨⟨⟨rfl, rfl⟩, rfl⟩, fun read c answered => ?_⟩
  match read with
  | .error text =>
      obtain rfl : c = {} := answered
      exact untouched_leaves
  | .ok true =>
      obtain rfl : c = {} := answered
      exact untouched_leaves
  | .ok false =>
      obtain ⟨decided, rest, row, stored, processing, has⟩ := answered
      obtain ⟨asset, reservationId, predictionId, predicted, idle⟩ :=
        rest.predicted_of_processing stored processing
      obtain rfl : delivery.predictionId = predictionId :=
        Option.some.inj (has.symm.trans predicted.rowPrediction)
      have opened : c.Open := ⟨idle, predicted.unmarked⟩
      have known : asset ∈ c.assets := by
        rw [predicted.assets]
        exact List.mem_cons_self
      refine ensures_perform_bind.2 ⟨⟨opened, row, stored, has⟩, fun found c' answered => ?_⟩
      obtain ⟨rfl, rfl⟩ := answered
      refine ensures_perform_bind.2
        ⟨⟨opened, asset, known, predicted.assetPrediction⟩, fun found c'' answered => ?_⟩
      obtain ⟨rfl, only⟩ := answered
      obtain rfl := only asset known predicted.assetPrediction
      rw [stored]
      refine ensures_bind.2 (handlePrediction_ensures (predicted.underway idle) decided ?_)
      exact fun status c' ended => markPrediction_ensures decided ended

end ColabPlatform.Ai
