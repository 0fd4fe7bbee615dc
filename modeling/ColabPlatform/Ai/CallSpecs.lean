import ColabPlatform.Ai.ClientSpecs

/-!
# What a call leaves behind

Each request, task and delivery, if its operations go well, ends with its cell at
rest: the reservation is settled as the outcome demands, or a task or a
prediction is under way that will settle it.
-/

namespace ColabPlatform.Ai

open Foundation Foundation.Process
open Billing (Uuid Timestamp)
open Common

/-- At rest, and every reservation was given back. -/
structure Cell.Refunded (c : Cell) : Prop where
  rest : c.Rest
  released : ∀ id ∈ c.reservations, (id, .released) ∈ c.settlements

namespace Call

/-- The requests that start the generation of an asset. -/
def generates : Call → Bool
  | .command request => request.command = .mockupImage ∨ request.command = .mockupAudio
  | .consent _ => true
  | .task _ | .delivery _ => false

/-- A request that fails gives its credits back, and a generation has its asset and task. -/
def Served (call : Call) : Except Failure Response → Cell → Prop
  | .error _, c => ∀ id ∈ c.reservations, (id, .released) ∈ c.settlements
  | .ok _, c => call.generates → c.reservations ≠ [] → c.assets ≠ [] ∧ c.tasks ≠ []

/--
The cell is at rest once the call has returned, and a delivery that works on an
interaction has closed it.
-/
structure Leaves (call : Call) (result : Except Failure Response) (c : Cell) : Prop where
  rest : (c.respond result).Rest
  served : call.isRequest → call.Served result c
  reported : call.isDelivery → c.id ≠ none → ∃ row reservationId, c.Closed row reservationId

theorem not_delivery {call : Call} (request : call.isRequest = true) :
    call.isDelivery = false := by
  cases call with
  | command | consent => rfl
  | task | delivery => cases request

/-- What a request leaves. -/
theorem Leaves.of_request {call : Call} {result : Except Failure Response} {c : Cell}
    (request : call.isRequest = true) (rest : (c.respond result).Rest)
    (served : call.Served result c) : call.Leaves result c :=
  ⟨rest, fun _ => served, fun delivery => by
    rw [not_delivery request] at delivery
    cases delivery⟩

end Call

theorem Cell.Refunded.leaves {call : Call} {error : Failure} {c : Cell} (refunded : c.Refunded)
    (request : call.isRequest = true) : call.Leaves (.error error) c :=
  .of_request request refunded.rest refunded.released

-- the prompt is only compared, never computed with
attribute [local irreducible] strip

variable {settings : AISettings} {loads : String → Option Json} {call : Call} {α : Type}

/-! ## Commands -/

/-- The row of a call whose credits are reserved. -/
def HeldCall.row (held : HeldCall) : AIInteraction :=
  { id := held.interactionId, userId := held.userId, roomId := some held.request.roomId,
    command := held.request.command, costCredits := held.cost, status := .queued,
    billingReservationId := some held.reservationId }

def HeldCall.cell (held : HeldCall) : Cell :=
  { id := some held.interactionId, row := some held.row,
    reservations := [held.reservationId] }

theorem refuse_ensures {held : HeldCall} {change : InteractionChange} {reason detail : String}
    {status : Nat} {post : Except Failure α → Cell → Prop} (outcome : InteractionStatus)
    (sets : change.status = some outcome) (terminal : outcome.terminal)
    (incomplete : outcome ≠ .completed) (unpredicted : change.replicatePredictionId = none)
    (refunded : ∀ error c, c.Refunded → post (.error error) c) :
    Ensures (call.contract settings loads) post (refuse held change reason status detail)
      held.cell := by
  have set : (held.row.set change).status = outcome := by simp [AIInteraction.set, sets]
  have back : Cell.Refunded
      { held.cell with
        row := some (held.row.set change)
        settlements := [(held.reservationId, .released)] } := by
    refine ⟨.closed (held.row.set change) held.reservationId ?_ rfl,
      List.forall_mem_singleton.2 List.mem_cons_self⟩
    exact
      { stored := rfl
        reserved := rfl
        terminal := by rw [set]; exact terminal
        settled := Or.inr ⟨by rw [set]; exact incomplete, rfl⟩ }
  refine ensures_bind.2 (save_held ⟨rfl, rfl⟩ List.mem_cons_self ?_ ⟨trivial, trivial⟩ ?_)
  · exact List.forall_mem_singleton.2 ⟨rfl, by simp [unpredicted]⟩
  · exact ensures_bind.2 (releaseReservation_ensures ⟨rfl, rfl⟩ List.mem_cons_self
      (refunded _ _ back) fun _ error => refunded _ _ back)

/-- The same in front of what a call would do next. -/
theorem refuse_then {β : Type} {held : HeldCall} {change : InteractionChange}
    {reason detail : String} {status : Nat} {next : α → AiM β}
    {post : Except Failure β → Cell → Prop} (outcome : InteractionStatus)
    (sets : change.status = some outcome) (terminal : outcome.terminal)
    (incomplete : outcome ≠ .completed) (unpredicted : change.replicatePredictionId = none)
    (refunded : ∀ error c, c.Refunded → post (.error error) c) :
    Ensures (call.contract settings loads) post
      (refuse held change reason status detail >>= next) held.cell :=
  ensures_bind.2 (refuse_ensures outcome sets terminal incomplete unpredicted refunded)

def HeldCall.completedRow (held : HeldCall) (completion : Completion) : AIInteraction :=
  held.row.set
    { status := some .completed
      inputTokens := some completion.inputTokens
      outputTokens := some completion.outputTokens
      completedAt := some held.request.now }

/-- The cell of a call that was charged. -/
def HeldCall.charged (held : HeldCall) (completion : Completion) : Cell :=
  { held.cell with
    row := some (held.completedRow completion)
    settlements := [(held.reservationId, .committed)] }

theorem complete_ensures {held : HeldCall} {completion : Completion}
    {post : Except Failure Unit → Cell → Prop} (request : call.isDelivery = false)
    (charged : post (.ok ()) (held.charged completion)) :
    Ensures (call.contract settings loads) post (complete held completion) held.cell := by
  refine ensures_bind.2 (save_held ⟨rfl, rfl⟩ List.mem_cons_self ?_ ⟨trivial, trivial⟩ ?_)
  · exact List.forall_mem_singleton.2 ⟨rfl, by simp⟩
  · refine commitReservation_ensures ⟨rfl, rfl⟩ List.mem_cons_self charged fun delivery => ?_
    rw [request] at delivery
    cases delivery

theorem charged_leaves {held : HeldCall} {completion : Completion} {response : Response}
    (request : call.isRequest = true) (text : call.generates = false) (result : response.result) :
    call.Leaves (.ok response) (held.charged completion) := by
  refine .of_request request
    (.closed (held.completedRow completion) held.reservationId ?_ rfl) fun generates => ?_
  · exact
      { stored := rfl
        reserved := rfl
        terminal := rfl
        settled := Or.inl ⟨rfl, Or.inl ⟨response, List.mem_cons_self, result⟩, rfl⟩ }
  · rw [text] at generates
    cases generates

/-- A command that is completed, charged and answered. -/
theorem complete_return {held : HeldCall} {completion : Completion} {response : Response}
    (request : call.isRequest = true) (text : call.generates = false)
    (result : response.result) :
    Ensures (call.contract settings loads) call.Leaves
      (do
        complete held completion
        return response) held.cell :=
  ensures_bind.2 (complete_ensures (Call.not_delivery request) (charged_leaves request text result))

/-! ### Text commands -/

theorem handleSummarize_quiet {roomId : Uuid} {n : Nat} :
    (handleSummarize settings roomId n).Uses Op.Quiet := by
  refine uses_bind ask_quiet fun reply => ?_
  split <;> exact chatComplete_quiet

theorem handleBrainstorm_quiet {topic : String} {userId : Uuid} :
    (handleBrainstorm settings topic userId).Uses Op.Quiet := by
  refine uses_bind ask_quiet fun reply => ?_
  split <;> exact chatComplete_quiet

theorem runSummarize_ensures {held : HeldCall} {request : CommandRequest}
    (text : (Call.command request).generates = false) :
    Ensures ((Call.command request).contract settings loads) (Call.command request).Leaves
      (runSummarize settings held) held.cell := by
  unfold runSummarize
  refine ensures_bind.2 (ensures_tryCatch.2 (quiet_ensures handleSummarize_quiet ⟨rfl, rfl⟩ ?_))
  intro result
  cases result with
  | error error =>
      exact refuse_ensures .failed rfl rfl (by decide) rfl fun _ _ back => back.leaves rfl
  | ok completion =>
      refine ensures_bind.2 (scanText_ensures rfl ⟨rfl, rfl⟩ fun score => ?_)
      refine ensures_bind.2 (reaches_ensures ?_)
      dsimp only
      split
      · exact refuse_then .moderationBlocked rfl rfl (by decide) rfl fun _ _ back => back.leaves rfl
      · exact complete_return rfl text rfl

theorem runBrainstorm_ensures {held : HeldCall} {request : CommandRequest}
    (text : (Call.command request).generates = false) :
    Ensures ((Call.command request).contract settings loads) (Call.command request).Leaves
      (runBrainstorm settings held) held.cell := by
  unfold runBrainstorm
  generalize strip (held.request.prompt.getD "") = topic
  dsimp only
  split
  · exact refuse_then .failed rfl rfl (by decide) rfl fun _ _ back => back.leaves rfl
  · refine ensures_bind.2 (ensures_tryCatch.2 (quiet_ensures handleBrainstorm_quiet ⟨rfl, rfl⟩ ?_))
    intro result
    cases result with
    | error error =>
        exact refuse_ensures .failed rfl rfl (by decide) rfl fun _ _ back => back.leaves rfl
    | ok completion => exact complete_return rfl text rfl

/-! ### Palette -/

/-- A draft that was not refused holds colors, unless it is empty. -/
def PaletteDraft.Sound (loads : String → Option Json) (draft : PaletteDraft) : Prop :=
  draft.refused = false → draft.completion.content = "" ∨
    (paletteColors (loads draft.completion.content)).isSome

theorem handlePalette_ensures {request : CommandRequest} {c : Cell} {description : String}
    (palette : request.command = .palette) (opened : c.Open)
    {post : Except Failure Completion → Cell → Prop}
    (completed : ∀ completion, (fiveColors (loads completion.content) = true →
      (paletteColors (loads completion.content)).isSome) → post (.ok completion) c) :
    Ensures ((Call.command request).contract settings loads) post
      (handlePalette settings description) c := by
  refine ensures_perform_bind.2 ⟨⟨opened, trivial⟩, fun attempts c' answered => ?_⟩
  obtain ⟨rfl, tolerated⟩ := answered
  simp only [Call.tolerates, palette, ne_eq, not_true, decide_false, Bool.false_or] at tolerated
  cases found : completeFrom attempts 0 settings.openaiMaxRetries with
  | error text => simp [found] at tolerated
  | ok completion =>
      refine completed completion fun five => ?_
      simpa [found, five] using tolerated

theorem paletteAttempts_ensures {request : CommandRequest} {c : Cell} {description : String}
    (palette : request.command = .palette) (opened : c.Open) {draft : PaletteDraft}
    (sound : draft.Sound loads) (left : Nat)
    {post : Except Failure PaletteDraft → Cell → Prop}
    (drafted : ∀ draft : PaletteDraft, draft.Sound loads → post (.ok draft) c) :
    Ensures ((Call.command request).contract settings loads) post
      (paletteAttempts settings loads description draft left) c := by
  induction left generalizing draft with
  | zero => exact drafted draft sound
  | succ left ih =>
      refine ensures_bind.2 (handlePalette_ensures palette opened fun completion colors => ?_)
      dsimp only
      split
      · rename_i five
        exact drafted _ fun _ => Or.inr (colors five)
      · exact ih fun accepted => by cases accepted

theorem runPalette_ensures {held : HeldCall} {request : CommandRequest}
    (palette : request.command = .palette) :
    Ensures ((Call.command request).contract settings loads) (Call.command request).Leaves
      (runPalette settings loads held) held.cell := by
  have text : (Call.command request).generates = false := by simp [Call.generates, palette]
  unfold runPalette
  dsimp only
  split
  · exact refuse_then .failed rfl rfl (by decide) rfl fun _ _ back => back.leaves rfl
  · refine ensures_bind.2 (paletteAttempts_ensures palette ⟨rfl, rfl⟩ (fun _ => Or.inl rfl) 2 ?_)
    intro draft sound
    dsimp only
    split
    · exact refuse_then .failed rfl rfl (by decide) rfl fun _ _ back => back.leaves rfl
    · rename_i kept
      rw [not_or] at kept
      have accepted := sound (by simpa using kept.2)
      obtain ⟨colors, found⟩ := Option.isSome_iff_exists.1 (accepted.resolve_left kept.1)
      rw [found]
      exact complete_return rfl text rfl

/-! ### Mockups -/

/-- A generation whose task is put in the queue. -/
theorem Cell.Generating.queued {c : Cell} {row : AIInteraction} {asset : MockupAsset}
    {reservationId : Uuid} {task : GenerationTask} {result : Except Failure Response}
    (generating : c.Generating row asset reservationId) (status : row.status = .queued)
    (own : task.assetId = asset.id) (unstarted : c.predictions = []) :
    (Cell.respond { c with tasks := [task] } result).Rest := by
  cases result with
  | error error =>
      exact .queued row asset reservationId task { generating with } status rfl own unstarted
  | ok response =>
      exact .queued row asset reservationId task { generating with } status rfl own unstarted

/-- A request that has put its task in the queue. -/
theorem Cell.Generating.leaves {c : Cell} {row : AIInteraction} {asset : MockupAsset}
    {reservationId : Uuid} {task : GenerationTask} {response : Response}
    (request : call.isRequest = true)
    (generating : c.Generating row asset reservationId) (status : row.status = .queued)
    (own : task.assetId = asset.id) (unstarted : c.predictions = []) :
    call.Leaves (.ok response) { c with tasks := [task] } := by
  refine .of_request request (generating.queued status own unstarted)
    fun _ _ => ⟨?_, List.cons_ne_nil _ _⟩
  change c.assets ≠ []
  rw [generating.assets]
  exact List.cons_ne_nil _ _

theorem runMockup_ensures {held : HeldCall} {request : CommandRequest} {kind : AssetKind} :
    Ensures ((Call.command request).contract settings loads) (Call.command request).Leaves
      (runMockup held kind) held.cell := by
  unfold runMockup
  generalize strip (held.request.prompt.getD "") = prompt
  dsimp only
  split
  · exact refuse_then .failed rfl rfl (by decide) rfl fun _ _ back => back.leaves rfl
  · refine ensures_bind.2 (drawAsset_ensures ⟨rfl, rfl⟩ (Option.some_ne_none _) fun assetId => ?_)
    refine ensures_bind.2
      (save_held ⟨rfl, rfl⟩ List.mem_cons_self ?_ ⟨rfl, trivial, trivial⟩ ?_)
    · exact List.forall_mem_cons.2
        ⟨⟨List.mem_cons_self, rfl⟩, List.forall_mem_singleton.2 ⟨rfl, by simp⟩⟩
    · refine ensures_bind.2 (enqueue_ensures ⟨rfl, rfl⟩ rfl ?_)
      refine Cell.Generating.leaves rfl (?_ : Cell.Generating _
        (held.row.set { mockupAssetId := some assetId })
        { id := assetId, replicatePredictionId := "pending", kind, s3Key := "" }
        held.reservationId) rfl rfl rfl
      exact
        { ident := rfl
          stored := rfl
          assets := rfl
          owned := List.mem_cons_self
          linked := rfl
          reserved := rfl
          recorded := rfl
          unsettled := rfl }

/-! ### The route -/

theorem moderatePrompt_ensures {held : HeldCall} {post : Except Failure Unit → Cell → Prop}
    (passes : post (.ok ()) held.cell) (refunded : ∀ error c, c.Refunded → post (.error error) c) :
    Ensures (call.contract settings loads) post (moderatePrompt settings held) held.cell := by
  unfold moderatePrompt
  dsimp only
  split
  · refine ensures_bind.2 (moderateText_ensures ⟨rfl, rfl⟩ fun score => ?_)
    dsimp only
    split
    · exact refuse_ensures .moderationBlocked rfl rfl (by decide) rfl refunded
    · exact passes
  · exact passes

theorem runBranch_ensures {held : HeldCall} {request : CommandRequest}
    (same : held.request = request) :
    Ensures ((Call.command request).contract settings loads) (Call.command request).Leaves
      (runBranch settings loads held) held.cell := by
  subst same
  unfold runBranch
  cases command : held.request.command with
  | summarizeChat => exact runSummarize_ensures (by simp [Call.generates, command])
  | brainstorm => exact runBrainstorm_ensures (by simp [Call.generates, command])
  | palette => exact runPalette_ensures command
  | mockupImage => exact runMockup_ensures
  | mockupAudio => exact runMockup_ensures

theorem runHeld_ensures {held : HeldCall} {request : CommandRequest}
    (same : held.request = request) :
    Ensures ((Call.command request).contract settings loads) (Call.command request).Leaves
      (runHeld settings loads held) held.cell := by
  unfold runHeld
  exact ensures_bind.2 (moderatePrompt_ensures (runBranch_ensures same) fun _ _ back => back.leaves rfl)

/-- A cell without a reservation, and without a prediction under way. -/
theorem unreserved_leaves {c : Cell} {result : Except Failure Response}
    (request : call.isRequest = true) (none : c.reservations = []) (idle : c.tasks = []) (unstarted : c.predictions = [])
    (apart : ∀ row, c.row = some row → row.status ≠ .processing) : call.Leaves result c := by
  cases result with
  | error error =>
      refine .of_request request (.unreserved none idle unstarted apart) fun id held => ?_
      rw [none] at held
      cases held
  | ok response =>
      exact .of_request request (.unreserved none idle unstarted apart)
        fun _ held => absurd none held

theorem blank_leaves {result : Except Failure Response} {id : Option Uuid}
    (request : call.isRequest = true) : call.Leaves result { id } :=
  unreserved_leaves request rfl rfl rfl fun row stored => by cases stored

/-- A request refused for want of credits stores its row, and none is reserved. -/
theorem reject_ensures {id : Uuid} {writes : List Write} {error : Failure}
    (concerns : ∀ write ∈ writes, Cell.Concerns { id := some id } write)
    (request : call.isRequest = true) (row : AIInteraction) (rejected : row.status = .rejectedInsufficientCredits)
    (stored : Cell.applyAll { id := some id } writes = { id := some id, row := some row }) :
    Ensures (call.contract settings loads) call.Leaves
      (do
        save writes
        throw error) { id := some id } := by
  refine ensures_bind.2 (save_ensures ⟨rfl, rfl⟩ concerns (fun held => absurd rfl held) ?_
    fun _ result => ?_)
  · rw [stored]
    refine unreserved_leaves request rfl rfl rfl ?_
    rintro other ⟨⟩ processing
    rw [rejected] at processing
    cases processing
  · cases result with
    | error text => exact blank_leaves request
    | ok done => exact blank_leaves request

theorem getUserId_quiet {userId : Option Uuid} : (getUserId userId).Uses Op.Quiet := by
  cases userId <;> trivial

theorem rateLimit_quiet {userId : Uuid} : (rateLimit settings userId).Uses Op.Quiet := by
  refine uses_bind ask_quiet fun reply => uses_bind orRaise_quiet fun count => ?_
  split <;> trivial

theorem runCommand_ensures (request : CommandRequest) :
    Ensures ((Call.command request).contract settings loads) (Call.command request).Leaves
      (runCommand settings loads request) {} := by
  unfold runCommand
  refine quiet_then getUserId_quiet ⟨rfl, rfl⟩ (fun _ => blank_leaves rfl) fun userId => ?_
  refine quiet_then rateLimit_quiet ⟨rfl, rfl⟩ (fun _ => blank_leaves rfl) fun _ => ?_
  refine quiet_then checkEntitlement_quiet ⟨rfl, rfl⟩ (fun _ => blank_leaves rfl) fun entitled => ?_
  cases entitled with
  | none =>
      refine ensures_bind.2 (drawInteraction_ensures rfl ⟨rfl, rfl⟩ rfl fun id => ?_)
      exact reject_ensures (List.forall_mem_singleton.2 ⟨rfl, rfl⟩) rfl _ rfl rfl
  | some tier =>
      refine ensures_bind.2 (drawInteraction_ensures rfl ⟨rfl, rfl⟩ rfl fun id => ?_)
      refine ensures_bind.2 (reserveCredits_ensures rfl ⟨rfl, rfl⟩ rfl ?_ ?_ ?_)
      · intro reservationId
        refine ensures_bind.2 (save_held ⟨rfl, rfl⟩ List.mem_cons_self ?_ ⟨rfl, trivial⟩ ?_)
        · exact List.forall_mem_singleton.2 ⟨rfl, rfl⟩
        · exact runHeld_ensures rfl
      · exact reject_ensures (List.forall_mem_singleton.2 ⟨rfl, rfl⟩) rfl _ rfl rfl
      · intro error
        exact blank_leaves rfl

end ColabPlatform.Ai
