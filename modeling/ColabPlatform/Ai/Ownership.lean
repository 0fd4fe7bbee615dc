import ColabPlatform.Ai.Cells

/-!
# What a call may do to its cell

The contract between a call and the rest of the system: a call works on one
interaction whose task is not in the queue, and while it does so nothing else
changes the cell of the interaction.
-/

namespace ColabPlatform.Ai

open Foundation
open Billing (Uuid Timestamp)

/-! ## Cells on which no call works -/

namespace Cell

/-- The result was returned, or the asset of the row is stored and active. -/
def Delivered (c : Cell) : Prop :=
  (∃ response ∈ c.responses, response.result) ∨
    ∃ row, c.row = some row ∧ ∃ asset ∈ c.assets, row.mockupAssetId = some asset.id ∧
      asset.active ∧ asset.s3Key ≠ ""

/-- A reservation that was settled once, as the outcome demands. -/
structure Closed (c : Cell) (row : AIInteraction) (reservationId : Uuid) : Prop where
  stored : c.row = some row
  reserved : c.reservations = [reservationId]
  terminal : row.status.terminal
  settled : (row.status = .completed ∧ c.Delivered ∧
      c.settlements = [(reservationId, .committed)]) ∨
    (row.status ≠ .completed ∧ c.settlements = [(reservationId, .released)])

/-- A generation under way, its reservation not settled. -/
structure Generating (c : Cell) (row : AIInteraction) (asset : MockupAsset)
    (reservationId : Uuid) : Prop where
  ident : c.id = some row.id
  stored : c.row = some row
  assets : c.assets = [asset]
  owned : asset.id ∈ c.assetIds
  linked : row.mockupAssetId = some asset.id
  reserved : c.reservations = [reservationId]
  recorded : row.billingReservationId = some reservationId
  unsettled : c.settlements = []

/-- The prediction of a generation is under way. -/
structure Predicted (c : Cell) (row : AIInteraction) (asset : MockupAsset)
    (reservationId : Uuid) (predictionId : String) : Prop
    extends c.Generating row asset reservationId where
  processing : row.status = .processing
  rowPrediction : row.replicatePredictionId = some predictionId
  assetPrediction : asset.replicatePredictionId = predictionId
  started : c.predictions = [predictionId]
  unmarked : c.marked = []

/-- What a cell is like when no call works on its interaction. -/
inductive Rest (c : Cell) : Prop
  | unreserved (none : c.reservations = []) (idle : c.tasks = [])
      (unstarted : c.predictions = [])
      (apart : ∀ row, c.row = some row → row.status ≠ .processing)
  | closed (row : AIInteraction) (reservationId : Uuid)
      (closed : c.Closed row reservationId) (idle : c.tasks = [])
  | queued (row : AIInteraction) (asset : MockupAsset) (reservationId : Uuid)
      (task : GenerationTask) (generating : c.Generating row asset reservationId)
      (status : row.status = .queued) (queue : c.tasks = [task])
      (own : task.assetId = asset.id) (unstarted : c.predictions = [])
  | predicted (row : AIInteraction) (asset : MockupAsset) (reservationId : Uuid)
      (predictionId : String)
      (predicted : c.Predicted row asset reservationId predictionId) (idle : c.tasks = [])

theorem Rest.predicted_of_processing {c : Cell} {row : AIInteraction} (rest : c.Rest)
    (stored : c.row = some row) (processing : row.status = .processing) :
    ∃ asset reservationId predictionId,
      c.Predicted row asset reservationId predictionId ∧ c.tasks = [] := by
  have same : ∀ {other}, c.row = some other → other = row := fun found =>
    Option.some.inj (found.symm.trans stored)
  cases rest with
  | unreserved _ _ _ apart => exact absurd processing (apart row stored)
  | closed other _ closed _ =>
      have terminal := closed.terminal
      rw [same closed.stored, processing] at terminal
      cases terminal
  | queued other _ _ _ generating status =>
      rw [same generating.stored, processing] at status
      cases status
  | predicted other asset reservationId predictionId predicted idle =>
      obtain rfl := same predicted.stored
      exact ⟨asset, reservationId, predictionId, predicted, idle⟩

theorem Rest.queued_of_task {c : Cell} {task : GenerationTask} (rest : c.Rest)
    (mem : task ∈ c.tasks) :
    ∃ row asset reservationId, c.Generating row asset reservationId ∧
      row.status = .queued ∧ c.tasks = [task] ∧ task.assetId = asset.id ∧
      c.predictions = [] := by
  cases rest with
  | unreserved _ idle => simp [idle] at mem
  | closed _ _ _ idle => simp [idle] at mem
  | predicted _ _ _ _ _ idle => simp [idle] at mem
  | queued row asset reservationId other generating status queue own unstarted =>
      obtain rfl : task = other := by simpa [queue] using mem
      exact ⟨row, asset, reservationId, generating, status, queue, own, unstarted⟩

/-- The cell after a call for it has returned. -/
def respond (c : Cell) : Except Failure Response → Cell
  | .ok response => { c with responses := response :: c.responses }
  | .error _ => c

/-! ## The contract -/

/-- No task waits for the interaction, and no delivery has reported its prediction. -/
structure Open (c : Cell) : Prop where
  idle : c.tasks = []
  unmarked : c.marked = []

/-- What a call may do: it works on its own rows, reservations and predictions. -/
def Permits (c : Cell) (call : Call) : Op → Prop
  | .draw .interaction => c.id = none ∧ call.isRequest
  | .draw .asset => c.id ≠ none
  | .reserve _ _ referenceId => c.id = some referenceId ∧ call.isRequest
  | .settle reservationId _ _ => reservationId ∈ c.reservations
  | .save writes => (∀ write ∈ writes, c.Concerns write) ∧ (c.reservations ≠ [] → c.Fits writes)
  | .enqueue task => c.id = some task.interactionId
  | .predict _ => c.id ≠ none
  | .isMarked _ => c.id = none
  | .mark predictionId => predictionId ∈ c.predictions ∧ call.decided
  | .interactionOf predictionId =>
      ∃ row, c.row = some row ∧ row.replicatePredictionId = some predictionId
  | .assetOf predictionId =>
      ∃ asset ∈ c.assets, asset.replicatePredictionId = predictionId
  | .ask _ | .draw .consent | .consent _ | .openConsent _ => True

end Cell

section

variable (settings : AISettings) (loads : String → Option Json)

/-- How an operation of a call may answer, and what it does to the cell of the call. -/
def Call.answered (call : Call) : (op : Op) → Cell → op.Reply → Cell → Prop
  | .ask question, c, reply, c' => c' = c ∧ call.tolerates settings loads question reply
  | .draw .interaction, _, id, c' => c' = { id := some id }
  | .draw .asset, c, id, c' => c' = { c with assetIds := id :: c.assetIds }
  | .draw .consent, c, _, c' => c' = c
  | .reserve .., c, reply, c' =>
      match reply.body with
      | .ok (some id) => c' = { c with reservations := id :: c.reservations }
      | _ => c' = c
  | .settle id .released _, c, reply, c' =>
      (reply.reply.body.toBool ∨ call.isDelivery = false) ∧
        c' = { c with settlements := (id, .released) :: c.settlements }
  | .settle id .committed _, c, reply, c' =>
      (reply.reply.body.toBool ∧
          c' = { c with settlements := (id, .committed) :: c.settlements }) ∨
        call.isDelivery ∧ ¬ reply.reply.body.toBool ∧ c' = c
  | .save writes, c, reply, c' =>
      (reply = .ok () ∧ c' = c.applyAll writes) ∨ c.reservations = [] ∧ c' = c
  | .enqueue message, c, reply, c' =>
      reply = .ok () ∧ c' = { c with tasks := c.tasks ++ [message] }
  | .predict _, c, reply, c' =>
      match reply.body with
      | .ok (some id) => c' = { c with predictions := id :: c.predictions } ∧ id ∉ c.marked
      | _ => call.mayRetry ∧ c' = c
  | .isMarked predictionId, c, reply, c' =>
      match reply with
      | .ok false => call.decided ∧ c'.Rest ∧ ∃ row, c'.row = some row ∧
          row.status = .processing ∧ row.replicatePredictionId = some predictionId
      | _ => c' = c
  | .mark predictionId, c, _, c' =>
      c' = c ∨ c' = { c with marked := predictionId :: c.marked }
  | .interactionOf _, c, reply, c' => reply = c.row ∧ c' = c
  | .assetOf predictionId, c, reply, c' =>
      c' = c ∧ ∀ asset ∈ c.assets, asset.replicatePredictionId = predictionId →
        reply = some asset
  | .consent _, c, _, c' => c' = c
  | .openConsent _, c, _, c' => c' = c

def Call.contract (call : Call) : Contract Op.Reply Cell where
  pre op c := c.Open ∧ c.Permits call op
  post op c reply c' := call.answered settings loads op c reply c'

end

/-! ## The world keeps the contract -/

theorem BillingReply.carriedOut_of_body {answer : BillingReply}
    (h : answer.reply.body.toBool = true) : answer.carriedOut = true := by
  cases found : answer.reply with
  | raised text => simp [found, HttpReply.body, Except.toBool] at h
  | response status body =>
      unfold BillingReply.carriedOut
      rw [found]
      by_cases success : isSuccess status
      · exact success
      · simp [found, HttpReply.body, success, Except.toBool] at h

namespace World

variable {settings : AISettings} {loads : String → Option Json} {w w' : World}
  {call : Call} {subject : Option Uuid} {x : Uuid}

/-! ### Changes of one part of the world -/

/-- A change of the world that concerns the cell of `x` only, and keeps what is sound. -/
theorem becomes_of_cells {c : Cell} (own : w'.cell x = c)
    (others : ∀ y, x ≠ y → w'.cell y = w.cell y) (drawn : (.interaction, x) ∈ w.drawn)
    (sound : Sound w)
    (keeps : (∀ y, (.interaction, y) ∉ w.drawn → w'.cell y = {}) → Sound w') :
    Becomes w (some x) c w' := by
  refine ⟨own, fun y other => others y fun eq => other (congrArg some eq), keeps ?_⟩
  intro y undrawn
  rw [others y fun eq => undrawn (eq ▸ drawn)]
  exact sound.blank y undrawn

theorem becomes_reserve (sound : Sound w) (drawn : (.interaction, x) ∈ w.drawn) {id : Uuid}
    (fresh : id ∉ w.reservations.map Prod.fst) :
    Becomes w (some x) { w.cell x with reservations := id :: (w.cell x).reservations }
      { w with reservations := (id, x) :: w.reservations } := by
  have settlements : ∀ y, w.settlements.filter
      (fun settled => (settled.1, y) ∈ (id, x) :: w.reservations) =
      (w.cell y).settlements := by
    intro y
    refine List.filter_congr fun settled mem => ?_
    have other : settled.1 ≠ id := fun same => fresh (same ▸ sound.settledReserved settled mem)
    simp [other]
  refine becomes_of_cells ?_ (fun y apart => ?_) drawn sound fun blank => ?_
  · unfold cell
    rw [settlements x, List.filter_cons_of_pos (by simp)]
    rfl
  · unfold cell
    rw [settlements y, List.filter_cons_of_neg (by simpa using apart)]
    rfl
  · exact { sound with
      blank
      reserver := sound.reserver.cons fresh x
      settledReserved := fun settled mem => List.mem_cons_of_mem _ (sound.settledReserved settled mem) }

theorem becomes_settle (sound : Sound w) (drawn : (.interaction, x) ∈ w.drawn) {id : Uuid}
    (own : id ∈ (w.cell x).reservations) (settlement : Settlement) :
    Becomes w (some x)
      { w.cell x with settlements := (id, settlement) :: (w.cell x).settlements }
      { w with settlements := (id, settlement) :: w.settlements } := by
  have reserved := mem_reservations.1 own
  refine becomes_of_cells ?_ (fun y apart => ?_) drawn sound fun blank => ?_
  · unfold cell
    rw [List.filter_cons_of_pos (by simpa using reserved)]
  · have foreign : (id, y) ∉ w.reservations := fun other =>
      apart (sound.reserver _ _ _ reserved other)
    unfold cell
    rw [List.filter_cons_of_neg (by simpa using foreign)]
  · refine { sound with blank, settledReserved := fun settled mem => ?_ }
    rcases List.mem_cons.1 mem with rfl | old
    · exact List.mem_map_of_mem reserved
    · exact sound.settledReserved settled old

theorem becomes_enqueue (sound : Sound w) (drawn : (.interaction, x) ∈ w.drawn)
    {task : GenerationTask} (own : x = task.interactionId) :
    Becomes w (some x) { w.cell x with tasks := (w.cell x).tasks ++ [task] }
      { w with tasks := w.tasks ++ [task] } := by
  refine becomes_of_cells ?_ (fun y apart => ?_) drawn sound fun blank => ?_
  · unfold cell
    rw [List.filter_append, List.filter_cons_of_pos (by simpa using own.symm)]
    rfl
  · unfold cell
    rw [List.filter_append, List.filter_cons_of_neg (by simpa [← own] using apart)]
    simp
  · exact { sound with blank }

theorem becomes_predict (sound : Sound w) (drawn : (.interaction, x) ∈ w.drawn) {id : String}
    (fresh : id ∉ w.predictions.map Prod.fst) (unmarked : id ∉ w.marked) :
    Becomes w (some x) { w.cell x with predictions := id :: (w.cell x).predictions }
      { w with predictions := (id, x) :: w.predictions } := by
  have marked : ∀ y, w.marked.filter (fun p => (p, y) ∈ (id, x) :: w.predictions) =
      (w.cell y).marked := by
    intro y
    refine List.filter_congr fun p mem => ?_
    have other : p ≠ id := fun same => unmarked (same ▸ mem)
    simp [other]
  refine becomes_of_cells ?_ (fun y apart => ?_) drawn sound fun blank => ?_
  · unfold cell
    rw [marked x, List.filter_cons_of_pos (by simp)]
    rfl
  · unfold cell
    rw [marked y, List.filter_cons_of_neg (by simpa using apart)]
    rfl
  · exact { sound with
      blank
      predictor := sound.predictor.cons fresh x
      traced := fun row mem p has => List.mem_cons_of_mem _ (sound.traced row mem p has)
      assetTraced := fun asset mem => (sound.assetTraced asset mem).imp_right
        fun ⟨y, owned, started⟩ => ⟨y, owned, List.mem_cons_of_mem _ started⟩ }

theorem becomes_mark (sound : Sound w) (drawn : (.interaction, x) ∈ w.drawn) {id : String}
    (own : id ∈ (w.cell x).predictions) :
    Becomes w (some x) { w.cell x with marked := id :: (w.cell x).marked }
      { w with marked := id :: w.marked } := by
  have started := mem_predictions.1 own
  refine becomes_of_cells ?_ (fun y apart => ?_) drawn sound fun blank => ?_
  · unfold cell
    rw [List.filter_cons_of_pos (by simpa using started)]
  · have foreign : (id, y) ∉ w.predictions := fun other =>
      apart (sound.predictor _ _ _ started other)
    unfold cell
    rw [List.filter_cons_of_neg (by simpa using foreign)]
  · exact { sound with blank }

theorem becomes_drawAsset (sound : Sound w) (drawn : (.interaction, x) ∈ w.drawn) {id : Uuid}
    (fresh : id ∉ w.drawn.map Prod.snd) :
    Becomes w (some x) { w.cell x with assetIds := id :: (w.cell x).assetIds }
      { w with drawn := (.asset, id) :: w.drawn, assetOwners := (id, x) :: w.assetOwners } := by
  have assets : ∀ y, w.assets.rows.filter
      (fun asset => (asset.id, y) ∈ (id, x) :: w.assetOwners) = (w.cell y).assets := by
    intro y
    refine List.filter_congr fun asset mem => ?_
    have other : asset.id ≠ id := fun same =>
      fresh (same ▸ List.mem_map_of_mem (f := Prod.snd) (sound.assetsDrawn asset mem))
    simp [other]
  have ids : ∀ y, ((RowKind.interaction, y) ∈ (RowKind.asset, id) :: w.drawn) =
      ((RowKind.interaction, y) ∈ w.drawn) := by
    intro y
    simp
  have others : ∀ y, some x ≠ some y → World.cell { w with
      drawn := (.asset, id) :: w.drawn, assetOwners := (id, x) :: w.assetOwners } y =
      w.cell y := by
    intro y apart
    unfold cell
    simp only [ids]
    rw [assets y, List.filter_cons_of_neg (by simpa using apart)]
    rfl
  refine ⟨?_, others, ?_⟩
  · change World.cell _ x = _
    unfold cell
    simp only [ids]
    rw [assets x, List.filter_cons_of_pos (by simp)]
    rfl
  · refine { sound with
      blank := fun y undrawn => ?_
      assetOwner := sound.assetOwner.cons ?_ x
      ownedDrawn := fun owned mem => ?_
      assetsDrawn := fun asset mem => List.mem_cons_of_mem _ (sound.assetsDrawn asset mem)
      assetTraced := fun asset mem => (sound.assetTraced asset mem).imp_right ?_ }
    · have old : (RowKind.interaction, y) ∉ w.drawn := fun mem =>
        undrawn (List.mem_cons_of_mem _ mem)
      rw [others y fun same => old (Option.some.inj same ▸ drawn)]
      exact sound.blank y old
    · intro known
      obtain ⟨owned, mem, rfl⟩ := List.mem_map.1 known
      exact fresh (List.mem_map_of_mem (f := Prod.snd) (sound.ownedDrawn owned mem))
    · rcases List.mem_cons.1 mem with rfl | old
      · exact List.mem_cons_self
      · exact List.mem_cons_of_mem _ (sound.ownedDrawn owned old)
    · rintro ⟨y, owned, started⟩
      exact ⟨y, List.mem_cons_of_mem _ owned, started⟩

/-- A row id drawn for no asset: no cell but that of the id has changed. -/
theorem cell_draw {kind : RowKind} {id y : Uuid}
    (other : kind = .interaction → id ≠ y) :
    World.cell { w with drawn := (kind, id) :: w.drawn } y = w.cell y := by
  have ids : ((RowKind.interaction, y) ∈ (kind, id) :: w.drawn) =
      ((RowKind.interaction, y) ∈ w.drawn) := by
    refine propext ⟨fun mem => ?_, List.mem_cons_of_mem _⟩
    rcases List.mem_cons.1 mem with same | old
    · rw [Prod.mk.injEq] at same
      exact absurd same.2.symm (other same.1.symm)
    · exact old
  unfold cell
  simp only [ids]

theorem sound_draw (sound : Sound w) {kind : RowKind} {id : Uuid} :
    Sound { w with drawn := (kind, id) :: w.drawn } := by
  refine { sound with
    blank := fun y undrawn => ?_
    ownedDrawn := fun owned mem => List.mem_cons_of_mem _ (sound.ownedDrawn owned mem)
    assetsDrawn := fun asset mem => List.mem_cons_of_mem _ (sound.assetsDrawn asset mem) }
  rw [cell_draw]
  · exact sound.blank y fun mem => undrawn (List.mem_cons_of_mem _ mem)
  · rintro rfl rfl
    exact undrawn List.mem_cons_self

/-- What an operation does: its reply and the view after it are as the contract says. -/
structure Meets (w : World) (call : Call) (subject : Option Uuid) (op : Op)
    (settings : AISettings) (loads : String → Option Json)
    (reply : op.Reply) (w' : World) : Prop where
  answered : call.answered settings loads op (w.view subject) reply
    (w'.view (subjectAfter w' subject op reply))
  others : ∀ y, subjectAfter w' subject op reply ≠ some y → w'.cell y = w.cell y
  sound : Sound w'
  drawn : ∀ y, subjectAfter w' subject op reply = some y → (.interaction, y) ∈ w'.drawn
  mono : ∀ y ∈ w.drawn, y ∈ w'.drawn

/-- An operation that leaves the subject alone and changes its cell only. -/
theorem Becomes.meets {c : Cell} {op : Op} {reply : op.Reply} (h : Becomes w subject c w')
    (same : subjectAfter w' subject op reply = subject)
    (answered : call.answered settings loads op (w.view subject) reply c)
    (drawn : ∀ y, subject = some y → (.interaction, y) ∈ w.drawn)
    (mono : ∀ y ∈ w.drawn, y ∈ w'.drawn) :
    Meets w call subject op settings loads reply w' where
  answered := by rw [same, h.view]; exact answered
  others := by rw [same]; exact h.others
  sound := h.sound
  drawn y eq := mono _ (drawn y (same ▸ eq))
  mono := mono

/-- The subject of a call that may do what only a call with a subject may do. -/
theorem subject_of_ident (drawn : ∀ y, subject = some y → (.interaction, y) ∈ w.drawn)
    (ident : (w.view subject).id ≠ none) :
    ∃ x, subject = some x ∧ (.interaction, x) ∈ w.drawn ∧ w.view subject = w.cell x := by
  cases subject with
  | none => exact absurd rfl ident
  | some x => exact ⟨x, rfl, drawn x rfl, rfl⟩

theorem subject_eq_none (drawn : ∀ y, subject = some y → (.interaction, y) ∈ w.drawn)
    (ident : (w.view subject).id = none) : subject = none := by
  cases subject with
  | none => rfl
  | some x =>
      change (if (RowKind.interaction, x) ∈ w.drawn then some x else none) = none at ident
      rw [if_pos (drawn x rfl)] at ident
      cases ident

theorem reservations_view (blank : w.unreserved subject = true) :
    (w.view subject).reservations = [] := by
  cases subject with
  | none => rfl
  | some x =>
      refine List.map_eq_nil_iff.2 (List.filter_eq_nil_iff.2 fun held mem => ?_)
      have other : some x ≠ some held.2 := of_decide_eq_true (List.all_eq_true.1 blank held mem)
      exact fun same => other (congrArg some (of_decide_eq_true same).symm)

/-! ### Each operation -/

section Operations

variable (sound : Sound w) (drawn : ∀ y, subject = some y → (.interaction, y) ∈ w.drawn)
include sound drawn

theorem draw_meets {kind : RowKind} {answer reply : Uuid}
    (performed : w.perform subject (.draw kind) answer = some (reply, w'))
    (permits : (w.view subject).Permits call (.draw kind)) :
    Meets w call subject (.draw kind) settings loads reply w' := by
  unfold perform at performed
  dsimp only at performed
  split at performed
  · cases performed
  rename_i fresh
  obtain ⟨rfl, rfl⟩ := Prod.mk.inj (Option.some.inj performed)
  cases kind with
  | interaction =>
      obtain rfl := subject_eq_none drawn permits.1
      have undrawn : (RowKind.interaction, answer) ∉ w.drawn := fun mem =>
        fresh (List.mem_map_of_mem (f := Prod.snd) mem)
      refine ⟨?_, fun y other => ?_, sound_draw sound, ?_, fun y => List.mem_cons_of_mem _⟩
      · have blank := sound.blank answer undrawn
        change World.cell { w with drawn := (.interaction, answer) :: w.drawn } answer = _
        have same : World.cell { w with drawn := (.interaction, answer) :: w.drawn } answer =
            { w.cell answer with id := some answer } := by
          unfold cell
          rw [if_pos List.mem_cons_self]
        rw [same, blank]
      · exact cell_draw fun _ same => other (congrArg some same)
      · rintro y ⟨⟩
        exact List.mem_cons_self
  | asset =>
      obtain ⟨x, rfl, known, -⟩ := subject_of_ident drawn permits
      exact (becomes_drawAsset sound known fresh).meets rfl rfl drawn
        fun y => List.mem_cons_of_mem _
  | consent =>
      have others : ∀ y, World.cell { w with drawn := (.consent, answer) :: w.drawn } y =
          w.cell y := fun y => cell_draw fun same => by cases same
      have unchanged : Becomes w subject (w.view subject)
          { w with drawn := (.consent, answer) :: w.drawn } := by
        refine ⟨?_, fun y _ => others y, sound_draw sound⟩
        cases subject with
        | none => rfl
        | some x => exact others x
      exact unchanged.meets rfl rfl drawn fun y => List.mem_cons_of_mem _

theorem reserve_meets {userId reference : Uuid} {amount : Nat} {answer reply}
    (performed : w.perform subject (.reserve userId amount reference) answer =
      some (reply, w'))
    (permits : (w.view subject).Permits call (.reserve userId amount reference)) :
    Meets w call subject (.reserve userId amount reference) settings loads reply w' := by
  obtain ⟨x, rfl, known, viewed⟩ := subject_of_ident drawn (by rw [permits.1]; simp)
  obtain ⟨rfl, -⟩ := id_cell permits.1
  unfold perform at performed
  dsimp only at performed
  split at performed
  · rename_i id body
    split at performed
    · cases performed
    · rename_i fresh
      obtain ⟨rfl, rfl⟩ := Prod.mk.inj (Option.some.inj performed)
      refine (becomes_reserve sound known fresh).meets rfl ?_ drawn fun y mem => mem
      simp only [Call.answered, body, viewed]
  · rename_i body
    obtain ⟨rfl, rfl⟩ := Prod.mk.inj (Option.some.inj performed)
    refine (Becomes.refl sound).meets rfl ?_ drawn fun y mem => mem
    simp only [Call.answered]

theorem settle_meets {s : AiState} {id : Uuid} {settlement : Settlement}
    {reason : String} {answer reply}
    (performed : w.perform subject (.settle id settlement reason) answer = some (reply, w'))
    (permits : (w.view subject).Permits call (.settle id settlement reason))
    (well : s.goesWell settings loads call subject (.settle id settlement reason) answer = true) :
    Meets w call subject (.settle id settlement reason) settings loads reply w' := by
  obtain ⟨rfl, rfl⟩ := Prod.mk.inj (Option.some.inj performed)
  cases subject with
  | none => cases permits
  | some x =>
  have known := drawn x rfl
  have carried := becomes_settle sound known permits settlement
  cases settlement with
  | released =>
      obtain ⟨done, answered⟩ := Bool.and_eq_true_iff.1 well
      rw [if_pos done]
      refine carried.meets rfl ⟨?_, rfl⟩ drawn fun y mem => mem
      simpa using answered
  | committed =>
      by_cases done : answer.carriedOut = true
      · rw [if_pos done]
        have answered : answer.reply.body.toBool = true := by
          simpa [AiState.goesWell, done] using well
        exact carried.meets rfl (Or.inl ⟨answered, rfl⟩) drawn fun y mem => mem
      · rw [if_neg done]
        have refused : ¬ answer.reply.body.toBool = true := fun body =>
          done (BillingReply.carriedOut_of_body body)
        have delivery : call.isDelivery = true := by
          simp only [AiState.goesWell, Bool.or_eq_true, Bool.and_eq_true] at well
          exact (well.resolve_left refused).1
        exact (Becomes.refl sound).meets rfl (Or.inr ⟨delivery, refused, rfl⟩) drawn
          fun y mem => mem

theorem saved_meets {writes : List Write} (stored : w.applyAll writes = some w')
    (concerns : ∀ write ∈ writes, (w.view subject).Concerns write) :
    Meets w call subject (.save writes) settings loads (.ok ()) w' := by
  refine (becomes_applyAll sound stored concerns).meets rfl (Or.inl ⟨rfl, rfl⟩) drawn
    fun y mem => ?_
  rw [drawn_applyAll stored]
  exact mem

theorem save_meets {s : AiState} (world : s.world = w) {writes : List Write} {answer reply}
    (performed : w.perform subject (.save writes) answer = some (reply, w'))
    (permits : (w.view subject).Permits call (.save writes))
    (well : s.goesWell settings loads call subject (.save writes) answer = true) :
    Meets w call subject (.save writes) settings loads reply w' := by
  subst world
  by_cases viewed : (s.world.view subject).reservations = []
  · have refused : ∀ text, Meets s.world call subject (.save writes) settings loads
        (.error text) s.world := fun text =>
      (Becomes.refl sound).meets rfl (Or.inr ⟨viewed, rfl⟩) drawn fun y mem => mem
    cases answer with
    | error text =>
        obtain ⟨rfl, rfl⟩ := Prod.mk.inj (Option.some.inj performed)
        exact refused text
    | ok done =>
        unfold perform at performed
        dsimp only at performed
        cases stored : s.world.applyAll writes with
        | none =>
            rw [stored] at performed
            obtain ⟨rfl, rfl⟩ := Prod.mk.inj (Option.some.inj performed)
            exact refused _
        | some after =>
            rw [stored] at performed
            obtain ⟨rfl, rfl⟩ := Prod.mk.inj (Option.some.inj performed)
            exact saved_meets sound drawn stored permits.1
  · simp only [AiState.goesWell, Bool.or_eq_true] at well
    have well := well.resolve_left fun blank => viewed (reservations_view blank)
    simp only [Bool.and_eq_true, Bool.or_eq_true, Bool.not_eq_true', Option.isNone_iff_eq_none]
      at well
    have placed : writes.any Write.placeholder = true → s.world.Placed subject := by
      intro stores asset mem pending
      have free := well.2.resolve_left (by simp [stores])
      exact absurd (congrArg some pending) (Table.lookupAlt_eq_none_iff.1 free asset mem)
    obtain ⟨after, stored⟩ := Option.isSome_iff_exists.1
      (applyAll_isSome sound permits.1 (permits.2 viewed) placed)
    cases answer with
    | error text => cases well.1
    | ok done =>
        simp only [perform, stored] at performed
        obtain ⟨rfl, rfl⟩ := Prod.mk.inj (Option.some.inj performed)
        exact saved_meets sound drawn stored permits.1

theorem enqueue_meets {s : AiState} {task : GenerationTask} {answer reply}
    (performed : w.perform subject (.enqueue task) answer = some (reply, w'))
    (permits : (w.view subject).Permits call (.enqueue task))
    (well : s.goesWell settings loads call subject (.enqueue task) answer = true) :
    Meets w call subject (.enqueue task) settings loads reply w' := by
  obtain ⟨x, rfl, known, viewed⟩ := subject_of_ident drawn (by rw [permits]; simp)
  cases answer with
  | error text => cases well
  | ok done =>
      obtain ⟨rfl, rfl⟩ := Prod.mk.inj (Option.some.inj performed)
      exact (becomes_enqueue sound known (id_cell permits).1).meets rfl ⟨rfl, rfl⟩ drawn
        fun y mem => mem

theorem predict_meets {s : AiState} {request : PredictionRequest} {answer reply}
    (performed : w.perform subject (.predict request) answer = some (reply, w'))
    (permits : (w.view subject).Permits call (.predict request))
    (well : s.goesWell settings loads call subject (.predict request) answer = true) :
    Meets w call subject (.predict request) settings loads reply w' := by
  obtain ⟨x, rfl, known, viewed⟩ := subject_of_ident drawn permits
  unfold perform at performed
  dsimp only at performed
  split at performed
  · rename_i id owner body same
    obtain rfl := Option.some.inj same
    split at performed
    · cases performed
    · rename_i fresh
      obtain ⟨rfl, rfl⟩ := Prod.mk.inj (Option.some.inj performed)
      refine (becomes_predict sound known (fun old => fresh (Or.inl old))
        fun old => fresh (Or.inr old)).meets rfl ?_ drawn fun y mem => mem
      simp only [Call.answered, body, viewed]
      exact ⟨trivial, fun old => fresh (Or.inr (List.mem_filter.1 old).1)⟩
  · rename_i other
    obtain ⟨rfl, rfl⟩ := Prod.mk.inj (Option.some.inj performed)
    refine (Becomes.refl sound).meets rfl ?_ drawn fun y mem => mem
    simp only [Call.answered, AiState.goesWell] at well ⊢
    split
    · rename_i id body
      exact absurd body (other id x · rfl)
    · rename_i none
      refine ⟨?_, trivial⟩
      rcases Bool.or_eq_true_iff.1 well with left | got
      · exact left
      · split at got
        · exact absurd ‹_› (none _)
        · cases got

theorem mark_meets {id : String} {answer reply}
    (performed : w.perform subject (.mark id) answer = some (reply, w'))
    (permits : (w.view subject).Permits call (.mark id)) :
    Meets w call subject (.mark id) settings loads reply w' := by
  cases subject with
  | none => cases permits.1
  | some x =>
  cases answer with
  | error text =>
      obtain ⟨rfl, rfl⟩ := Prod.mk.inj (Option.some.inj performed)
      exact (Becomes.refl sound).meets rfl (Or.inl rfl) drawn fun y mem => mem
  | ok done =>
      obtain ⟨rfl, rfl⟩ := Prod.mk.inj (Option.some.inj performed)
      exact (becomes_mark sound (drawn x rfl) permits.1).meets rfl (Or.inr rfl) drawn
        fun y mem => mem

theorem interactionOf_meets {id : String} {answer reply}
    (performed : w.perform subject (.interactionOf id) answer = some (reply, w'))
    (permits : (w.view subject).Permits call (.interactionOf id)) :
    Meets w call subject (.interactionOf id) settings loads reply w' := by
  obtain ⟨rfl, rfl⟩ := Prod.mk.inj (Option.some.inj performed)
  obtain ⟨row, stored, has⟩ := permits
  cases subject with
  | none => cases stored
  | some x =>
      have found := (sound.interactionOf_eq stored has).trans stored.symm
      exact (Becomes.refl sound).meets rfl ⟨found, rfl⟩ drawn fun y mem => mem

theorem assetOf_meets {id : String} {answer reply}
    (performed : w.perform subject (.assetOf id) answer = some (reply, w')) :
    Meets w call subject (.assetOf id) settings loads reply w' := by
  obtain ⟨rfl, rfl⟩ := Prod.mk.inj (Option.some.inj performed)
  refine (Becomes.refl sound).meets rfl ⟨rfl, fun asset mem has => ?_⟩ drawn fun y mem => mem
  cases subject with
  | none => cases mem
  | some x =>
      exact Table.lookupAlt_eq_some_iff.2
        ⟨(List.mem_filter.1 mem).1, congrArg some has⟩

theorem isMarked_meets {s : AiState} (world : s.world = w)
    (rest : ∀ x, s.idle x → (w.cell x).Rest) {id : String} {answer reply}
    (performed : w.perform subject (.isMarked id) answer = some (reply, w'))
    (permits : (w.view subject).Permits call (.isMarked id))
    (well : s.goesWell settings loads call subject (.isMarked id) answer = true) :
    Meets w call subject (.isMarked id) settings loads reply w' := by
  obtain rfl := subject_eq_none drawn permits
  subst world
  cases answer with
  | error text =>
      obtain ⟨rfl, rfl⟩ := Prod.mk.inj (Option.some.inj performed)
      exact (Becomes.refl sound).meets rfl rfl drawn fun y mem => mem
  | ok read =>
      obtain ⟨rfl, rfl⟩ := Prod.mk.inj (Option.some.inj performed)
      by_cases marked : id ∈ s.world.marked
      · rw [decide_eq_true marked]
        exact (Becomes.refl sound).meets rfl rfl drawn fun y mem => mem
      · rw [decide_eq_false marked]
        simp only [AiState.goesWell, Except.toBool, Bool.not_true, marked, decide_false,
          Bool.false_or, Bool.and_eq_true] at well
        obtain ⟨decided, well⟩ := well
        cases found : s.world.interactionOf id with
        | none => simp [found] at well
        | some row =>
            simp only [found, Bool.and_eq_true, decide_eq_true_eq] at well
            have mem := List.mem_of_find?_eq_some found
            have has : row.replicatePredictionId = some id := by
              simpa using List.find?_some found
            have stored := Table.lookup_of_mem mem
            have subjectEq : subjectAfter s.world none (.isMarked id) (.ok false) =
                some row.id := by
              simp [subjectAfter, found]
            refine ⟨?_, fun _ _ => rfl, sound, ?_, fun y mem => mem⟩
            · rw [subjectEq]
              exact ⟨decided, rest row.id well.2, row, stored, well.1, has⟩
            · rw [subjectEq]
              rintro y ⟨⟩
              by_contra undrawn
              have blank := congrArg Cell.row (sound.blank row.id undrawn)
              exact absurd (stored.symm.trans blank) (by simp)

/-- The operations that neither change the world nor read the cell of the call. -/
theorem unchanged_meets {op : Op} {reply : op.Reply}
    (same : subjectAfter w subject op reply = subject)
    (answered : call.answered settings loads op (w.view subject) reply (w.view subject)) :
    Meets w call subject op settings loads reply w :=
  (Becomes.refl sound).meets same answered drawn fun _ mem => mem

/-- Every operation that goes well meets the contract. -/
theorem perform_meets {s : AiState} (world : s.world = w)
    (rest : ∀ x, s.idle x → (w.cell x).Rest) {op : Op} {answer reply : op.Reply}
    (performed : w.perform subject op answer = some (reply, w'))
    (permits : (w.view subject).Permits call op)
    (well : s.goesWell settings loads call subject op answer = true) :
    Meets w call subject op settings loads reply w' := by
  cases op with
  | ask question =>
      obtain ⟨rfl, rfl⟩ := Prod.mk.inj (Option.some.inj performed)
      exact unchanged_meets sound drawn rfl ⟨rfl, well⟩
  | draw kind => exact draw_meets sound drawn performed permits
  | reserve userId amount reference => exact reserve_meets sound drawn performed permits
  | settle id settlement reason => exact settle_meets sound drawn performed permits well
  | save writes => exact save_meets sound drawn world performed permits well
  | enqueue task => exact enqueue_meets sound drawn performed permits well
  | predict request => exact predict_meets sound drawn performed permits well
  | isMarked id => exact isMarked_meets sound drawn world rest performed permits well
  | mark id => exact mark_meets sound drawn performed permits
  | interactionOf id => exact interactionOf_meets sound drawn performed permits
  | assetOf id => exact assetOf_meets sound drawn performed
  | consent id =>
      obtain ⟨rfl, rfl⟩ := Prod.mk.inj (Option.some.inj performed)
      exact unchanged_meets sound drawn rfl rfl
  | openConsent collabId =>
      obtain ⟨rfl, rfl⟩ := Prod.mk.inj (Option.some.inj performed)
      exact unchanged_meets sound drawn rfl rfl

end Operations

end World

end ColabPlatform.Ai
