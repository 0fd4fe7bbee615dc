import ColabPlatform.Ai.Ownership

/-!
# What the clients do to a cell

A rule for each of the functions from which the requests, the task and the
webhook are put together.
-/

namespace ColabPlatform.Ai

open Foundation Foundation.Process
open Billing (Uuid Timestamp)

/-- The operations that leave every cell alone. -/
def Op.Quiet : Op → Prop
  | .ask _ | .draw .consent | .consent _ | .openConsent _ => True
  | _ => False

section

variable {settings : AISettings} {loads : String → Option Json} {call : Call} {c : Cell}
  {α : Type}

theorem quiet_ensures {program : AiM α} (quiet : program.Uses Op.Quiet)
    {post : Except Failure α → Cell → Prop} (opened : c.Open)
    (all : ∀ result, post result c) :
    Ensures (call.contract settings loads) post program c := by
  refine quiet.ensures ?_ ?_ all
  · intro op allowed
    cases op with
    | draw kind => cases kind <;> first | exact ⟨opened, trivial⟩ | cases allowed
    | ask | consent | openConsent => exact ⟨opened, trivial⟩
    | _ => cases allowed
  · intro op reply c' allowed answered
    cases op with
    | draw kind => cases kind <;> first | exact answered | cases allowed
    | ask question => exact answered.1
    | consent | openConsent => exact answered
    | _ => cases allowed

/-- The same in front of what a call does next. -/
theorem quiet_then {β : Type} {program : AiM α} (quiet : program.Uses Op.Quiet)
    {next : α → AiM β} {post : Except Failure β → Cell → Prop} (opened : c.Open)
    (raised : ∀ error, post (.error error) c)
    (rest : ∀ value, Ensures (call.contract settings loads) post (next value) c) :
    Ensures (call.contract settings loads) post (program >>= next) c := by
  refine ensures_bind.2 (quiet_ensures quiet opened fun result => ?_)
  cases result with
  | error error => exact raised error
  | ok value => exact rest value

theorem orRaise_quiet {result : Except String α} : (orRaise result).Uses Op.Quiet := by
  cases result <;> trivial

theorem ask_quiet {question : Question} : (ask question).Uses Op.Quiet :=
  uses_perform.2 trivial

/-! ## Billing -/

theorem checkEntitlement_quiet {userId : Uuid} : (checkEntitlement userId).Uses Op.Quiet := by
  refine uses_bind ask_quiet fun reply => ?_
  split
  · trivial
  · exact uses_bind orRaise_quiet fun _ => trivial

theorem reserveCredits_ensures {userId reference : Uuid} {amount : Nat}
    {post : Except Failure (Option Uuid) → Cell → Prop} (request : call.isRequest = true)
    (opened : c.Open) (own : c.id = some reference)
    (reserved : ∀ id, post (.ok (some id)) { c with reservations := id :: c.reservations })
    (refused : post (.ok none) c) (raised : ∀ error, post (.error error) c) :
    Ensures (call.contract settings loads) post (reserveCredits userId amount reference) c := by
  unfold reserveCredits
  refine ensures_perform_bind.2 ⟨⟨opened, own, request⟩, fun reply c' answered => ?_⟩
  simp only [Call.contract, Call.answered] at answered
  split
  · obtain rfl : c' = c := answered
    exact refused
  · cases body : reply.body with
    | error text =>
        rw [body] at answered
        obtain rfl : c' = c := answered
        exact raised _
    | ok found =>
        rw [body] at answered
        cases found with
        | none =>
            obtain rfl : c' = c := answered
            exact raised _
        | some id =>
            obtain rfl := answered
            exact reserved id

theorem commitReservation_ensures {id : Uuid} {post : Except Failure Unit → Cell → Prop}
    (opened : c.Open) (own : id ∈ c.reservations)
    (committed : post (.ok ()) { c with settlements := (id, .committed) :: c.settlements })
    (failed : call.isDelivery = true → ∀ error, post (.error error) c) :
    Ensures (call.contract settings loads) post (commitReservation id) c := by
  unfold commitReservation
  refine ensures_perform_bind.2 ⟨⟨opened, own⟩, fun reply c' answered => ?_⟩
  rcases answered with ⟨body, rfl⟩ | ⟨delivery, body, rfl⟩
  · cases found : reply.reply.body with
    | error text => simp [found, Except.toBool] at body
    | ok done => exact committed
  · cases found : reply.reply.body with
    | error text => exact failed delivery _
    | ok done => simp [found, Except.toBool] at body

theorem releaseReservation_ensures {id : Uuid} {reason : String}
    {post : Except Failure Unit → Cell → Prop} (opened : c.Open)
    (own : id ∈ c.reservations)
    (released : post (.ok ()) { c with settlements := (id, .released) :: c.settlements })
    (unanswered : call.isDelivery = false → ∀ error,
      post (.error error) { c with settlements := (id, .released) :: c.settlements }) :
    Ensures (call.contract settings loads) post (releaseReservation id reason) c := by
  unfold releaseReservation
  refine ensures_perform_bind.2 ⟨⟨opened, own⟩, fun reply c' answered => ?_⟩
  obtain ⟨body, rfl⟩ := answered
  split
  · rename_i text found
    refine unanswered (body.resolve_left ?_) _
    simp [found, HttpReply.body, Except.toBool]
  · exact released

/-! ## OpenAI and moderation -/

theorem chatComplete_quiet {messages : List ChatMessage} {model : String} {maxTokens : Nat} :
    (chatComplete settings messages model maxTokens).Uses Op.Quiet :=
  uses_bind ask_quiet fun _ => orRaise_quiet

theorem moderateText_ensures {text : String} {post : Except Failure Score → Cell → Prop}
    (opened : c.Open) (scored : ∀ score, post (.ok score) c) :
    Ensures (call.contract settings loads) post (moderateText text) c := by
  unfold moderateText
  refine ensures_perform_bind.2 ⟨⟨opened, trivial⟩, fun reply c' answered => ?_⟩
  obtain ⟨rfl, -⟩ := answered
  split <;> exact scored _

theorem scanImage_quiet {bytes : List UInt8} : (scanImage bytes).Uses Op.Quiet :=
  uses_bind ask_quiet fun _ => trivial

theorem reaches_quiet {score : Option Score} {threshold : Score} :
    (reaches score threshold).Uses Op.Quiet := by
  cases score <;> trivial

theorem reaches_ensures {score threshold : Score} {post : Except Failure Bool → Cell → Prop}
    (h : post (.ok (decide (threshold ≤ score))) c) :
    Ensures (call.contract settings loads) post (reaches (some score) threshold) c := h

/-- The scan of a summary gives a number. -/
theorem scanText_ensures {request : CommandRequest} (command : call = .command request)
    {text : String} {post : Except Failure (Option Score) → Cell → Prop}
    (opened : c.Open) (scored : ∀ score, post (.ok (some score)) c) :
    Ensures (call.contract settings loads) post (scanText text) c := by
  unfold scanText
  refine ensures_perform_bind.2 ⟨⟨opened, trivial⟩, fun reply c' answered => ?_⟩
  obtain ⟨rfl, tolerated⟩ := answered
  subst command
  obtain ⟨score, found⟩ := Option.isSome_iff_exists.1 tolerated
  change post (.ok (scanScore reply)) c'
  rw [found]
  exact scored score

/-! ## Rows, tasks and predictions -/

theorem drawInteraction_ensures {post : Except Failure Uuid → Cell → Prop}
    (request : call.isRequest = true) (opened : c.Open) (new : c.id = none)
    (drawn : ∀ id, post (.ok id) { id := some id }) :
    Ensures (call.contract settings loads) post (draw .interaction) c := by
  refine ⟨⟨opened, new, request⟩, fun id c' answered => ?_⟩
  obtain rfl := answered
  exact drawn id

theorem drawAsset_ensures {post : Except Failure Uuid → Cell → Prop}
    (opened : c.Open) (own : c.id ≠ none)
    (drawn : ∀ id, post (.ok id) { c with assetIds := id :: c.assetIds }) :
    Ensures (call.contract settings loads) post (draw .asset) c := by
  refine ⟨⟨opened, own⟩, fun id c' answered => ?_⟩
  obtain rfl := answered
  exact drawn id

theorem save_ensures {writes : List Write} {post : Except Failure Unit → Cell → Prop}
    (opened : c.Open) (concerns : ∀ write ∈ writes, c.Concerns write)
    (fits : c.reservations ≠ [] → c.Fits writes) (stored : post (.ok ()) (c.applyAll writes))
    (failed : c.reservations = [] → ∀ result, post result c) :
    Ensures (call.contract settings loads) post (save writes) c := by
  unfold save
  refine ensures_perform_bind.2 ⟨⟨opened, concerns, fits⟩, fun reply c' answered => ?_⟩
  rcases answered with ⟨rfl, rfl⟩ | ⟨blank, rfl⟩
  · exact stored
  · cases reply with
    | error text => exact failed blank _
    | ok done => exact failed blank _

/-- The same for a call that holds a reservation, whose transactions succeed. -/
theorem save_held {writes : List Write} {post : Except Failure Unit → Cell → Prop}
    {reservationId : Uuid} (opened : c.Open) (held : reservationId ∈ c.reservations)
    (concerns : ∀ write ∈ writes, c.Concerns write) (fits : c.Fits writes)
    (stored : post (.ok ()) (c.applyAll writes)) :
    Ensures (call.contract settings loads) post (save writes) c := by
  refine save_ensures opened concerns (fun _ => fits) stored fun blank => ?_
  rw [blank] at held
  cases held

theorem enqueue_ensures {task : GenerationTask} {post : Except Failure Unit → Cell → Prop}
    (opened : c.Open) (own : c.id = some task.interactionId)
    (queued : post (.ok ()) { c with tasks := [task] }) :
    Ensures (call.contract settings loads) post (enqueue task) c := by
  unfold enqueue
  refine ensures_perform_bind.2 ⟨⟨opened, own⟩, fun reply c' answered => ?_⟩
  obtain ⟨rfl, rfl⟩ := answered
  rw [opened.idle]
  exact queued

theorem createPrediction_ensures {kind : AssetKind} {prompt : String} {tier : AiTier}
    {post : Except Failure String → Cell → Prop} (opened : c.Open) (own : c.id ≠ none)
    (started : ∀ id, id ∉ c.marked →
      post (.ok id) { c with predictions := id :: c.predictions })
    (failed : call.mayRetry = true → ∀ error, post (.error error) c) :
    Ensures (call.contract settings loads) post (createPrediction settings kind prompt tier) c := by
  unfold createPrediction
  refine ensures_perform_bind.2 ⟨⟨opened, own⟩, fun reply c' answered => ?_⟩
  simp only [Call.contract, Call.answered] at answered
  cases body : reply.body with
  | error text =>
      rw [body] at answered
      obtain ⟨retry, rfl⟩ := answered
      exact failed retry _
  | ok found =>
      rw [body] at answered
      cases found with
      | none =>
          obtain ⟨retry, rfl⟩ := answered
          exact failed retry _
      | some id =>
          obtain ⟨rfl, unmarked⟩ := answered
          exact started id unmarked

end

end ColabPlatform.Ai
