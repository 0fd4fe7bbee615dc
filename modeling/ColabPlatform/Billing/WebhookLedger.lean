import ColabPlatform.Billing.HandlerSpecs
import ColabPlatform.Foundation.Run

/-!
# The webhook ledger

Any number of deliveries of one event reach the endpoint, in any interleaving.
The insertion of the ledger row waits for a delivery that holds an uncommitted
one; the row is committed by the handler with its other writes, so an event whose
handler returns before its commit is answered with 200 and leaves nothing.
-/

namespace ColabPlatform.Billing.WebhookLedger

open Foundation Foundation.Program

/-! ## Deliveries -/

/-- An event as every delivery of it brings it. -/
structure Notification where
  id : String
  eventType : String
  created : Option Int
  event : StripeEvent

def Notification.row (notification : Notification) (draws : Draws) : WebhookEvent :=
  ⟨.stripe, notification.id, notification.eventType,
    fromSeconds (notification.created.getD 0), draws.now⟩

/-- An answer, whether the ledger row was committed when it was given, and whether
the delivery changed what is committed. -/
structure Answer where
  reply : WebhookReply
  stored : Bool
  changed : Bool
  deriving DecidableEq, Repr

/-- `holder` is the delivery whose ledger row is not committed yet. -/
structure LedgerState where
  db : Db
  holder : Option Nat
  answers : List Answer

/-- A delivery arrives at the ledger, or its handler runs and may be made to raise
before its commit; `elsewhere` is a commit of another transaction. -/
inductive LedgerEvent where
  | arrive (delivery : Nat)
  | finish (delivery : Nat) (draws : Draws) (raises : Bool)
  | elsewhere (db : Db)

variable (config : TierConfig) (notification : Notification)

def Stored (db : Db) : Prop :=
  (db.webhookEvents.lookup (.stripe, notification.id)).isSome

instance (db : Db) : Decidable (Stored notification db) :=
  inferInstanceAs (Decidable (_ = true))

/-- What the endpoint answers and commits for the delivery that holds the row. -/
def handled (draws : Draws) (raises : Bool) (db : Db) : WebhookReply × Db :=
  if raises then (.internalError, db)
  else endpoint (notification.row draws) (dispatchStripeEvent config draws notification.event) db

def step (s : LedgerState) : LedgerEvent → LedgerState
  | .arrive delivery =>
      if s.holder.isSome then s
      else if Stored notification s.db then
        { s with answers := ⟨.duplicate, true, false⟩ :: s.answers }
      else { s with holder := some delivery }
  | .finish delivery draws raises =>
      if s.holder = some delivery then
        let (reply, db) := handled config notification draws raises s.db
        ⟨db, none, ⟨reply, Stored notification db, db ≠ s.db⟩ :: s.answers⟩
      else s
  | .elsewhere db =>
      -- no other transaction writes the ledger row of this event
      if db.webhookEvents.lookup (.stripe, notification.id) =
          s.db.webhookEvents.lookup (.stripe, notification.id) then
        { s with db }
      else s

/-- Exactly once: the effects are committed at most once, an answer of 200 leaves
or finds the ledger row, and a failure leaves neither row nor effect. -/
structure ExactlyOnce (answers : List Answer) : Prop where
  once : (answers.filter Answer.changed).length ≤ 1
  recorded : ∀ answer ∈ answers, answer.reply ≠ .internalError → answer.stored = true
  undone : ∀ answer ∈ answers, answer.reply = .internalError →
    answer.stored = false ∧ answer.changed = false

/-! ## Which events are recorded -/

/--
The handler gets to its commit with the ledger row pending: the type of the event
is handled and its customer known, a checkout buys credits, and the row of the
credits that are bought or granted does not clash with one that is stored.
-/
def Recorded (config : TierConfig) (draws : Draws) (db : Db) : StripeEvent → Prop
  | .subCreated event | .subUpdated event | .subDeleted event =>
      (db.userOfStripeCustomer (event.customer.getD "")).isSome
  | .invoiceFailed event => (db.userOfStripeCustomer (event.customer.getD "")).isSome
  | .chargeRefunded event => (db.userOfStripeCustomer (event.customer.getD "")).isSome
  | .invoicePaid event =>
      match db.userOfStripeCustomer (event.customer.getD "") with
      | none => False
      | some userId => ∀ sub ∈ event.due config db,
          ¬ db.transactions.Clashes (grantRow config draws userId sub)
  | .checkoutCompleted event =>
      match event.purchase draws with
      | none => False
      | some tx => ¬ db.transactions.Clashes tx
  | .unknown => False

instance (config : TierConfig) (draws : Draws) (db : Db) (event : StripeEvent) :
    Decidable (Recorded config draws db event) := by
  unfold Recorded
  split
  case h_6 => split <;> infer_instance
  case h_7 => split <;> infer_instance
  all_goals infer_instance

/-- A handler that returns has committed the ledger row just when it is recorded. -/
theorem dispatchStripeEvent_records (config : TierConfig) (draws : Draws)
    (event : StripeEvent) (s : Session Db) :
    (dispatchStripeEvent config draws event).Settles s fun db =>
      (Recorded config draws s.working event ∧
          db.webhookEvents = s.working.webhookEvents) ∨
        ¬ Recorded config draws s.working event ∧
          db.webhookEvents = s.committed.webhookEvents := by
  cases event with
  | subCreated event | subUpdated event | subDeleted event =>
      refine (handleSubscription_settles config _ event draws s).mono ?_
      rintro db (⟨unknown, rfl⟩ | ⟨userId, sub, user, -, wrote, -⟩)
      · exact Or.inr ⟨by simp [Recorded, unknown], rfl⟩
      · exact Or.inl ⟨by simp [Recorded, user], wrote.webhookEvents⟩
  | invoiceFailed event =>
      refine (handleInvoiceFailed_settles event draws s).mono ?_
      rintro db (⟨unknown, rfl⟩ | ⟨known, ⟨-, rfl⟩ | ⟨storeId, row, -, -, wrote⟩⟩)
      · exact Or.inr ⟨by simp [Recorded, unknown], rfl⟩
      · exact Or.inl ⟨known, rfl⟩
      · exact Or.inl ⟨known, wrote.webhookEvents⟩
  | invoicePaid event =>
      refine (handleInvoicePaid_settles config event draws s).mono ?_
      rintro db (⟨unknown, rfl⟩ | ⟨userId, user, outcome⟩)
      · exact Or.inr ⟨by simp [Recorded, unknown], rfl⟩
      · obtain ⟨due, same, -⟩ | ⟨sub, due, ⟨same, inserted⟩ | ⟨clash, same, -⟩⟩ := outcome
        · exact Or.inl ⟨by simp [Recorded, user, due], same.webhookEvents⟩
        · refine Or.inl ⟨?_, same.webhookEvents⟩
          simpa [Recorded, user, due] using (Table.insert?_eq_some inserted).1
        · exact Or.inr ⟨by simpa [Recorded, user, due] using clash, same.webhookEvents⟩
  | chargeRefunded event =>
      refine (handleChargeRefunded_settles event draws s).mono ?_
      rintro db (⟨unknown, rfl⟩ | ⟨known, same⟩)
      · exact Or.inr ⟨by simp [Recorded, unknown], rfl⟩
      · exact Or.inl ⟨known, same.webhookEvents⟩
  | checkoutCompleted event =>
      refine (handleCheckoutCompleted_settles event draws s).mono ?_
      rintro db (⟨nothing, rfl⟩ | ⟨tx, sold, ⟨same, fresh⟩ | ⟨clash, rfl⟩⟩)
      · exact Or.inr ⟨by simp [Recorded, nothing], rfl⟩
      · exact Or.inl ⟨by simpa [Recorded, sold] using fresh, same.webhookEvents⟩
      · exact Or.inr ⟨by simpa [Recorded, sold] using clash, rfl⟩
  | unknown => exact settles_pure (Or.inr ⟨by simp [Recorded], rfl⟩)

theorem recorded_pending {config : TierConfig} {draws : Draws} {row : WebhookEvent}
    {db pending : Db} (ledger : LedgerPending row db pending) (event : StripeEvent) :
    Recorded config draws pending event ↔ Recorded config draws db event := by
  rw [ledger.same]
  cases event <;> rfl

/-- What is handled for the delivery that holds the row. -/
theorem handled_cases (draws : Draws) (raises : Bool) {db : Db}
    (unstored : ¬ Stored notification db) :
    ((handled config notification draws raises db).1 = .internalError ∧
        (handled config notification draws raises db).2 = db) ∨
      (raises = false ∧ (handled config notification draws raises db).1 = .ok ∧
        (Stored notification (handled config notification draws raises db).2 ↔
          Recorded config draws db notification.event)) := by
  cases raises with
  | true => exact Or.inl ⟨rfl, rfl⟩
  | false =>
      have cases := endpoint_cases (notification.row draws)
        (dispatchStripeEvent config draws notification.event) db
        (fun pending db' => (Recorded config draws db notification.event ∧
            db'.webhookEvents = pending.webhookEvents) ∨
          ¬ Recorded config draws db notification.event ∧
            db'.webhookEvents = db.webhookEvents)
        fun s committed ledger => by
          have records := dispatchStripeEvent_records config draws notification.event s
          rw [recorded_pending ledger, committed] at records
          exact records
      have key : (notification.row draws).eventKey = (.stripe, notification.id) := rfl
      have plain : handled config notification draws false db =
          endpoint (notification.row draws)
            (dispatchStripeEvent config draws notification.event) db := rfl
      rw [plain]
      obtain ⟨-, -, stored⟩ | ⟨reply, same⟩ | ⟨reply, pending, ledger, outcome⟩ := cases
      · exact absurd stored unstored
      · exact Or.inl ⟨reply, same⟩
      · refine Or.inr ⟨rfl, reply, ?_⟩
        obtain ⟨recorded, events⟩ | ⟨lost, events⟩ := outcome
        · have stored : Stored notification pending := by
            rw [Stored, Table.lookup_insert ledger.inserted, if_pos key]
            rfl
          rw [Stored, events]
          exact ⟨fun _ => recorded, fun _ => stored⟩
        · rw [Stored, events]
          exact ⟨fun stored => absurd stored unstored, fun recorded => absurd recorded lost⟩

/-! ## Runs -/

/-- A delivery that holds the row, and whose handler is not made to raise, has an
event that is recorded. -/
def Reaches (s : LedgerState) : LedgerEvent → Prop
  | .finish delivery draws raises =>
      s.holder = some delivery → raises = false →
        Recorded config draws s.db notification.event
  | .arrive _ | .elsewhere _ => True

instance (s : LedgerState) (e : LedgerEvent) :
    Decidable (Reaches config notification s e) := by
  unfold Reaches
  split <;> infer_instance

structure Kept (s : LedgerState) : Prop where
  unstored : s.holder.isSome → ¬ Stored notification s.db
  stored : ∀ answer ∈ s.answers, answer.changed = true → Stored notification s.db
  exactly : ExactlyOnce s.answers

variable {config notification} {s : LedgerState}

/-- The answer of a delivery that changes nothing. -/
theorem ExactlyOnce.cons {answers : List Answer} {answer : Answer}
    (h : ExactlyOnce answers) (unchanged : answer.changed = false)
    (recorded : answer.reply ≠ .internalError → answer.stored = true)
    (undone : answer.reply = .internalError → answer.stored = false) :
    ExactlyOnce (answer :: answers) := by
  constructor
  · rw [List.filter_cons_of_neg (by simp [unchanged])]
    exact h.once
  · simpa using ⟨recorded, h.recorded⟩
  · simpa using ⟨fun failed => ⟨undone failed, unchanged⟩, h.undone⟩

/-- The answer of the delivery that commits the row. -/
theorem ExactlyOnce.committed {answers : List Answer} {changed : Bool}
    (h : ExactlyOnce answers) (first : ∀ answer ∈ answers, answer.changed = false) :
    ExactlyOnce (⟨.ok, true, changed⟩ :: answers) := by
  have none_changed : answers.filter Answer.changed = [] :=
    List.filter_eq_nil_iff.2 fun answer mem => by simp [first answer mem]
  constructor
  · rw [List.filter_cons, none_changed]
    split <;> simp
  · simpa using h.recorded
  · simpa using h.undone

theorem kept_arrive (kept : Kept notification s) (delivery : Nat) :
    Kept notification (step config notification s (.arrive delivery)) := by
  dsimp only [step]
  split
  · exact kept
  split
  · rename_i held stored
    refine ⟨fun holder => absurd holder held, ?_, kept.exactly.cons rfl (by simp) (by simp)⟩
    simpa using kept.stored
  · rename_i unstored
    exact ⟨fun _ => unstored, kept.stored, kept.exactly⟩

theorem kept_finish (kept : Kept notification s) {delivery : Nat} {draws : Draws}
    {raises : Bool} (reaches : Reaches config notification s (.finish delivery draws raises)) :
    Kept notification (step config notification s (.finish delivery draws raises)) := by
  dsimp only [step]
  split
  · rename_i holder
    have unstored := kept.unstored (by rw [holder]; rfl)
    have first : ∀ answer ∈ s.answers, answer.changed = false := by
      intro answer mem
      by_contra changed
      exact unstored (kept.stored answer mem (by simpa using changed))
    obtain ⟨reply, same⟩ | ⟨runs, reply, stored⟩ :=
      handled_cases config notification draws raises unstored
    · rw [reply, same]
      refine ⟨by simp, ?_, kept.exactly.cons ?_ ?_ ?_⟩
      · simpa using kept.stored
      · simp
      · simp
      · simpa using unstored
    · have now := stored.2 (reaches holder runs)
      rw [reply]
      refine ⟨by simp, fun _ _ _ => now, ?_⟩
      simpa [now] using kept.exactly.committed first
  · exact kept

theorem kept_elsewhere (kept : Kept notification s) (db : Db) :
    Kept notification (step config notification s (.elsewhere db)) := by
  dsimp only [step]
  split
  · rename_i same
    have stored : Stored notification db ↔ Stored notification s.db := by
      rw [Stored, same, Stored]
    refine ⟨?_, ?_, kept.exactly⟩
    · simpa only [stored] using kept.unstored
    · simpa only [stored] using kept.stored
  · exact kept

theorem kept_step {e : LedgerEvent} (reaches : Reaches config notification s e)
    (kept : Kept notification s) : Kept notification (step config notification s e) := by
  cases e with
  | arrive delivery => exact kept_arrive kept delivery
  | finish delivery draws raises => exact kept_finish kept reaches
  | elsewhere db => exact kept_elsewhere kept db

def sampleCheckout (mode : String) : Notification :=
  { id := "evt-1", eventType := "checkout.session.completed", created := some 100,
    event := .checkoutCompleted
      { mode := some mode, clientReferenceId := some ⟨"ana"⟩, customer := some "cus_1",
        id := some "cs_1", creditAmount := some 100 } }

end ColabPlatform.Billing.WebhookLedger
