import ColabPlatform.Billing.Model

/-!
# Credit wallet service

The wallet operations, statement by statement.  Each takes the fresh row id it
draws (`uuid4`) and the current time as arguments.  A grant is identified by
its subscription and the calendar day on which the period starts.
-/

namespace ColabPlatform.Billing

open Foundation Foundation.Program

/-! ## Texts -/

/-- The calendar date of a day number, in the proleptic Gregorian calendar. -/
def civilFromDays (days : Int) : Int × Nat × Nat :=
  let shifted := days + 719468
  let era := shifted / 146097
  let dayOfEra := (shifted % 146097).toNat
  let yearOfEra :=
    (dayOfEra - dayOfEra / 1460 + dayOfEra / 36524 - dayOfEra / 146096) / 365
  let dayOfYear := dayOfEra - (365 * yearOfEra + yearOfEra / 4 - yearOfEra / 100)
  let marchMonth := (5 * dayOfYear + 2) / 153
  let day := dayOfYear - (153 * marchMonth + 2) / 5 + 1
  let month := if marchMonth < 10 then marchMonth + 3 else marchMonth - 9
  let year := yearOfEra + era * 400 + if month ≤ 2 then 1 else 0
  (year, month, day)

def padded (width n : Nat) : String :=
  let digits := toString n
  String.ofList (List.replicate (width - digits.length) '0') ++ digits

/-- `t.date().isoformat()`. -/
def isoDate (t : Timestamp) : String :=
  let (year, month, day) := civilFromDays (t / 86400000000)
  padded 4 year.toNat ++ "-" ++ padded 2 month ++ "-" ++ padded 2 day

example : isoDate 1709208000000000 = "2024-02-29" := by decide

def grantKey (subscriptionId : Uuid) (periodStart : Timestamp) : String :=
  "grant:" ++ subscriptionId.text ++ ":" ++ isoDate periodStart

def releaseKey (reservationId : Uuid) : String := "release:" ++ reservationId.text

def adminKey (adminActionId : String) : String := "admin:" ++ adminActionId

/-- The reason column accepts the texts of its check constraint. -/
def TxReason.ofText (text : String) : Except DbError TxReason :=
  if ¬ Db.isVarchar 32 text then .error .data
  else match text with
    | "purchase" => .ok .purchase
    | "admin_grant" => .ok .adminGrant
    | "subscription_grant" => .ok .subscriptionGrant
    | "consume" => .ok .consume
    | "reserve" => .ok .reserve
    | "release" => .ok .release
    | "refund" => .ok .refund
    | "expire" => .ok .expire
    | _ => .error .integrity

/-! ## Operations -/

/-- `_get_or_create_wallet` -/
def getOrCreateWallet (userId : Uuid) (now : Timestamp) :
    BillingM CreditWallet := do
  match ← query fun db => db.wallets.lookup userId with
  | some wallet => return wallet
  | none =>
      let wallet : CreditWallet := { userId, balance := 0, updatedAt := now }
      write (Db.insertWallet wallet)
      return wallet

/-- `_sum_reserved` -/
def sumReserved (userId : Uuid) (db : Db) : Int :=
  db.transactions.sumBy fun tx =>
    if tx.userId = userId ∧ tx.status = .reserved then tx.delta else 0

def reserveCredits (userId : Uuid) (amount : Int)
    (referenceKind referenceId idempotencyKey : String) (newId : Uuid)
    (now : Timestamp) : BillingM Uuid := do
  let wallet ← getOrCreateWallet userId now
  let reservedTotal ← query (sumReserved userId)
  let available := wallet.balance + reservedTotal
  if available < amount then
    raise (.insufficientCredits available amount)
  let tx : CreditTransaction :=
    { id := newId, userId, delta := -amount, reason := .reserve, referenceKind,
      referenceId, idempotencyKey, status := .reserved, committedAt := none }
  if ← tryWrite (Db.insertTransaction tx) then
    return tx.id
  rollback
  -- the retry of a call that succeeded: answer with its reservation
  let existing ← query fun db => db.transactions.lookupAlt idempotencyKey
  return (← scalarOne existing).id

def commitReservation (reservationId : Uuid) (now : Timestamp) :
    BillingM Unit := do
  match ← query fun db => db.transactions.lookup reservationId with
  | none => return
  | some tx =>
      if tx.status ≠ .reserved then
        return
      write fun db => .ok (db.setTransactionStatus tx.id .committed (some now))
      let wallet ← getOrCreateWallet tx.userId now
      write (Db.setWallet tx.userId (wallet.balance + tx.delta) now)

def releaseReservation (reservationId : Uuid) (reason : String) (newId : Uuid)
    (now : Timestamp) : BillingM Unit := do
  match ← query fun db => db.transactions.lookup reservationId with
  | none => return
  | some tx =>
      if tx.status ≠ .reserved then
        return
      write fun db =>
        .ok (db.setTransactionStatus tx.id .released tx.committedAt)
      write fun db => do
        let reason ← TxReason.ofText reason
        db.insertTransaction
          { id := newId, userId := tx.userId, delta := -tx.delta, reason,
            referenceKind := "credit_transaction", referenceId := tx.id.text,
            idempotencyKey := releaseKey tx.id, status := .committed,
            committedAt := some now }

/--
The insertion that `credit_purchase`, `grant_subscription_credits` and
`admin_adjust_credits` have in common: a committed row of `tx.delta` credits.
-/
def committedRow (id userId : Uuid) (delta : Int) (reason : TxReason)
    (referenceKind referenceId idempotencyKey : String) (now : Timestamp) :
    CreditTransaction :=
  { id, userId, delta, reason, referenceKind, referenceId, idempotencyKey,
    status := .committed, committedAt := some now }

def creditPurchase (userId : Uuid) (amount : Int)
    (referenceKind referenceId idempotencyKey : String) (newId : Uuid)
    (now : Timestamp) : BillingM CreditTransaction := do
  let wallet ← getOrCreateWallet userId now
  let tx := committedRow newId userId amount .purchase referenceKind referenceId
    idempotencyKey now
  if ← tryWrite (Db.insertTransaction tx) then
    write (Db.setWallet userId (wallet.balance + amount) now)
    return tx
  rollback
  scalarOne (← query fun db => db.transactions.lookupAlt idempotencyKey)

def grantSubscriptionCredits (userId : Uuid) (amount : Int)
    (subscriptionId : Uuid) (periodStart : Timestamp) (newId : Uuid)
    (now : Timestamp) : BillingM (Option CreditTransaction) := do
  let wallet ← getOrCreateWallet userId now
  let tx := committedRow newId userId amount .subscriptionGrant "subscription"
    subscriptionId.text (grantKey subscriptionId periodStart) now
  if ← tryWrite (Db.insertTransaction tx) then
    write (Db.setWallet userId (wallet.balance + amount) now)
    return some tx
  rollback
  return none

/-- The free-text reason is not stored: the row's reason is a fixed code. -/
def adminAdjustCredits (userId : Uuid) (delta : Int)
    (_reason adminActionId : String) (newId : Uuid) (now : Timestamp) :
    BillingM CreditTransaction := do
  let wallet ← getOrCreateWallet userId now
  let tx := committedRow newId userId delta .adminGrant "admin_action"
    adminActionId (adminKey adminActionId) now
  write (Db.insertTransaction tx)
  write (Db.setWallet userId (wallet.balance + delta) now)
  return tx

end ColabPlatform.Billing
