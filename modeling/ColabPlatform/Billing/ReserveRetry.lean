import ColabPlatform.Billing.CreditLedger

/-!
# Retried reservations

`reserve_credits` looks at what is available before it meets the row of the
first call, and rolls the session back when it does.  A retry is answered with
the first reservation only where the rest of the wallet would cover the amount
once more and the session survives the rollback.
-/

namespace ColabPlatform.Billing

open Foundation Foundation.Program

/-- What a caller repeats. -/
structure Reservation where
  userId : Uuid
  amount : Int
  referenceKind : String
  referenceId : String
  idempotencyKey : String

/-- The session a call gets, the id it draws and its time. -/
structure Attempt where
  inBlock : Bool
  newId : Uuid
  now : Timestamp

namespace Reservation

variable (r : Reservation)

def attempt (a : Attempt) (db : Db) : Except (Raised BillingError) Uuid × Db :=
  (reserveCredits r.userId r.amount r.referenceKind r.referenceId r.idempotencyKey a.newId
    a.now).atomically a.inBlock db

def available (db : Db) : Int :=
  balanceOf r.userId db + sumReserved r.userId db

/-- The row that an attempt stores. -/
def row (newId : Uuid) : CreditTransaction :=
  { id := newId, userId := r.userId, delta := -r.amount, reason := .reserve,
    referenceKind := r.referenceKind, referenceId := r.referenceId,
    idempotencyKey := r.idempotencyKey, status := .reserved, committedAt := none }

/-- A retry gives the reservation `id` and changes nothing. -/
structure Repeats (id : Uuid) (a : Attempt) (db : Db) : Prop where
  answer : (r.attempt a db).1 = .ok id
  balance : balanceOf r.userId (r.attempt a db).2 = balanceOf r.userId db
  reserved : sumReserved r.userId (r.attempt a db).2 = sumReserved r.userId db
  rows : (r.attempt a db).2.transactions = db.transactions

instance (id : Uuid) (a : Attempt) (db : Db) : Decidable (r.Repeats id a db) :=
  decidable_of_iff
    ((r.attempt a db).1 = .ok id ∧
      balanceOf r.userId (r.attempt a db).2 = balanceOf r.userId db ∧
      sumReserved r.userId (r.attempt a db).2 = sumReserved r.userId db ∧
      (r.attempt a db).2.transactions = db.transactions)
    ⟨fun ⟨h, h', h'', h'''⟩ => ⟨h, h', h'', h'''⟩, fun ⟨h, h', h'', h'''⟩ => ⟨h, h', h'', h'''⟩⟩

/-! ## One attempt -/

variable {r}

theorem attempt_of_short {a : Attempt} {db : Db} (short : r.available db < r.amount) :
    (r.attempt a db).1 = .error (.app (.insufficientCredits (r.available db) r.amount)) :=
  reserveCredits_refuses _ _ _ _ _ _ _ _ _ short

/-- What a call answers that finds the key of its row taken. -/
def answerTaken (r : Reservation) (a : Attempt) (db : Db) : Except (Raised BillingError) Uuid :=
  if a.inBlock then .error (.db .closedTransaction)
  else match db.transactions.lookupAlt r.idempotencyKey with
    | some existing => .ok existing.id
    | none => .error (.db .noResultFound)

/-- An attempt that is covered, by what becomes of its row. -/
theorem attempt_of_enough {a : Attempt} {db : Db} (enough : r.amount ≤ r.available db) :
    ∃ db' : Db, r.attempt a db =
      match Db.stored (Db.transactionFits (r.row a.newId))
        (db.transactions.insert? (r.row a.newId)) with
      | .ok transactions => (.ok a.newId, { db' with transactions })
      | .error .integrity => (r.answerTaken a db, db)
      | .error e => (.error (.db e), db) := by
  obtain ⟨inBlock, newId, now⟩ := a
  obtain ⟨wallet, db', run, found, balances, rows⟩ :=
    getOrCreateWallet_run r.userId now (Session.start inBlock db) rfl
  have balance : wallet.balance = balanceOf r.userId db := by
    simpa [balanceOf, found] using balances r.userId
  have reserved : sumReserved r.userId db' = sumReserved r.userId db := by
    simp [sumReserved, rows]
  have covered : ¬ balanceOf r.userId db + sumReserved r.userId db < r.amount := not_lt.2 enough
  have stores : db'.insertTransaction (r.row newId) =
      (Db.stored (Db.transactionFits (r.row newId)) (db.transactions.insert? (r.row newId))).map
        fun transactions => { db' with transactions } := by
    rw [Db.insertTransaction, rows]
    rfl
  refine ⟨db', ?_⟩
  unfold row at stores ⊢
  unfold answerTaken
  cases stored : Db.stored _ _ with
  | ok transactions =>
      rw [stored] at stores
      simp [attempt, atomically, reserveCredits, run, balance, reserved, covered, stores,
        Except.map]
  | error e =>
      rw [stored] at stores
      cases e with
      | integrity =>
          cases inBlock with
          | true =>
              simp [attempt, atomically, reserveCredits, run, balance, reserved, covered, stores,
                Except.map]
          | false =>
              cases taken : db.transactions.lookupAlt r.idempotencyKey <;>
                simp [attempt, atomically, reserveCredits, run, balance, reserved, covered, stores,
                  Except.map, taken]
      | _ =>
          simp [attempt, atomically, reserveCredits, run, balance, reserved, covered, stores,
            Except.map]

/-! ## The row of the key -/

/-- The key belongs to the reservation `id`. -/
def Keyed (r : Reservation) (id : Uuid) (db : Db) : Prop :=
  ∃ tx, db.transactions.lookupAlt r.idempotencyKey = some tx ∧ tx.id = id

theorem keyed_of_attempt {a : Attempt} {db : Db} {id : Uuid}
    (returned : (r.attempt a db).1 = .ok id) :
    Db.transactionFits (r.row a.newId) ∧ r.Keyed id (r.attempt a db).2 := by
  by_cases enough : r.amount ≤ r.available db
  · obtain ⟨db', outcome⟩ := attempt_of_enough (a := a) enough
    rw [outcome] at returned ⊢
    unfold Db.stored at returned ⊢
    cases fits : Db.transactionFits (r.row a.newId) with
    | false =>
        rw [fits] at returned
        cases returned
    | true =>
        rw [fits] at returned
        refine ⟨rfl, ?_⟩
        cases inserted : db.transactions.insert? (r.row a.newId) with
        | some transactions =>
            rw [inserted] at returned
            cases returned
            exact ⟨r.row a.newId, by simp [Table.lookupAlt_insert inserted, row], rfl⟩
        | none =>
            rw [inserted] at returned
            change r.answerTaken a db = .ok id at returned
            unfold answerTaken at returned
            split at returned
            · cases returned
            · cases taken : db.transactions.lookupAlt r.idempotencyKey with
              | none =>
                  rw [taken] at returned
                  cases returned
              | some existing =>
                  rw [taken] at returned
                  cases returned
                  exact ⟨existing, taken, rfl⟩
  · rw [attempt_of_short (not_le.1 enough)] at returned
    cases returned

theorem Keyed.setStatus {db : Db} {id : Uuid} (h : r.Keyed id db) (txId : Uuid)
    (status : TxStatus) (committedAt : Option Timestamp) :
    r.Keyed id (db.setTransactionStatus txId status committedAt) := by
  obtain ⟨tx, found, rfl⟩ := h
  refine ⟨if tx.id = txId then { tx with status, committedAt } else tx, ?_, ?_⟩
  · rw [Db.setTransactionStatus, Table.lookupAlt_modify, found]
    rfl
  · split <;> rfl

theorem Keyed.insert {db : Db} {transactions : Table CreditTransaction CreditTransaction.id
      fun row => some row.idempotencyKey} {id : Uuid} (h : r.Keyed id db)
    {tx : CreditTransaction} (inserted : db.transactions.insert? tx = some transactions) :
    ∃ row, transactions.lookupAlt r.idempotencyKey = some row ∧ row.id = id := by
  obtain ⟨found, there, same⟩ := h
  exact ⟨found, Table.lookupAlt_insert_of_some inserted there, same⟩

theorem Keyed.step {db : Db} {id : Uuid} (h : r.Keyed id db) (call : CreditCall) :
    r.Keyed id (creditStep db call) := by
  obtain ⟨effect, -, step⟩ := creditStep_ledgers db call
  unfold Keyed
  cases effect with
  | idle =>
      rw [step.2]
      exact h
  | post tx => exact h.insert step.2.2
  | hold tx => exact h.insert step.2.2
  | capture tx =>
      obtain ⟨-, -, -, now, rows⟩ := step
      rw [rows]
      exact h.setStatus tx.id .committed now
  | void tx compensation =>
      obtain ⟨-, -, -, -, -, -, committedAt, inserted⟩ := step
      exact (h.setStatus tx.id .released committedAt).insert inserted

theorem Keyed.run {db : Db} {id : Uuid} (h : r.Keyed id db) (calls : List CreditCall) :
    r.Keyed id (runFrom creditStep db calls) :=
  runFrom_invariant (fun _ call keyed => keyed.step call) h calls

/-! ## Retries -/

theorem repeats_iff {a : Attempt} {db : Db} {id : Uuid} (keyed : r.Keyed id db)
    (fits : Db.transactionFits (r.row a.newId) = true) :
    r.Repeats id a db ↔ a.inBlock = false ∧ r.amount ≤ r.available db := by
  obtain ⟨tx, found, rfl⟩ := keyed
  by_cases enough : r.amount ≤ r.available db
  · obtain ⟨db', outcome⟩ := attempt_of_enough (a := a) enough
    have taken : db.transactions.insert? (r.row a.newId) = none :=
      Table.insert?_of_lookupAlt found rfl
    rw [fits, taken] at outcome
    have answered : r.attempt a db = (r.answerTaken a db, db) := outcome
    constructor
    · intro repeats
      have answer := repeats.answer
      rw [answered] at answer
      unfold answerTaken at answer
      cases block : a.inBlock with
      | true =>
          rw [block] at answer
          cases answer
      | false => exact ⟨rfl, enough⟩
    · rintro ⟨outside, -⟩
      refine ⟨?_, ?_, ?_, ?_⟩ <;> rw [answered]
      simp [answerTaken, outside, found]
  · constructor
    · intro repeats
      have answer := repeats.answer
      rw [attempt_of_short (not_le.1 enough)] at answer
      cases answer
    · intro both
      exact absurd both.2 enough

end Reservation

/--
After any run, a call that returned `id`, and any further run: the retry gives
`id` and changes nothing exactly if its session is not in a block and the
credits that are still available cover the amount once more.
-/
theorem reserve_retry_iff {calls later : List CreditCall} {r : Reservation} {first retry : Attempt}
    {id : Uuid} (returned : (r.attempt first (runFrom creditStep Db.empty calls)).1 = .ok id) :
    r.Repeats id retry
        (runFrom creditStep (r.attempt first (runFrom creditStep Db.empty calls)).2 later) ↔
      retry.inBlock = false ∧ r.amount ≤ r.available
        (runFrom creditStep (r.attempt first (runFrom creditStep Db.empty calls)).2 later) := by
  obtain ⟨fits, keyed⟩ := Reservation.keyed_of_attempt returned
  exact Reservation.repeats_iff (keyed.run later) fits

/-- A wallet of 100 credits. -/
def funded : List CreditCall :=
  [⟨.purchase ⟨"u"⟩ 100 "stripe" "s_1" "purchase:s_1", false, ⟨"p1"⟩, 0⟩]

def reservationOf (amount : Int) : Reservation :=
  ⟨⟨"u"⟩, amount, "ai_interaction", "ai_1", "reserve:ai_1"⟩

def firstAttempt : Attempt := ⟨false, ⟨"r1"⟩, 1⟩

def secondAttempt : Attempt := ⟨false, ⟨"r2"⟩, 2⟩

theorem reserve_retry_of_forty :
    (reservationOf 40).Repeats ⟨"r1"⟩ secondAttempt
      ((reservationOf 40).attempt firstAttempt (runFrom creditStep Db.empty funded)).2 :=
  (@reserve_retry_iff funded [] (reservationOf 40) firstAttempt secondAttempt ⟨"r1"⟩
    (by decide +kernel)).2 ⟨rfl, by decide +kernel⟩

/-- Of 100 credits 60 are reserved; the retry is refused. -/
theorem not_reserve_retry :
    ¬ ∀ (calls later : List CreditCall) (r : Reservation) (first retry : Attempt) (id : Uuid),
      (r.attempt first (runFrom creditStep Db.empty calls)).1 = .ok id →
        r.Repeats id retry
          (runFrom creditStep (r.attempt first (runFrom creditStep Db.empty calls)).2 later) := by
  intro all
  have repeats := all funded [] (reservationOf 60) firstAttempt secondAttempt ⟨"r1"⟩
    (by decide +kernel)
  exact absurd repeats.answer (by decide +kernel)

end ColabPlatform.Billing
