import ColabPlatform.Billing.Credits
import ColabPlatform.Foundation.Holds
import ColabPlatform.Foundation.Run
import ColabPlatform.Foundation.Transactions

/-!
# The credit ledger

Every wallet operation either leaves a user's ledger alone or makes one move on
one account: it posts, holds, captures or voids.  The invariants of accounts
with holds then carry over to every run of the six operations.
-/

namespace ColabPlatform.Billing

open Foundation Foundation.Program

/-! ## The account of a user -/

def balanceOf (userId : Uuid) (db : Db) : Int :=
  (db.wallets.lookup userId).elim 0 CreditWallet.balance

def settledSum (userId : Uuid) (db : Db) : Int :=
  db.transactions.sumBy fun tx =>
    if tx.userId = userId ∧ tx.status ≠ .reserved then tx.delta else 0

def totalSum (userId : Uuid) (db : Db) : Int :=
  db.transactions.sumBy fun tx => if tx.userId = userId then tx.delta else 0

def account (userId : Uuid) (db : Db) : Account Int :=
  ⟨balanceOf userId db, settledSum userId db, sumReserved userId db⟩

theorem settledSum_add_sumReserved (userId : Uuid) (db : Db) :
    settledSum userId db + sumReserved userId db = totalSum userId db := by
  unfold settledSum sumReserved totalSum
  rw [← Table.sumBy_add]
  refine Table.sumBy_congr fun tx _ => ?_
  by_cases owner : tx.userId = userId <;>
    by_cases held : tx.status = .reserved <;> simp [owner, held]

/-! ## What an operation does to the ledger -/

inductive LedgerEffect where
  | idle
  | post (tx : CreditTransaction)
  | hold (tx : CreditTransaction)
  | capture (tx : CreditTransaction)
  | void (tx compensation : CreditTransaction)

def SameBalances (db db' : Db) : Prop :=
  ∀ userId, balanceOf userId db' = balanceOf userId db

def BalanceMoved (db db' : Db) (owner : Uuid) (delta : Int) : Prop :=
  ∀ userId, balanceOf userId db' =
    if owner = userId then balanceOf userId db + delta else balanceOf userId db

/-- The tables after an effect, as far as the ledger is concerned. -/
def LedgerStep (db db' : Db) : LedgerEffect → Prop
  | .idle => SameBalances db db' ∧ db'.transactions = db.transactions
  | .post tx =>
      BalanceMoved db db' tx.userId tx.delta ∧ tx.status = .committed ∧
        db.transactions.insert? tx = some db'.transactions
  | .hold tx =>
      SameBalances db db' ∧ tx.status = .reserved ∧
        db.transactions.insert? tx = some db'.transactions
  | .capture tx =>
      BalanceMoved db db' tx.userId tx.delta ∧ tx.status = .reserved ∧
        db.transactions.lookup tx.id = some tx ∧ ∃ now,
          db'.transactions =
            (db.setTransactionStatus tx.id .committed now).transactions
  | .void tx compensation =>
      SameBalances db db' ∧ tx.status = .reserved ∧
        db.transactions.lookup tx.id = some tx ∧
        compensation.status = .committed ∧ compensation.userId = tx.userId ∧
        compensation.delta = -tx.delta ∧ ∃ committedAt,
          (db.setTransactionStatus tx.id .released
            committedAt).transactions.insert? compensation =
              some db'.transactions

def LedgerEffect.accountAfter (userId : Uuid) (a : Account Int) :
    LedgerEffect → Account Int
  | .idle => a
  | .post tx => if tx.userId = userId then a.apply (.post tx.delta) else a
  | .hold tx => if tx.userId = userId then a.apply (.hold tx.delta) else a
  | .capture tx => if tx.userId = userId then a.apply (.capture tx.delta) else a
  | .void tx _ => if tx.userId = userId then a.apply (.void tx.delta) else a

/-- The effects of the concrete tables are the moves of the abstract account. -/
theorem LedgerStep.account_eq {db db' : Db} {effect : LedgerEffect}
    (h : LedgerStep db db' effect) (userId : Uuid) :
    account userId db' = effect.accountAfter userId (account userId db) := by
  cases effect with
  | idle =>
      obtain ⟨balances, rows⟩ := h
      simp [account, LedgerEffect.accountAfter, balances userId, settledSum,
        sumReserved, rows]
  | post tx =>
      obtain ⟨balances, committed, rows⟩ := h
      by_cases owner : tx.userId = userId <;>
        simp [account, LedgerEffect.accountAfter, balances userId, owner,
          settledSum, sumReserved, Table.sumBy_insert rows, committed,
          Account.apply, Int.add_comm]
  | hold tx =>
      obtain ⟨balances, reserved, rows⟩ := h
      by_cases owner : tx.userId = userId <;>
        simp [account, LedgerEffect.accountAfter, balances userId, owner,
          settledSum, sumReserved, Table.sumBy_insert rows, reserved,
          Account.apply, Int.add_comm]
  | capture tx =>
      obtain ⟨balances, reserved, found, now, rows⟩ := h
      by_cases owner : tx.userId = userId <;>
        simp [account, LedgerEffect.accountAfter, balances userId, owner,
          settledSum, sumReserved, rows, Db.setTransactionStatus,
          Table.sumBy_modify found, reserved, Account.apply]
  | void tx compensation =>
      obtain ⟨balances, reserved, found, committed, owner', delta, now, rows⟩ := h
      by_cases owner : tx.userId = userId
      · simp only [account, LedgerEffect.accountAfter, balances userId, owner,
          settledSum, sumReserved, Table.sumBy_insert rows, committed, owner',
          Db.setTransactionStatus, Table.sumBy_modify found, reserved, delta,
          Account.apply]
        simp
      · simp [account, LedgerEffect.accountAfter, balances userId, owner,
          settledSum, sumReserved, Table.sumBy_insert rows, committed, owner',
          Db.setTransactionStatus, Table.sumBy_modify found]

/-! ## What each operation does -/

theorem SameBalances.refl (db : Db) : SameBalances db db := fun _ => rfl

theorem stored_eq_ok {T : Type} {fits : Bool} {inserted : Option T} {t : T}
    (h : Db.stored fits inserted = .ok t) : inserted = some t := by
  unfold Db.stored at h
  split at h
  · cases inserted with
    | none => cases h
    | some _ => cases h; rfl
  · cases h

theorem insertTransaction_eq_ok {tx : CreditTransaction} {db db' : Db}
    (h : db.insertTransaction tx = .ok db') :
    db'.wallets = db.wallets ∧
      db.transactions.insert? tx = some db'.transactions := by
  unfold Db.insertTransaction at h
  cases inserted : Db.stored (Db.transactionFits tx)
      (db.transactions.insert? tx) with
  | error e =>
      rw [inserted] at h
      cases h
  | ok transactions =>
      rw [inserted] at h
      cases h
      exact ⟨rfl, stored_eq_ok inserted⟩

theorem insertTransaction_balances {tx : CreditTransaction} {db db' : Db}
    (h : db.insertTransaction tx = .ok db') : SameBalances db db' := by
  intro userId
  rw [balanceOf, (insertTransaction_eq_ok h).1, balanceOf]

/-- The wallet exists afterwards, holds the user's balance, and the ledger is
as it was. -/
theorem getOrCreateWallet_run (userId : Uuid) (now : Timestamp)
    (s : Session Db) (live : s.closed = false) :
    ∃ wallet db, (getOrCreateWallet userId now).run s =
        .ok wallet { s with working := db } ∧
      db.wallets.lookup userId = some wallet ∧
      SameBalances s.working db ∧ db.transactions = s.working.transactions := by
  cases found : s.working.wallets.lookup userId with
  | some wallet =>
      refine ⟨wallet, s.working, ?_, found, SameBalances.refl _, rfl⟩
      cases s
      simp_all [getOrCreateWallet]
  | none =>
      have fresh : ¬ s.working.wallets.Clashes ⟨userId, 0, now⟩ := by
        simpa [Table.Clashes] using Table.lookup_eq_none_iff.1 found
      obtain ⟨wallets, inserted⟩ :=
        Option.ne_none_iff_exists'.1 (mt Table.insert?_eq_none_iff.1 fresh)
      have lookup := Table.lookup_insert inserted
      refine ⟨⟨userId, 0, now⟩, { s.working with wallets }, ?_, by simp [lookup],
        fun other => ?_, rfl⟩
      · cases s
        simp_all [getOrCreateWallet, Db.insertWallet, Db.stored, Except.map,
          Db.isBigInt]
      · by_cases same : userId = other
        · subst same
          simp [balanceOf, lookup, found]
        · simp [balanceOf, lookup, same]

theorem getOrCreateWallet_transacts (userId : Uuid) (now : Timestamp)
    (s : Session Db) :
    (getOrCreateWallet userId now).Transacts s fun wallet s' =>
      s' = { s with working := s'.working } ∧
        s'.working.wallets.lookup userId = some wallet ∧
        SameBalances s.working s'.working ∧
        s'.working.transactions = s.working.transactions := by
  unfold Transacts
  cases live : s.closed with
  | true => simp [getOrCreateWallet, live]
  | false =>
      obtain ⟨wallet, db, run, rest⟩ := getOrCreateWallet_run userId now s live
      simpa [run, live] using rest

theorem setWallet_balances {userId : Uuid} {wallet : CreditWallet}
    {delta : Int} {now : Timestamp} {db db' : Db}
    (found : db.wallets.lookup userId = some wallet)
    (h : db.setWallet userId (wallet.balance + delta) now = .ok db') :
    BalanceMoved db db' userId delta ∧ db'.transactions = db.transactions := by
  unfold Db.setWallet at h
  split at h
  · cases h
    refine ⟨fun other => ?_, rfl⟩
    simp only [balanceOf]
    rw [Table.lookup_modify]
    by_cases same : userId = other
    · subst same
      simp [found]
    · simp [same]
  · cases h

/-- The insertion of a committed row followed by the update of the wallet. -/
theorem post_of_insert_of_setWallet {db db₁ db₂ db₃ : Db}
    {tx : CreditTransaction} {wallet : CreditWallet} {now : Timestamp}
    (committed : tx.status = .committed) (balances : SameBalances db db₁)
    (rows : db₁.transactions = db.transactions)
    (found : db₁.wallets.lookup tx.userId = some wallet)
    (inserted : db₁.insertTransaction tx = .ok db₂)
    (updated : db₂.setWallet tx.userId (wallet.balance + tx.delta) now =
      .ok db₃) : LedgerStep db db₃ (.post tx) := by
  obtain ⟨wallets, transactions⟩ := insertTransaction_eq_ok inserted
  rw [← wallets] at found
  obtain ⟨moved, kept⟩ := setWallet_balances found updated
  refine ⟨fun userId => ?_, committed, ?_⟩
  · rw [moved userId, insertTransaction_balances inserted userId,
      balances userId]
  · rw [kept, ← rows, transactions]

/-- The operation changed the ledger by one of the `allowed` effects. -/
def Ledgers (db db' : Db) (allowed : LedgerEffect → Prop) : Prop :=
  ∃ effect, allowed effect ∧ LedgerStep db db' effect

theorem ledgers_idle {db db' : Db} {allowed : LedgerEffect → Prop}
    (idle : allowed .idle) (balances : SameBalances db db')
    (rows : db'.transactions = db.transactions) : Ledgers db db' allowed :=
  ⟨.idle, idle, balances, rows⟩

/-- After a rollback the session shows what was committed. -/
theorem ledgers_rolledBack {db : Db} {s : Session Db}
    {allowed : LedgerEffect → Prop} (idle : allowed .idle)
    (committed : s.committed = db) :
    Ledgers db s.rolledBack.working allowed :=
  ledgers_idle idle (by simp [committed, SameBalances.refl])
    (by simp [committed])

theorem reserveCredits_transacts (userId : Uuid) (amount : Int)
    (referenceKind referenceId idempotencyKey : String) (newId : Uuid)
    (now : Timestamp) {inBlock : Bool} {db : Db}
    {allowed : LedgerEffect → Prop} (idle : allowed .idle)
    (hold : ∀ tx, tx.userId = userId → tx.delta = -amount →
      amount ≤ balanceOf userId db + sumReserved userId db →
      allowed (.hold tx)) :
    (reserveCredits userId amount referenceKind referenceId idempotencyKey newId
      now).Transacts (Session.start inBlock db) fun _ s =>
        Ledgers db s.working allowed := by
  unfold reserveCredits
  refine transacts_bind ((getOrCreateWallet_transacts _ _ _).mono ?_)
  rintro wallet s ⟨frame, found, balances, rows⟩
  have committed : s.committed = db := by rw [frame]; rfl
  have balance : wallet.balance = balanceOf userId db := by
    have := balances userId
    simpa [balanceOf, found] using this
  refine transacts_bind (transacts_query fun _ => ?_)
  have reserved : sumReserved userId s.working = sumReserved userId db := by
    simp [sumReserved, rows]
  simp only [balance, reserved]
  split
  · exact transacts_bind transacts_raise
  · rename_i enough
    refine transacts_bind (transacts_tryWrite ?_ ?_)
    · intro _ db' inserted
      refine transacts_pure ?_
      obtain ⟨-, transactions⟩ := insertTransaction_eq_ok inserted
      refine ⟨.hold _, hold _ rfl rfl (not_lt.1 enough), ?_, rfl, rows ▸ transactions⟩
      intro other
      rw [insertTransaction_balances inserted, balances]
      rfl
    · intro _ _
      refine transacts_bind (transacts_rollback ?_)
      refine transacts_bind (transacts_query fun _ => ?_)
      refine transacts_bind (transacts_scalarOne fun _ _ => ?_)
      exact transacts_pure (ledgers_rolledBack idle committed)

/-- A reservation beyond what is available is refused, with that amount. -/
theorem reserveCredits_refuses (userId : Uuid) (amount : Int)
    (referenceKind referenceId idempotencyKey : String) (newId : Uuid)
    (now : Timestamp) (inBlock : Bool) (db : Db)
    (short : balanceOf userId db + sumReserved userId db < amount) :
    ((reserveCredits userId amount referenceKind referenceId idempotencyKey newId
      now).atomically inBlock db).1 =
        .error (.app (.insufficientCredits
          (balanceOf userId db + sumReserved userId db) amount)) := by
  obtain ⟨wallet, db', run, found, balances, rows⟩ :=
    getOrCreateWallet_run userId now (Session.start inBlock db) rfl
  have balance : wallet.balance = balanceOf userId db := by
    simpa [balanceOf, found] using balances userId
  have reserved : sumReserved userId db' = sumReserved userId db := by
    simp [sumReserved, rows]
  simp [atomically, reserveCredits, run, balance, reserved, short]

theorem commitReservation_transacts (reservationId : Uuid) (now : Timestamp)
    {inBlock : Bool} {db : Db} {allowed : LedgerEffect → Prop}
    (idle : allowed .idle) (capture : ∀ tx, allowed (.capture tx)) :
    (commitReservation reservationId now).Transacts (Session.start inBlock db)
      fun _ s => Ledgers db s.working allowed := by
  unfold commitReservation
  refine transacts_bind (transacts_query fun _ => ?_)
  cases found : (Session.start inBlock db).working.transactions.lookup
      reservationId with
  | none => exact transacts_pure (ledgers_idle idle (SameBalances.refl _) rfl)
  | some tx =>
      simp only
      split
      · exact transacts_pure (ledgers_idle idle (SameBalances.refl _) rfl)
      · rename_i reserved
        refine transacts_bind (transacts_write fun _ db₁ marked => ?_)
        cases marked
        refine transacts_bind ((getOrCreateWallet_transacts _ _ _).mono ?_)
        rintro wallet s ⟨-, wallet_found, balances, rows⟩
        refine transacts_write fun _ db₂ updated => ?_
        obtain ⟨moved, kept⟩ := setWallet_balances wallet_found updated
        have key := Table.key_of_lookup found
        refine ⟨.capture tx, capture tx, fun userId => ?_, by simpa using reserved,
          by rw [key]; exact found, some now, by rw [kept, rows]; rfl⟩
        rw [moved userId, balances userId]
        rfl

theorem releaseReservation_transacts (reservationId : Uuid) (reason : String)
    (newId : Uuid) (now : Timestamp) {inBlock : Bool} {db : Db}
    {allowed : LedgerEffect → Prop} (idle : allowed .idle)
    (void : ∀ tx compensation, allowed (.void tx compensation)) :
    (releaseReservation reservationId reason newId now).Transacts
      (Session.start inBlock db) fun _ s => Ledgers db s.working allowed := by
  unfold releaseReservation
  refine transacts_bind (transacts_query fun _ => ?_)
  cases found : (Session.start inBlock db).working.transactions.lookup
      reservationId with
  | none => exact transacts_pure (ledgers_idle idle (SameBalances.refl _) rfl)
  | some tx =>
      simp only
      split
      · exact transacts_pure (ledgers_idle idle (SameBalances.refl _) rfl)
      · rename_i reserved
        refine transacts_bind (transacts_write fun _ db₁ marked => ?_)
        cases marked
        refine transacts_write fun _ db₂ compensated => ?_
        cases code : TxReason.ofText reason with
        | error e =>
            rw [code] at compensated
            cases compensated
        | ok code' =>
            rw [code] at compensated
            have key := Table.key_of_lookup found
            refine ⟨.void tx _, void tx _,
              fun userId => insertTransaction_balances compensated userId,
              by simpa using reserved, by rw [key]; exact found, ?_, ?_, ?_,
              tx.committedAt, (insertTransaction_eq_ok compensated).2⟩ <;> rfl

theorem creditPurchase_transacts (userId : Uuid) (amount : Int)
    (referenceKind referenceId idempotencyKey : String) (newId : Uuid)
    (now : Timestamp) {inBlock : Bool} {db : Db}
    {allowed : LedgerEffect → Prop} (idle : allowed .idle)
    (post : ∀ tx, tx.delta = amount → allowed (.post tx)) :
    (creditPurchase userId amount referenceKind referenceId idempotencyKey newId
      now).Transacts (Session.start inBlock db) fun _ s =>
        Ledgers db s.working allowed := by
  unfold creditPurchase
  refine transacts_bind ((getOrCreateWallet_transacts _ _ _).mono ?_)
  rintro wallet s ⟨frame, found, balances, rows⟩
  have committed : s.committed = db := by rw [frame]; rfl
  refine transacts_bind (transacts_tryWrite ?_ ?_)
  · intro _ db₁ inserted
    refine transacts_bind (transacts_write fun _ db₂ updated => ?_)
    exact transacts_pure ⟨.post _, post _ rfl,
      post_of_insert_of_setWallet rfl balances rows found inserted updated⟩
  · intro _ _
    refine transacts_bind (transacts_rollback ?_)
    refine transacts_bind (transacts_query fun _ => ?_)
    exact transacts_scalarOne fun _ _ => ledgers_rolledBack idle committed

theorem grantSubscriptionCredits_transacts (userId : Uuid) (amount : Int)
    (subscriptionId : Uuid) (periodStart : Timestamp) (newId : Uuid)
    (now : Timestamp) {inBlock : Bool} {db : Db}
    {allowed : LedgerEffect → Prop} (idle : allowed .idle)
    (post : ∀ tx, tx.delta = amount → allowed (.post tx)) :
    (grantSubscriptionCredits userId amount subscriptionId periodStart newId
      now).Transacts (Session.start inBlock db) fun _ s =>
        Ledgers db s.working allowed := by
  unfold grantSubscriptionCredits
  refine transacts_bind ((getOrCreateWallet_transacts _ _ _).mono ?_)
  rintro wallet s ⟨frame, found, balances, rows⟩
  have committed : s.committed = db := by rw [frame]; rfl
  refine transacts_bind (transacts_tryWrite ?_ ?_)
  · intro _ db₁ inserted
    refine transacts_bind (transacts_write fun _ db₂ updated => ?_)
    exact transacts_pure ⟨.post _, post _ rfl,
      post_of_insert_of_setWallet rfl balances rows found inserted updated⟩
  · intro _ _
    refine transacts_bind (transacts_rollback ?_)
    exact transacts_pure (ledgers_rolledBack idle committed)

theorem adminAdjustCredits_transacts (userId : Uuid) (delta : Int)
    (reason adminActionId : String) (newId : Uuid) (now : Timestamp)
    {inBlock : Bool} {db : Db} {allowed : LedgerEffect → Prop}
    (post : ∀ tx, tx.userId = userId → tx.delta = delta →
      tx.reason = .adminGrant → allowed (.post tx)) :
    (adminAdjustCredits userId delta reason adminActionId newId now).Transacts
      (Session.start inBlock db) fun _ s => Ledgers db s.working allowed := by
  unfold adminAdjustCredits
  refine transacts_bind ((getOrCreateWallet_transacts _ _ _).mono ?_)
  rintro wallet s ⟨-, found, balances, rows⟩
  refine transacts_bind (transacts_write fun _ db₁ inserted => ?_)
  refine transacts_bind (transacts_write fun _ db₂ updated => ?_)
  exact transacts_pure ⟨.post _, post _ rfl rfl rfl,
    post_of_insert_of_setWallet rfl balances rows found inserted updated⟩

/-! ## Runs of the six operations -/

inductive CreditOp where
  | reserve (userId : Uuid) (amount : Int)
      (referenceKind referenceId idempotencyKey : String)
  | commit (reservationId : Uuid)
  | release (reservationId : Uuid) (reason : String)
  | purchase (userId : Uuid) (amount : Int)
      (referenceKind referenceId idempotencyKey : String)
  | grant (userId : Uuid) (amount : Int) (subscriptionId : Uuid)
      (periodStart : Timestamp)
  | adjust (userId : Uuid) (delta : Int) (reason adminActionId : String)

/-- One request: its operation, the session it got, the id it drew, the time. -/
structure CreditCall where
  op : CreditOp
  inBlock : Bool
  newId : Uuid
  now : Timestamp

def CreditCall.program (call : CreditCall) : BillingM Unit :=
  match call.op with
  | .reserve userId amount referenceKind referenceId idempotencyKey => do
      let _ ← reserveCredits userId amount referenceKind referenceId
        idempotencyKey call.newId call.now
  | .commit reservationId => commitReservation reservationId call.now
  | .release reservationId reason =>
      releaseReservation reservationId reason call.newId call.now
  | .purchase userId amount referenceKind referenceId idempotencyKey => do
      let _ ← creditPurchase userId amount referenceKind referenceId
        idempotencyKey call.newId call.now
  | .grant userId amount subscriptionId periodStart => do
      let _ ← grantSubscriptionCredits userId amount subscriptionId periodStart
        call.newId call.now
  | .adjust userId delta reason adminActionId => do
      let _ ← adminAdjustCredits userId delta reason adminActionId call.newId
        call.now

/-- A call that raises is rolled back as a whole. -/
def creditStep (db : Db) (call : CreditCall) : Db :=
  (call.program.atomically call.inBlock db).2

/-- What a call of the operation may do to the ledger. -/
def CreditOp.Allows (db : Db) : CreditOp → LedgerEffect → Prop
  | _, .idle => True
  | .reserve userId amount _ _ _, .hold tx =>
      tx.userId = userId ∧ tx.delta = -amount ∧
        amount ≤ (account userId db).available
  | .commit _, .capture _ => True
  | .release _ _, .void _ _ => True
  | .purchase _ amount _ _ _, .post tx => tx.delta = amount
  | .grant _ amount _ _, .post tx => tx.delta = amount
  | .adjust userId delta _ _, .post tx =>
      tx.userId = userId ∧ tx.delta = delta ∧ tx.reason = .adminGrant
  | _, _ => False

theorem creditStep_ledgers (db : Db) (call : CreditCall) :
    Ledgers db (creditStep db call) (call.op.Allows db) := by
  have unchanged : Ledgers db db (call.op.Allows db) :=
    ledgers_idle (by unfold CreditOp.Allows; split <;> simp_all)
      (SameBalances.refl db) rfl
  obtain ⟨op, inBlock, newId, now⟩ := call
  refine @atomically_preserves _ _ _ _ inBlock db
    (fun db' => Ledgers db db' (op.Allows db)) unchanged ?_
  cases op with
  | reserve userId amount referenceKind referenceId idempotencyKey =>
      exact transacts_bind ((reserveCredits_transacts _ _ _ _ _ _ _ trivial
        fun _ owner delta enough => ⟨owner, delta, enough⟩).mono
          fun _ _ h => transacts_pure h)
  | commit reservationId =>
      exact commitReservation_transacts _ _ trivial fun _ => trivial
  | release reservationId reason =>
      exact releaseReservation_transacts _ _ _ _ trivial fun _ _ => trivial
  | purchase userId amount referenceKind referenceId idempotencyKey =>
      exact transacts_bind ((creditPurchase_transacts _ _ _ _ _ _ _ trivial
        fun _ delta => delta).mono fun _ _ h => transacts_pure h)
  | grant userId amount subscriptionId periodStart =>
      exact transacts_bind ((grantSubscriptionCredits_transacts _ _ _ _ _ _
        trivial fun _ delta => delta).mono fun _ _ h => transacts_pure h)
  | adjust userId delta reason adminActionId =>
      exact transacts_bind ((adminAdjustCredits_transacts _ _ _ _ _ _
        fun _ owner delta reason => ⟨owner, delta, reason⟩).mono
          fun _ _ h => transacts_pure h)

/-- Every account of the database keeps its balance equal to its entries. -/
def LedgerConsistent (db : Db) : Prop :=
  ∀ userId, (account userId db).Consistent

theorem creditStep_consistent (db : Db) (call : CreditCall)
    (consistent : LedgerConsistent db) :
    LedgerConsistent (creditStep db call) := by
  obtain ⟨effect, -, step⟩ := creditStep_ledgers db call
  intro userId
  rw [step.account_eq userId]
  cases effect <;> simp only [LedgerEffect.accountAfter] <;>
    (try split) <;>
    first
      | exact consistent userId
      | exact Account.consistent_apply (consistent userId) _

theorem ledgerConsistent_empty : LedgerConsistent Db.empty := fun userId => by
  simp [Account.Consistent, account, balanceOf, settledSum, Db.empty]

/--
After any calls, a wallet's balance is the sum of the user's rows that are not
reserved.  What `reserveCredits` treats as available, and reports when it
refuses, is the sum of all of the user's rows.
-/
theorem credit_ledger_consistent (calls : List CreditCall) (userId : Uuid) :
    let db := runFrom creditStep Db.empty calls
    balanceOf userId db = settledSum userId db ∧
      balanceOf userId db + sumReserved userId db = totalSum userId db ∧
      ∀ amount referenceKind referenceId idempotencyKey newId now inBlock,
        totalSum userId db < amount →
          ((reserveCredits userId amount referenceKind referenceId idempotencyKey
            newId now).atomically inBlock db).1 =
              .error (.app (.insufficientCredits (totalSum userId db) amount)) := by
  intro db
  have consistent : LedgerConsistent db :=
    runFrom_invariant creditStep_consistent ledgerConsistent_empty calls
  have available :
      balanceOf userId db + sumReserved userId db = totalSum userId db := by
    rw [← settledSum_add_sumReserved]
    exact (consistent userId).available_eq
  refine ⟨consistent userId, available, ?_⟩
  intro amount referenceKind referenceId idempotencyKey newId now inBlock short
  rw [← available] at short ⊢
  exact reserveCredits_refuses _ _ _ _ _ _ _ _ _ short

end ColabPlatform.Billing
