import ColabPlatform.Billing.CreditLedger
import Mathlib.Tactic.Linarith

/-!
# Overdrafts of the credit wallet

Reservations are checked against what is available, so holds are always
covered.  An administrator's adjustment is a signed amount with no check at all:
it is the one operation that can leave a wallet below zero, and no wallet falls
further than the downward adjustments made on it.
-/

namespace ColabPlatform.Billing

open Foundation

/-- The amounts the request schemas admit. -/
def CreditOp.Admissible : CreditOp → Prop
  | .reserve _ amount _ _ _ => 0 < amount
  | .purchase _ amount _ _ _ => 0 ≤ amount
  | .grant _ amount _ _ => 0 ≤ amount
  | .commit _ => True
  | .release _ _ => True
  | .adjust _ _ _ _ => True

instance : DecidablePred CreditOp.Admissible
  | .reserve _ amount _ _ _ => inferInstanceAs (Decidable (0 < amount))
  | .purchase _ amount _ _ _ => inferInstanceAs (Decidable (0 ≤ amount))
  | .grant _ amount _ _ => inferInstanceAs (Decidable (0 ≤ amount))
  | .commit _ => inferInstanceAs (Decidable True)
  | .release _ _ => inferInstanceAs (Decidable True)
  | .adjust _ _ _ _ => inferInstanceAs (Decidable True)

/-- Where a call adjusts a wallet, what is available covers the adjustment. -/
def AdjustmentCovered (db : Db) (call : CreditCall) : Prop :=
  match call.op with
  | .adjust userId delta _ _ => 0 ≤ (account userId db).available + delta
  | _ => True

instance (db : Db) (call : CreditCall) : Decidable (AdjustmentCovered db call) :=
  match h : call.op with
  | .adjust userId delta _ _ =>
      decidable_of_iff (0 ≤ (account userId db).available + delta)
        (by simp [AdjustmentCovered, h])
  | .reserve .. | .commit .. | .release .. | .purchase .. | .grant .. =>
      .isTrue (by simp [AdjustmentCovered, h])

/-- The part of a row that an administrator took away from a user. -/
def adminTaken (userId : Uuid) (tx : CreditTransaction) : Int :=
  if tx.userId = userId ∧ tx.reason = .adminGrant then min tx.delta 0 else 0

/-- The sum of the downward adjustments of a user's wallet. -/
def adminDebt (userId : Uuid) (db : Db) : Int :=
  db.transactions.sumBy (adminTaken userId)

def HoldsNonpos (db : Db) : Prop :=
  ∀ tx ∈ db.transactions.rows, tx.status = .reserved → tx.delta ≤ 0

/-! ## One step -/

theorem adminTaken_nonpos (userId : Uuid) (tx : CreditTransaction) :
    adminTaken userId tx ≤ 0 := by
  unfold adminTaken
  split <;> omega

theorem adminTaken_le {userId : Uuid} {tx : CreditTransaction} {delta : Int}
    (owner : tx.userId = userId) (reason : tx.reason = .adminGrant)
    (amount : tx.delta = delta) : adminTaken userId tx ≤ delta := by
  simp [adminTaken, owner, reason, amount]

/-- What is held in all is at most what any one reservation holds. -/
theorem sumReserved_le {db : Db} (nonpos : HoldsNonpos db)
    {tx : CreditTransaction} (mem : tx ∈ db.transactions.rows)
    (reserved : tx.status = .reserved) : sumReserved tx.userId db ≤ tx.delta := by
  refine (Table.sumBy_le_of_mem (fun row hrow => ?_) mem).trans_eq ?_
  · split
    · rename_i held
      exact nonpos row hrow held.2
    · exact le_rfl
  · simp [reserved]

/-- What an effect posts or holds for the user stays above `floor`. -/
def LedgerEffect.Covered (userId : Uuid) (floor available : Int) :
    LedgerEffect → Prop
  | .post tx => tx.userId = userId → floor ≤ available + tx.delta
  | .hold tx => tx.userId = userId → floor ≤ available + tx.delta
  | _ => True

/-- An effect places no hold that adds credits. -/
def LedgerEffect.HoldNonpos : LedgerEffect → Prop
  | .hold tx => tx.delta ≤ 0
  | _ => True

theorem mem_setTransactionStatus {id : Uuid} {status : TxStatus}
    {committedAt : Option Timestamp} {db : Db} {row : CreditTransaction}
    (h : row ∈ (db.setTransactionStatus id status committedAt).transactions.rows) :
    row.status = status ∨ row ∈ db.transactions.rows := by
  obtain ⟨old, hold, rfl⟩ := List.mem_map.1 h
  split
  · exact Or.inl rfl
  · exact Or.inr hold

theorem LedgerStep.holdsNonpos {db db' : Db} {effect : LedgerEffect}
    (step : LedgerStep db db' effect) (hold : effect.HoldNonpos)
    (nonpos : HoldsNonpos db) : HoldsNonpos db' := by
  intro row hrow reserved
  cases effect with
  | idle => exact nonpos row (step.2 ▸ hrow) reserved
  | post tx =>
      obtain ⟨-, committed, rows⟩ := step
      rw [(Table.insert?_eq_some rows).2] at hrow
      rcases List.mem_cons.1 hrow with rfl | old
      · simp [committed] at reserved
      · exact nonpos row old reserved
  | hold tx =>
      obtain ⟨-, -, rows⟩ := step
      rw [(Table.insert?_eq_some rows).2] at hrow
      rcases List.mem_cons.1 hrow with rfl | old
      · exact hold
      · exact nonpos row old reserved
  | capture tx =>
      obtain ⟨-, -, -, now, rows⟩ := step
      rw [rows] at hrow
      rcases mem_setTransactionStatus hrow with changed | old
      · simp [changed] at reserved
      · exact nonpos row old reserved
  | void tx compensation =>
      obtain ⟨-, -, -, committed, -, -, now, rows⟩ := step
      rw [(Table.insert?_eq_some rows).2] at hrow
      rcases List.mem_cons.1 hrow with rfl | kept
      · simp [committed] at reserved
      · rcases mem_setTransactionStatus kept with changed | old
        · simp [changed] at reserved
        · exact nonpos row old reserved

/-- Covered effects keep an account above any floor that is not raised. -/
theorem LedgerStep.solventAbove {db db' : Db} {effect : LedgerEffect}
    (step : LedgerStep db db' effect) (hold : effect.HoldNonpos)
    (nonpos : HoldsNonpos db) {userId : Uuid} {floor floor' : Int}
    (solvent : (account userId db).SolventAbove floor) (lower : floor' ≤ floor)
    (covered : effect.Covered userId floor' (account userId db).available) :
    (account userId db').SolventAbove floor' := by
  have lowered := solvent.mono lower
  rw [step.account_eq userId]
  cases effect with
  | idle => exact lowered
  | post tx =>
      simp only [LedgerEffect.accountAfter]
      split
      · rename_i owner
        exact lowered.apply (.post tx.delta) (covered owner)
      · exact lowered
  | hold tx =>
      simp only [LedgerEffect.accountAfter]
      split
      · rename_i owner
        exact lowered.apply (.hold tx.delta) ⟨hold, covered owner⟩
      · exact lowered
  | capture tx =>
      obtain ⟨-, reserved, found, -⟩ := step
      have held := sumReserved_le nonpos (Table.mem_of_lookup found) reserved
      simp only [LedgerEffect.accountAfter]
      split
      · rename_i owner
        exact lowered.apply (.capture tx.delta) (owner ▸ held)
      · exact lowered
  | void tx compensation =>
      obtain ⟨-, reserved, found, -⟩ := step
      have mem := Table.mem_of_lookup found
      have held := sumReserved_le nonpos mem reserved
      simp only [LedgerEffect.accountAfter]
      split
      · rename_i owner
        exact lowered.apply (.void tx.delta)
          ⟨owner ▸ held, nonpos tx mem reserved⟩
      · exact lowered

/-- The debt grows by what the rows the effect inserts take away. -/
theorem LedgerStep.adminDebt_eq {db db' : Db} {effect : LedgerEffect}
    (step : LedgerStep db db' effect) (userId : Uuid) :
    adminDebt userId db' = adminDebt userId db + match effect with
      | .post tx => adminTaken userId tx
      | .hold tx => adminTaken userId tx
      | .void _ compensation => adminTaken userId compensation
      | _ => 0 := by
  cases effect with
  | idle => simp [adminDebt, step.2]
  | post tx =>
      simp [adminDebt, Table.sumBy_insert step.2.2, Int.add_comm]
  | hold tx =>
      simp [adminDebt, Table.sumBy_insert step.2.2, Int.add_comm]
  | capture tx =>
      obtain ⟨-, -, found, now, rows⟩ := step
      simp [adminDebt, rows, Db.setTransactionStatus, Table.sumBy_modify found,
        adminTaken]
  | void tx compensation =>
      obtain ⟨-, -, found, -, -, -, now, rows⟩ := step
      simp [adminDebt, Table.sumBy_insert rows, Db.setTransactionStatus,
        Table.sumBy_modify found, adminTaken, Int.add_comm]

theorem LedgerStep.adminDebt_le {db db' : Db} {effect : LedgerEffect}
    (step : LedgerStep db db' effect) (userId : Uuid) :
    adminDebt userId db' ≤ adminDebt userId db := by
  rw [step.adminDebt_eq userId]
  cases effect <;> simp [adminTaken_nonpos]

theorem adminDebt_nonpos (userId : Uuid) (db : Db) : adminDebt userId db ≤ 0 :=
  Table.sumBy_nonpos fun tx _ => adminTaken_nonpos userId tx

theorem CreditOp.holdNonpos {db : Db} {op : CreditOp} {effect : LedgerEffect}
    (admissible : op.Admissible) (allowed : op.Allows db effect) :
    effect.HoldNonpos := by
  cases effect with
  | hold tx =>
      cases op with
      | reserve userId amount referenceKind referenceId idempotencyKey =>
          obtain ⟨-, delta, -⟩ := allowed
          simp only [CreditOp.Admissible] at admissible
          simp only [LedgerEffect.HoldNonpos]
          omega
      | _ => exact allowed.elim
  | _ => trivial

/-- Only an adjustment can reach below what is available. -/
theorem CreditOp.covered {db : Db} {op : CreditOp} {effect : LedgerEffect}
    (admissible : op.Admissible) (allowed : op.Allows db effect)
    {userId : Uuid} {floor : Int} (nonpos : floor ≤ 0)
    (above : floor ≤ (account userId db).available)
    (adjust : ∀ tx, effect = .post tx → tx.reason = .adminGrant →
      tx.userId = userId → (∃ delta reason adminActionId,
        op = .adjust userId delta reason adminActionId ∧ tx.delta = delta) →
      floor ≤ (account userId db).available + tx.delta) :
    effect.Covered userId floor (account userId db).available := by
  cases effect with
  | post tx =>
      intro owner
      cases op with
      | adjust who delta reason adminActionId =>
          obtain ⟨who_eq, amount, granted⟩ := allowed
          obtain rfl : who = userId := who_eq ▸ owner
          exact adjust tx rfl granted owner ⟨_, _, _, rfl, amount⟩
      | purchase who amount referenceKind referenceId idempotencyKey =>
          simp only [CreditOp.Admissible] at admissible
          simp only [CreditOp.Allows] at allowed
          omega
      | grant who amount subscriptionId periodStart =>
          simp only [CreditOp.Admissible] at admissible
          simp only [CreditOp.Allows] at allowed
          omega
      | _ => exact allowed.elim
  | hold tx =>
      intro owner
      cases op with
      | reserve who amount referenceKind referenceId idempotencyKey =>
          obtain ⟨who_eq, delta, enough⟩ := allowed
          obtain rfl : who = userId := who_eq ▸ owner
          omega
      | _ => exact allowed.elim
  | _ => trivial

/-! ## Runs -/

/-- No account is lower than what administrators took from it. -/
structure DebtBound (db : Db) : Prop where
  holds : HoldsNonpos db
  solvent : ∀ userId, (account userId db).SolventAbove (adminDebt userId db)

/-- No account is overdrawn. -/
structure NoOverdraft (db : Db) : Prop where
  holds : HoldsNonpos db
  solvent : ∀ userId, (account userId db).SolventAbove 0

theorem account_empty (userId : Uuid) : account userId Db.empty = ⟨0, 0, 0⟩ := by
  simp [account, balanceOf, settledSum, sumReserved, Db.empty]

theorem noOverdraft_empty : NoOverdraft Db.empty where
  holds := fun tx h => by simp [Db.empty] at h
  solvent := fun userId => by
    rw [account_empty]
    exact ⟨le_rfl, by simp [Account.available]⟩

theorem NoOverdraft.debtBound {db : Db} (h : NoOverdraft db) : DebtBound db where
  holds := h.holds
  solvent := fun userId => (h.solvent userId).mono (adminDebt_nonpos userId db)

theorem creditStep_debtBound (db : Db) (call : CreditCall)
    (admissible : call.op.Admissible) (bound : DebtBound db) :
    DebtBound (creditStep db call) := by
  obtain ⟨effect, allowed, step⟩ := creditStep_ledgers db call
  have hold := CreditOp.holdNonpos admissible allowed
  refine ⟨step.holdsNonpos hold bound.holds, fun userId => ?_⟩
  have lower := step.adminDebt_le userId
  have above := (bound.solvent userId).floor_le
  refine step.solventAbove hold bound.holds (bound.solvent userId) lower ?_
  refine CreditOp.covered admissible allowed (adminDebt_nonpos _ _)
    (lower.trans above) ?_
  rintro tx rfl granted owner -
  have taken := adminTaken_le owner granted rfl
  have debt := step.adminDebt_eq userId
  simp only at debt
  omega

theorem creditStep_noOverdraft (db : Db) (call : CreditCall)
    (guard : call.op.Admissible ∧ AdjustmentCovered db call)
    (bound : NoOverdraft db) : NoOverdraft (creditStep db call) := by
  obtain ⟨effect, allowed, step⟩ := creditStep_ledgers db call
  have hold := CreditOp.holdNonpos guard.1 allowed
  refine ⟨step.holdsNonpos hold bound.holds, fun userId => ?_⟩
  refine step.solventAbove hold bound.holds (bound.solvent userId) le_rfl ?_
  refine CreditOp.covered guard.1 allowed le_rfl (bound.solvent userId).floor_le ?_
  rintro tx - - - ⟨delta, reason, adminActionId, op, rfl⟩
  simpa [AdjustmentCovered, op] using guard.2

/--
No wallet, and nothing available in one, falls below the downward adjustments
made on it; and while every adjustment is covered by what is available when it
is made, neither falls below zero.  Committing a reservation is one more call.
-/
theorem credit_overdraft_bound (calls : List CreditCall)
    (admissible : ∀ call ∈ calls, call.op.Admissible) (userId : Uuid) :
    let db := runFrom creditStep Db.empty calls
    (adminDebt userId db ≤ balanceOf userId db ∧
        adminDebt userId db ≤ balanceOf userId db + sumReserved userId db) ∧
      (Guarded creditStep AdjustmentCovered Db.empty calls →
        0 ≤ balanceOf userId db ∧
          0 ≤ balanceOf userId db + sumReserved userId db) := by
  intro db
  have bound : DebtBound db :=
    runFrom_invariant_of_guarded creditStep_debtBound noOverdraft_empty.debtBound
      (guarded_of_forall admissible Db.empty)
  refine ⟨⟨(bound.solvent userId).floor_le_balance,
    (bound.solvent userId).floor_le⟩, fun covered => ?_⟩
  have solvent : NoOverdraft db :=
    runFrom_invariant_of_guarded creditStep_noOverdraft noOverdraft_empty
      ((guarded_of_forall admissible Db.empty).and covered)
  exact ⟨(solvent.solvent userId).floor_le_balance,
    (solvent.solvent userId).floor_le⟩

/-- Ten credits bought and four set aside, six taken away, the four spent. -/
def coveredAdjustmentCalls : List CreditCall :=
  [⟨.purchase ⟨"ana"⟩ 10 "stripe_checkout" "cs_1" "purchase:cs_1", true, ⟨"t1"⟩, 1⟩,
    ⟨.reserve ⟨"ana"⟩ 4 "ai" "r1" "k1", true, ⟨"t2"⟩, 2⟩,
    ⟨.adjust ⟨"ana"⟩ (-6) "correction" "a1", true, ⟨"t3"⟩, 3⟩,
    ⟨.commit ⟨"t2"⟩, true, ⟨"t4"⟩, 4⟩]

theorem credit_overdraft_bound_covered :
    0 ≤ balanceOf ⟨"ana"⟩ (runFrom creditStep Db.empty coveredAdjustmentCalls) :=
  ((credit_overdraft_bound coveredAdjustmentCalls (by decide) ⟨"ana"⟩).2
    (by decide)).1

/-- An adjustment made while all credits are reserved, and then the commit. -/
def uncoveredAdjustmentCalls : List CreditCall :=
  [⟨.purchase ⟨"ana"⟩ 10 "stripe_checkout" "cs_1" "purchase:cs_1", true, ⟨"t1"⟩, 1⟩,
    ⟨.reserve ⟨"ana"⟩ 10 "ai" "r1" "k1", true, ⟨"t2"⟩, 2⟩,
    ⟨.adjust ⟨"ana"⟩ (-5) "correction" "a1", true, ⟨"t3"⟩, 3⟩,
    ⟨.commit ⟨"t2"⟩, true, ⟨"t4"⟩, 4⟩]

/-- The commit drives the balance below zero. -/
theorem credit_overdraft :
    (∀ call ∈ uncoveredAdjustmentCalls, call.op.Admissible) ∧
      balanceOf ⟨"ana"⟩ (runFrom creditStep Db.empty
        uncoveredAdjustmentCalls.dropLast) = 5 ∧
      balanceOf ⟨"ana"⟩ (runFrom creditStep Db.empty
        uncoveredAdjustmentCalls) = -5 := by
  decide

end ColabPlatform.Billing
