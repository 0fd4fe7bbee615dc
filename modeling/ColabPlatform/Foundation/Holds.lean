import Mathlib.Algebra.Order.Group.Defs
import Mathlib.Algebra.Order.Group.Basic
import Mathlib.Tactic.Abel

/-!
# Accounts with holds

An account keeps a balance beside a ledger of entries.  An entry is settled or
held: a hold is an amount set aside, which is later captured (settled, and the
balance moves with it) or voided (settled together with its compensation, and
the balance stays).  The balance is a copy of the sum of the settled entries;
what may still be spent is the balance together with the held entries.

The amounts are signed: a hold of credits for later spending is negative.
-/

namespace ColabPlatform.Foundation

variable {M : Type*}

@[ext] structure Account (M : Type*) where
  balance : M
  settled : M
  held : M

inductive Move (M : Type*) where
  | post (amount : M)
  | hold (amount : M)
  | capture (amount : M)
  | void (amount : M)

namespace Account

section Consistency

variable [AddCommGroup M]

def available (a : Account M) : M := a.balance + a.held

def apply (a : Account M) : Move M → Account M
  | .post amount => ⟨a.balance + amount, a.settled + amount, a.held⟩
  | .hold amount => ⟨a.balance, a.settled, a.held + amount⟩
  | .capture amount =>
      ⟨a.balance + amount, a.settled + amount, a.held - amount⟩
  | .void amount =>
      ⟨a.balance, a.settled + (amount + -amount), a.held - amount⟩

/-- The balance is the sum of the settled entries. -/
def Consistent (a : Account M) : Prop := a.balance = a.settled

theorem consistent_apply {a : Account M} (h : a.Consistent) (move : Move M) :
    (a.apply move).Consistent := by
  unfold Consistent at h ⊢
  cases move <;> simp [apply, h]

/-- What may be spent is then the sum of all entries. -/
theorem Consistent.available_eq {a : Account M} (h : a.Consistent) :
    a.available = a.settled + a.held := by
  rw [available, h]

@[simp] theorem available_post (a : Account M) (amount : M) :
    (a.apply (.post amount)).available = a.available + amount := by
  simp only [available, apply]
  abel

@[simp] theorem available_hold (a : Account M) (amount : M) :
    (a.apply (.hold amount)).available = a.available + amount := by
  simp only [available, apply]
  abel

/-- Capturing a hold spends what was set aside and nothing else. -/
@[simp] theorem available_capture (a : Account M) (amount : M) :
    (a.apply (.capture amount)).available = a.available := by
  simp only [available, apply]
  abel

@[simp] theorem available_void (a : Account M) (amount : M) :
    (a.apply (.void amount)).available = a.available - amount := by
  simp only [available, apply]
  abel

end Consistency

/-! ## Solvency -/

section Solvency

variable [AddCommGroup M] [LinearOrder M] [IsOrderedAddMonoid M]

/-- Holds only set aside, and what may be spent never falls below `floor`. -/
structure SolventAbove (floor : M) (a : Account M) : Prop where
  held_nonpos : a.held ≤ 0
  floor_le : floor ≤ a.available

/--
The moves a careful ledger makes: what it posts or holds is covered, and what
it captures or voids is one of its own holds.
-/
def Careful (floor : M) (a : Account M) : Move M → Prop
  | .post amount => floor ≤ a.available + amount
  | .hold amount => amount ≤ 0 ∧ floor ≤ a.available + amount
  | .capture amount => a.held ≤ amount
  | .void amount => a.held ≤ amount ∧ amount ≤ 0

theorem SolventAbove.floor_le_balance {floor : M} {a : Account M}
    (h : a.SolventAbove floor) : floor ≤ a.balance :=
  h.floor_le.trans (add_le_of_nonpos_right h.held_nonpos)

omit [IsOrderedAddMonoid M] in
theorem SolventAbove.mono {floor floor' : M} {a : Account M}
    (h : a.SolventAbove floor) (lower : floor' ≤ floor) :
    a.SolventAbove floor' :=
  ⟨h.held_nonpos, lower.trans h.floor_le⟩

theorem SolventAbove.apply {floor : M} {a : Account M}
    (h : a.SolventAbove floor) (move : Move M) (careful : a.Careful floor move) :
    (a.apply move).SolventAbove floor := by
  cases move with
  | post amount =>
      exact ⟨h.held_nonpos, (available_post a amount).symm ▸ careful⟩
  | hold amount =>
      exact ⟨add_nonpos h.held_nonpos careful.1,
        (available_hold a amount).symm ▸ careful.2⟩
  | capture amount =>
      exact ⟨sub_nonpos.2 careful,
        (available_capture a amount).symm ▸ h.floor_le⟩
  | void amount =>
      refine ⟨sub_nonpos.2 careful.1, ?_⟩
      rw [available_void]
      exact h.floor_le.trans (le_sub_self_iff _ |>.2 careful.2)

end Solvency

end Account

end ColabPlatform.Foundation
