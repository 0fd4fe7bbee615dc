import ColabPlatform.Invites.Quota

/-!
# The quota and the order of the limits

Billing orders the limits of an axis with -1 above all others; the quota script
compares them as numbers.  The sends of a user are attempts on a sliding window, so
a limit that is numerically greater refuses nothing that a smaller one allows, and
the limit -1 refuses everything.
-/

namespace ColabPlatform.Invites

open Foundation Common
open Billing (Uuid Timestamp AxisValue higherValue)

/-- The second limit is the better one, or the same. -/
def LimitLe (a b : Int) : Prop :=
  higherValue "invites_per_week" (.int b) (.int a) = .int b

instance (a b : Int) : Decidable (LimitLe a b) :=
  inferInstanceAs (Decidable (higherValue _ _ _ = _))

theorem LimitLe.cases {a b : Int} (le : LimitLe a b) : b = -1 ∨ a ≠ -1 ∧ a ≤ b := by
  by_cases unlimited : b = -1
  · exact Or.inl unlimited
  · right
    have int : Billing.axisType "invites_per_week" = .int := by decide
    simp only [LimitLe, higherValue, int, Billing.AxisValue.int.injEq, unlimited, if_false] at le
    by_cases first : a = -1
    · rw [if_pos first, Billing.AxisValue.int.injEq] at le
      exact absurd (le.symm.trans first) unlimited
    · refine ⟨first, ?_⟩
      rw [if_neg first] at le
      simp only [Billing.AxisValue.greater] at le
      split at le
      · exact absurd (Billing.AxisValue.int.inj le) (by omega)
      · omega

/-! ## Runs -/

/-- A send: the time since the one before it, and the id drawn for the invite. -/
structure Send where
  wait : Nat
  inviteId : Uuid
  deriving DecidableEq, Repr

namespace World

def wait (w : World) (time : Nat) : World := { w with now := w.now + time }

/-- Neither a window nor a limit is stored for the user. -/
def Unused (w : World) (userId : Uuid) : Prop :=
  w.windows.entries userId = none ∧ w.limits.get w.now userId = none

end World

/-- Whether each send of a user is allowed while billing-svc answers with this limit. -/
def sendsUnder (settings : InviteSettings) (limit : Int) (userId : Uuid) :
    World → List Send → List Bool
  | _, [] => []
  | w, send :: rest =>
      let ((allowed, _), w) :=
        checkAndIncrementQuota settings (.response 200 (some (.int limit))) userId
          send.inviteId (w.wait send.wait)
      allowed :: sendsUnder settings limit userId w rest

/-- What an order of the limits promises for the sends of one run. -/
structure QuotaMonotone (settings : InviteSettings) (userId : Uuid) (w : World) (a b : Int)
    (sends : List Send) : Prop where
  mono : ∀ i : Nat, (sendsUnder settings a userId w sends)[i]? = some true →
    (sendsUnder settings b userId w sends)[i]? = some true
  unlimited : b = -1 → ∀ allowed ∈ sendsUnder settings b userId w sends, allowed = true

/-! ## The sends are attempts on a window -/

/-- What a send attempts at its time. -/
def Send.attempt (now : Timestamp) (send : Send) : (QuotaEntry → Bool) × QuotaEntry :=
  (counts now, ⟨send.inviteId, milliseconds now⟩)

def attempts : Timestamp → List Send → List ((QuotaEntry → Bool) × QuotaEntry)
  | _, [] => []
  | now, send :: rest =>
      send.attempt (now + send.wait) :: attempts (now + send.wait) rest

/-- Every limit that is cached for the user is this one. -/
def CachesOnly (limit : Int) (userId : Uuid) (w : World) : Prop :=
  ∀ text, w.limits.get w.now userId = some text → text = toString limit

theorem CachesOnly.wait {limit : Int} {userId : Uuid} {w : World}
    (only : CachesOnly limit userId w) (time : Nat) :
    CachesOnly limit userId (w.wait time) := fun text found =>
  only text (KeyStore.get_of_le (Int.le_add_of_nonneg_right (Int.natCast_nonneg time)) found)

/-- The limit is the one that billing-svc answers with, whether it is cached or not. -/
theorem getInviteLimit_spec (settings : InviteSettings) {limit : Int} {userId : Uuid} {w : World}
    (only : CachesOnly limit userId w) :
    ∃ w', getInviteLimit settings (.response 200 (some (.int limit))) userId w = (limit, w') ∧
      CachesOnly limit userId w' ∧ w'.now = w.now ∧ w'.windows = w.windows := by
  unfold getInviteLimit
  cases cached : w.cachedLimit userId with
  | some value =>
      obtain ⟨text, found, read⟩ := Option.bind_eq_some_iff.1 cached
      rw [only text found, intOfText_toString, Option.some.injEq] at read
      exact ⟨w, by simp [read], only, rfl, rfl⟩
  | none =>
      refine ⟨w.cacheLimit userId limit, by simp [limitOfReply, intOfValue], ?_, rfl, rfl⟩
      intro text found
      exact KeyStore.get_put_self found

/-- The sends of a user are attempts on the window. -/
theorem sendsUnder_eq (settings : InviteSettings) (limit : Int) {userId : Uuid}
    (sends : List Send) {w : World} {entries : List QuotaEntry}
    (only : CachesOnly limit userId w) (stores : Stores userId entries w)
    (distinct : (sends.map Send.inviteId).Nodup)
    (fresh : ∀ send ∈ sends, ∀ entry ∈ entries, entry.member ≠ send.inviteId) :
    sendsUnder settings limit userId w sends =
      admissions limit entries (attempts w.now sends) := by
  induction sends generalizing w entries with
  | nil => rfl
  | cons send rest ih =>
      have drawn : (∀ other ∈ rest, other.inviteId ≠ send.inviteId) ∧
          (rest.map Send.inviteId).Nodup := by
        simpa [List.nodup_cons, eq_comm] using distinct
      obtain ⟨w₁, limited, only₁, now₁, windows₁⟩ :=
        getInviteLimit_spec settings (only.wait send.wait)
      have now : w₁.now = w.now + send.wait := now₁
      have stores₁ : Stores userId entries w₁ := stores.later (by rw [windows₁]; rfl) (by
        rw [now]
        exact Int.le_add_of_nonneg_right (Int.natCast_nonneg _))
      obtain ⟨count, windows₂, script, stores₂, -⟩ :=
        quotaScript_eq stores₁ limit (fresh send List.mem_cons_self)
      have fresh₂ : ∀ other ∈ rest, ∀ entry ∈ (enter limit entries (send.attempt w₁.now).1
          (send.attempt w₁.now).2).2, entry.member ≠ other.inviteId := by
        intro other mem entry held
        rcases mem_of_mem_enter held with old | rfl
        · exact fresh other (List.mem_cons_of_mem _ mem) entry old
        · exact (drawn.1 other mem).symm
      rw [sendsUnder, checkAndIncrementQuota, limited]
      dsimp only
      rw [script]
      dsimp only
      have later := ih (w := { w₁ with windows := windows₂ }) only₁ stores₂ drawn.2 fresh₂
      rw [later, attempts, admissions_cons]
      simp only [Send.attempt, now]

/-! ## The order of the limits -/

/-- A better limit allows what another one does, unless it is the unlimited one. -/
theorem quotaMonotone_iff (settings : InviteSettings) {userId : Uuid} {w : World} {a b : Int}
    {sends : List Send} (le : LimitLe a b) (unused : w.Unused userId)
    (distinct : (sends.map Send.inviteId).Nodup) :
    QuotaMonotone settings userId w a b sends ↔ b ≠ -1 ∨ sends = [] := by
  have runs : ∀ limit, sendsUnder settings limit userId w sends =
      admissions limit [] (attempts w.now sends) := fun limit =>
    sendsUnder_eq settings limit sends (fun text found => by simp [unused.2] at found)
      (Or.inl ⟨unused.1, rfl⟩) distinct (fun _ _ entry mem => by simp at mem)
  constructor
  · intro monotone
    by_cases unlimited : b = -1
    · right
      subst unlimited
      have granted := monotone.unlimited rfl
      cases sends with
      | nil => rfl
      | cons send rest =>
          have refused : ∀ allowed ∈ admissions (-1) [] (attempts w.now (send :: rest)),
              allowed = false := admissions_of_nonpos (by decide) _
          rw [runs] at granted
          rw [attempts, admissions_cons] at granted refused
          have first := granted _ List.mem_cons_self
          rw [refused _ List.mem_cons_self] at first
          cases first
    · exact Or.inl unlimited
  · rintro (limited | rfl)
    · rcases le.cases with unlimited | ⟨-, less⟩
      · exact absurd unlimited limited
      · refine ⟨fun i allowed => ?_, fun unlimited => absurd unlimited limited⟩
        rw [runs] at allowed ⊢
        exact admissions_mono _ (Within.refl (by omega) []) allowed
    · exact ⟨fun i allowed => by simp [sendsUnder] at allowed,
        fun _ allowed mem => by simp [sendsUnder] at mem⟩

/-- Two sends a day apart, of which the free limit allows at least what the limit 1 does. -/
theorem quotaMonotone_one_five :
    QuotaMonotone {} ⟨"anna"⟩ World.initial 1 5 [⟨0, ⟨"first"⟩⟩, ⟨86400000000, ⟨"second"⟩⟩] :=
  (quotaMonotone_iff {} (by decide) ⟨rfl, rfl⟩ (by decide)).2 (Or.inl (by decide))

/-- The unlimited sender is refused at the first send, which the free limit allows. -/
theorem unlimited_refused :
    LimitLe 5 (-1) ∧ ¬ QuotaMonotone {} ⟨"anna"⟩ World.initial 5 (-1) [⟨0, ⟨"first"⟩⟩] := by
  refine ⟨by decide, fun monotone => ?_⟩
  have allowed := monotone.mono 0 rfl
  exact absurd allowed (by decide)

end ColabPlatform.Invites
