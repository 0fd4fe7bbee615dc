import ColabPlatform.Foundation.SlidingWindow
import ColabPlatform.Invites.Model
import ColabPlatform.Billing.Entitlements
import ColabPlatform.Common.Text

/-!
# The quota of invites

`quota.py`: the limit of a user, read through a cache, and the Lua script that
counts the sends of the last seven days and records one more.
-/

namespace ColabPlatform.Invites

open Foundation Common
open Billing (Uuid Timestamp AxisValue)

/-! ## The limit -/

def natOfDigits (chars : List Char) : Option Nat :=
  if chars ≠ [] ∧ chars.all Char.isDigit then some (Nat.ofDigitChars 10 chars 0) else none

/-- `int(text)`, of a text in ASCII digits without underscores -/
def intOfText (text : String) : Option Int :=
  match (strip text).toList with
  | '-' :: digits => (natOfDigits digits).map fun (n : Nat) => -(n : Int)
  | '+' :: digits => (natOfDigits digits).map fun (n : Nat) => (n : Int)
  | digits => (natOfDigits digits).map fun (n : Nat) => (n : Int)

/-- `int(value)` -/
def intOfValue : AxisValue → Option Int
  | .int value => some value
  | .bool value => some (if value then 1 else 0)
  | .text value => intOfText value

def premiumLimit : Int := 9999999

/-- The limit that a reply of billing-svc stands for, if it stands for one. -/
def limitOfReply : EntitlementReply → Option Int
  | .raised => none
  | .response status invitesPerWeek =>
      if status = 200 then
        match invitesPerWeek with
        | none => some premiumLimit
        | some value => intOfValue value
      else none

def second : Int := 1000000

/-- `_ENT_TTL_SECONDS` -/
def entitlementTtl : Int := 300 * second

namespace World

/-- The cached limit of a user, if there is one that can be read. -/
def cachedLimit (w : World) (userId : Uuid) : Option Int :=
  (w.limits.get w.now userId).bind intOfText

def cacheLimit (w : World) (userId : Uuid) (limit : Int) : World :=
  { w with limits := w.limits.setEx w.now entitlementTtl userId (toString limit) }

end World

/-- `_get_invite_limit` -/
def getInviteLimit (settings : InviteSettings) (reply : EntitlementReply) (userId : Uuid)
    (w : World) : Int × World :=
  match w.cachedLimit userId with
  | some limit => (limit, w)
  | none =>
      match limitOfReply reply with
      | some limit => (limit, w.cacheLimit userId limit)
      | none => (settings.freeInviteQuotaPerWeek, w)

/-! ## The window -/

/-- The time in milliseconds, `int(time.time() * 1000)` -/
def milliseconds (now : Timestamp) : Int := now / 1000

/-- `_WINDOW_MS` -/
def windowMs : Int := 604800000

/-- `ZREMRANGEBYSCORE key -inf cutoff` -/
def evict (nowMs : Int) (entries : List QuotaEntry) : List QuotaEntry :=
  entries.filter fun entry => nowMs - windowMs < entry.score

namespace World

/-- The entries of a user that a script at this time counts. -/
def counted (w : World) (userId : Uuid) : List QuotaEntry :=
  evict (milliseconds w.now) ((w.windows.get w.now userId).getD [])

/-- `_QUOTA_LUA` -/
def quotaScript (w : World) (userId : Uuid) (limit : Int) (inviteId : Uuid) :
    (Bool × Nat) × World :=
  let entries := w.counted userId
  if limit ≤ entries.length then
    ((false, entries.length), { w with windows := w.windows.replace userId entries })
  else
    -- `ZADD` moves a member that is there already
    let added := entries.filter (fun entry => entry.member ≠ inviteId) ++
      [⟨inviteId, milliseconds w.now⟩]
    ((true, added.length),
      { w with windows := w.windows.setEx w.now (604800 * second) userId added })

theorem quotaScript_world (w : World) (userId : Uuid) (limit : Int) (inviteId : Uuid) :
    ∃ windows, (w.quotaScript userId limit inviteId).2 = { w with windows } := by
  unfold quotaScript
  dsimp only
  split
  · exact ⟨_, rfl⟩
  · exact ⟨_, rfl⟩

end World

/-! ## What the window stores -/

/-- The entry is not too old to be counted. -/
def counts (now : Timestamp) (entry : QuotaEntry) : Bool :=
  milliseconds now - windowMs < entry.score

/--
The user's window holds these entries: it expires one window after the last of them,
so what expires with it would have been evicted.
-/
def Stores (userId : Uuid) (entries : List QuotaEntry) (w : World) : Prop :=
  (w.windows.entries userId = none ∧ entries = []) ∨
    ∃ last ≤ w.now, w.windows.entries userId = some ⟨entries, some (last + 604800 * second)⟩ ∧
      ∀ entry ∈ entries, entry.score ≤ milliseconds last

theorem milliseconds_window (now : Int) :
    milliseconds (now + 604800 * second) - windowMs = milliseconds now := by
  unfold milliseconds windowMs second
  omega

theorem milliseconds_mono {now later : Int} (le : now ≤ later) :
    milliseconds now ≤ milliseconds later := by
  unfold milliseconds
  omega

theorem Stores.later {userId : Uuid} {entries : List QuotaEntry} {w w' : World}
    (stores : Stores userId entries w)
    (same : w'.windows.entries userId = w.windows.entries userId) (le : w.now ≤ w'.now) :
    Stores userId entries w' := by
  rcases stores with ⟨absent, none⟩ | ⟨last, before, stored, timely⟩
  · exact Or.inl ⟨same.trans absent, none⟩
  · exact Or.inr ⟨last, before.trans le, same.trans stored, timely⟩

/-- The window counts what it stores, less what is too old. -/
theorem counted_eq {userId : Uuid} {entries : List QuotaEntry} {w : World}
    (stores : Stores userId entries w) :
    w.counted userId = entries.filter (counts w.now) := by
  unfold World.counted KeyStore.get
  rcases stores with ⟨absent, rfl⟩ | ⟨last, -, stored, timely⟩
  · rw [absent]
    rfl
  · rw [stored]
    by_cases alive : w.now < last + 604800 * second
    · simp only [KeyStore.Stamped.alive, Option.all_some, alive, decide_true, if_true,
        Option.getD_some]
      rfl
    · -- the whole key has expired, and so has each entry
      have old : ∀ entry ∈ entries, ¬ milliseconds w.now - windowMs < entry.score := by
        intro entry mem
        have score := timely entry mem
        have later := milliseconds_mono (Int.not_lt.1 alive)
        have window := milliseconds_window last
        omega
      have none : entries.filter (counts w.now) = [] :=
        List.filter_eq_nil_iff.2 fun entry mem => by simpa [counts] using old entry mem
      simp only [KeyStore.Stamped.alive, Option.all_some, alive, decide_false,
        Bool.false_eq_true, if_false, Option.getD_none]
      rw [none]
      rfl

/-- The script is one attempt on the window, of an id that the window does not hold. -/
theorem quotaScript_eq {userId : Uuid} {entries : List QuotaEntry} {w : World}
    (stores : Stores userId entries w) (limit : Int) {inviteId : Uuid}
    (fresh : ∀ entry ∈ entries, entry.member ≠ inviteId) :
    ∃ count windows, w.quotaScript userId limit inviteId =
        (((enter limit entries (counts w.now) ⟨inviteId, milliseconds w.now⟩).1, count),
          { w with windows }) ∧
      Stores userId (enter limit entries (counts w.now) ⟨inviteId, milliseconds w.now⟩).2
        { w with windows } ∧
      ∀ other, other ≠ userId → windows.entries other = w.windows.entries other := by
  have counted := counted_eq stores
  unfold World.quotaScript enter
  simp only [counted]
  split
  · refine ⟨_, _, rfl, ?_, fun other apart => ?_⟩
    · rcases stores with ⟨absent, rfl⟩ | ⟨last, before, stored, timely⟩
      · exact Or.inl ⟨by simp [KeyStore.replace, absent], rfl⟩
      · refine Or.inr ⟨last, before, by simp [KeyStore.replace, stored, KeyStore.put], ?_⟩
        exact fun entry mem => timely entry (List.mem_of_mem_filter mem)
    · unfold KeyStore.replace
      split
      · simp [KeyStore.put, apart]
      · rfl
  · have others : ∀ entry ∈ entries.filter (counts w.now),
        decide (entry.member ≠ inviteId) = true := fun entry mem => by
      simpa using fresh entry (List.mem_of_mem_filter mem)
    rw [List.filter_eq_self.2 others]
    refine ⟨_, _, rfl, Or.inr ⟨w.now, le_refl _, ?_, ?_⟩, fun other apart => ?_⟩
    · simp [KeyStore.entries_setEx]
    · intro entry mem
      rcases List.mem_append.1 mem with old | new
      · rcases stores with ⟨-, rfl⟩ | ⟨last, before, -, timely⟩
        · simp at old
        · exact (timely entry (List.mem_of_mem_filter old)).trans (milliseconds_mono before)
      · exact le_of_eq (congrArg QuotaEntry.score (List.mem_singleton.1 new))
    · simp [KeyStore.entries_setEx, apart]

/-! ## The whole check -/

def quotaRemaining (limit : Int) (count : Nat) : Int :=
  if limit < premiumLimit then max 0 (limit - count) else premiumLimit

/-- `check_and_increment_quota` -/
def checkAndIncrementQuota (settings : InviteSettings) (reply : EntitlementReply)
    (userId inviteId : Uuid) (w : World) : (Bool × Int) × World :=
  let (limit, w) := getInviteLimit settings reply userId w
  let ((allowed, count), w) := w.quotaScript userId limit inviteId
  ((allowed, if allowed then quotaRemaining limit count else 0), w)

/-! ## The cache keeps the limit -/

theorem dropWhile_of_forall {chars : List Char} {p : Char → Bool}
    (none : ∀ c ∈ chars, p c = false) : chars.dropWhile p = chars := by
  cases chars with
  | nil => rfl
  | cons c rest => rw [List.dropWhile_cons_of_neg (by simp [none c])]

theorem strip_of_forall {text : String} (none : ∀ c ∈ text.toList, isSpace c = false) :
    strip text = text := by
  unfold strip
  rw [dropWhile_of_forall none, dropWhile_of_forall fun c mem => none c (List.mem_reverse.1 mem),
    List.reverse_reverse, String.ofList_toList]

theorem natOfDigits_repr (n : Nat) : natOfDigits n.repr.toList = some n := by
  rw [Nat.toList_repr]
  have digits : ∀ c ∈ Nat.toDigits 10 n, c.isDigit = true := fun c mem =>
    Nat.isDigit_of_mem_toDigits (by decide) (by decide) mem
  rw [natOfDigits, if_pos ⟨Nat.toDigits_ne_nil, List.all_eq_true.2 digits⟩,
    Nat.ofDigitChars_toDigits (by decide) (by decide)]

theorem isSpace_of_isDigit {c : Char} (digit : c.isDigit = true) : isSpace c = false := by
  have bounds : 48 ≤ c.toNat ∧ c.toNat ≤ 57 := by
    simpa [Char.isDigit, UInt32.le_iff_toNat_le] using digit
  simp only [isSpace, List.mem_cons, List.not_mem_nil, or_false, decide_eq_false_iff_not]
  omega

/-- What is cached for a limit is read as the limit. -/
theorem intOfText_toString (limit : Int) : intOfText (toString limit) = some limit := by
  have digits : ∀ (n : Nat), ∀ c ∈ n.repr.toList, c.isDigit = true := fun n c mem => by
    rw [Nat.toList_repr] at mem
    exact Nat.isDigit_of_mem_toDigits (by decide) (by decide) mem
  rw [Int.toString_eq_repr, Int.repr_eq_if]
  split
  · rename_i nonneg
    have stripped : strip limit.toNat.repr = limit.toNat.repr :=
      strip_of_forall fun c mem => isSpace_of_isDigit (digits _ c mem)
    unfold intOfText
    rw [stripped]
    split
    · rename_i rest same
      have digit := digits limit.toNat '-' (same ▸ List.mem_cons_self)
      cases digit
    · rename_i rest same
      have digit := digits limit.toNat '+' (same ▸ List.mem_cons_self)
      cases digit
    · rw [natOfDigits_repr]
      simp [nonneg]
  · rename_i negative
    have chars : ("-" ++ (-limit).toNat.repr).toList = '-' :: (-limit).toNat.repr.toList := by
      rw [String.toList_append]
      rfl
    have stripped : strip ("-" ++ (-limit).toNat.repr) = "-" ++ (-limit).toNat.repr := by
      refine strip_of_forall fun c mem => ?_
      rw [chars] at mem
      rcases List.mem_cons.1 mem with rfl | mem
      · rfl
      · exact isSpace_of_isDigit (digits _ c mem)
    unfold intOfText
    rw [stripped, chars]
    have value : -((-limit).toNat : Int) = limit := by omega
    change (natOfDigits (-limit).toNat.repr.toList).map (fun (n : Nat) => -(n : Int)) = some limit
    rw [natOfDigits_repr, Option.map_some, value]

end ColabPlatform.Invites
