import ColabPlatform.Invites.QuotaOrder

/-!
# The quota over seven days

Whatever a window of seven days holds was counted by the last send in it that was
allowed, since the entries that a script drops, or that expire with their key, are too
old for it and for all that come later.
-/

namespace ColabPlatform.Invites

open Foundation Common
open Billing (Uuid)

/-- The answers to the scripts of one user, with their times in milliseconds. -/
def quotaAnswers (limit : Int) (userId : Uuid) : World → List Send → List Admission
  | _, [] => []
  | w, send :: rest =>
      let w := w.wait send.wait
      let answered := w.quotaScript userId limit send.inviteId
      ⟨milliseconds w.now, answered.1.1, answered.1.2⟩ ::
        quotaAnswers limit userId answered.2 rest

/-- The window stores as many entries as it has to count at this time and later. -/
structure Tracks (userId : Uuid) (log : List Admission) (entries : List QuotaEntry) (w : World) :
    Prop where
  stores : Stores userId entries w
  past : ∀ old ∈ log, old.time ≤ milliseconds w.now
  counted : ∀ now, w.now ≤ now →
    (entries.filter (counts now)).length = admittedIn windowMs (milliseconds now) log

section Tracks

variable {userId : Uuid} {log : List Admission} {entries : List QuotaEntry} {w : World}

theorem Tracks.wait (tracks : Tracks userId log entries w) (time : Nat) :
    Tracks userId log entries (w.wait time) := by
  have later : w.now ≤ (w.wait time).now := Int.le_add_of_nonneg_right (Int.natCast_nonneg time)
  refine ⟨tracks.stores.later rfl later, fun old mem => ?_, fun now le => ?_⟩
  · exact (tracks.past old mem).trans (milliseconds_mono later)
  · exact tracks.counted now (later.trans le)

/-- The script answers by the number of the entries that still count. -/
theorem quotaScript_answer (stores : Stores userId entries w) (limit : Int) {inviteId : Uuid}
    (fresh : ∀ entry ∈ entries, entry.member ≠ inviteId) :
    (w.quotaScript userId limit inviteId).1 =
      if limit ≤ (entries.filter (counts w.now)).length
      then (false, (entries.filter (counts w.now)).length)
      else (true, (entries.filter (counts w.now)).length + 1) := by
  have others : ∀ entry ∈ entries.filter (counts w.now),
      decide (entry.member ≠ inviteId) = true :=
    fun entry mem => decide_eq_true (fresh entry (List.mem_of_mem_filter mem))
  unfold World.quotaScript
  dsimp only
  rw [counted_eq stores]
  split
  · rfl
  · rw [List.filter_eq_self.2 others, List.length_append, List.length_singleton]

/-- What has stopped to count stays so. -/
theorem filter_counts_later {now later : Int} (le : now ≤ later) (entries : List QuotaEntry) :
    (entries.filter (counts now)).filter (counts later) = entries.filter (counts later) := by
  rw [List.filter_filter]
  refine List.filter_congr fun entry _ => Bool.and_eq_left_iff_imp.2 fun counted => ?_
  have mono := milliseconds_mono le
  simp only [counts, decide_eq_true_eq] at counted ⊢
  omega

/-- An entry that is pushed counts for as long as the attempt that it is of. -/
theorem Tracks.counted_push (tracks : Tracks userId log entries w) (inviteId : Uuid) (count : Nat)
    {now : Int} (le : w.now ≤ now) :
    ((entries.filter (counts w.now) ++
        [(⟨inviteId, milliseconds w.now⟩ : QuotaEntry)]).filter (counts now)).length =
      admittedIn windowMs (milliseconds now) (log ++ [⟨milliseconds w.now, true, count⟩]) := by
  have mono := milliseconds_mono le
  rw [List.filter_append, List.length_append, filter_counts_later le, tracks.counted now le,
    admittedIn_snoc]
  by_cases inside : milliseconds now - windowMs < milliseconds w.now
  · have counted : counts now ⟨inviteId, milliseconds w.now⟩ = true := decide_eq_true inside
    rw [List.filter_cons_of_pos counted, if_pos ⟨rfl, inside, mono⟩]
    rfl
  · rw [List.filter_cons_of_neg (by simpa [counts] using inside),
      if_neg fun counted => inside counted.2.1]
    rfl

/-- One script, of an id that the window does not hold. -/
theorem Tracks.script (tracks : Tracks userId log entries w) (limit : Int) {inviteId : Uuid}
    (fresh : ∀ entry ∈ entries, entry.member ≠ inviteId) :
    ∃ allowed count entries', (w.quotaScript userId limit inviteId).1 = (allowed, count) ∧
      (allowed = true ↔ (admittedIn windowMs (milliseconds w.now) log : Int) < limit) ∧
      (allowed = true → count = admittedIn windowMs (milliseconds w.now) log + 1) ∧
      (∀ entry ∈ entries', entry ∈ entries ∨ entry.member = inviteId) ∧
      Tracks userId (log ++ [⟨milliseconds w.now, allowed, count⟩]) entries'
        (w.quotaScript userId limit inviteId).2 := by
  obtain ⟨count, windows, script, stores, -⟩ := quotaScript_eq tracks.stores limit fresh
  have answer := quotaScript_answer tracks.stores limit fresh
  have number := tracks.counted w.now (le_refl _)
  have next : (w.quotaScript userId limit inviteId).2 = { w with windows } := by rw [script]
  rw [next, answer, ← number]
  have past : ∀ {allowed : Bool} {count : Nat},
      ∀ old ∈ log ++ [⟨milliseconds w.now, allowed, count⟩], old.time ≤ milliseconds w.now := by
    intro allowed count old mem
    rcases List.mem_append.1 mem with before | last
    · exact tracks.past old before
    · rw [List.mem_singleton.1 last]
  unfold enter at stores
  dsimp only at stores
  by_cases full : limit ≤ (entries.filter (counts w.now)).length
  · rw [if_pos full] at stores ⊢
    refine ⟨_, _, _, rfl, by simpa using full, by simp,
      fun entry mem => .inl (List.mem_of_mem_filter mem), stores, past, fun now le => ?_⟩
    rw [filter_counts_later le, tracks.counted now le, admittedIn_snoc, if_neg (by simp),
      Nat.add_zero]
  · rw [if_neg full] at stores ⊢
    refine ⟨_, _, _, rfl, by simpa using full, fun _ => rfl, fun entry mem => ?_, stores, past,
      fun now le => ?_⟩
    · rcases List.mem_append.1 mem with old | last
      · exact .inl (List.mem_of_mem_filter old)
      · exact .inr (congrArg QuotaEntry.member (List.mem_singleton.1 last))
    · exact tracks.counted_push inviteId _ le

/-- The scripts of one user with distinct ids keep to the window. -/
theorem Tracks.windowed {limit : Int} {sends : List Send} (tracks : Tracks userId log entries w)
    (windowed : Windowed windowMs limit log) (distinct : (sends.map Send.inviteId).Nodup)
    (fresh : ∀ send ∈ sends, ∀ entry ∈ entries, entry.member ≠ send.inviteId) :
    Windowed windowMs limit (log ++ quotaAnswers limit userId w sends) := by
  induction sends generalizing log entries w with
  | nil => rwa [quotaAnswers, List.append_nil]
  | cons send rest ih =>
      rw [List.map_cons, List.nodup_cons] at distinct
      have waited := tracks.wait send.wait
      obtain ⟨allowed, count, entries', answer, room, told, members, tracks'⟩ :=
        waited.script limit (fresh send List.mem_cons_self)
      have windowed' : Windowed windowMs limit
          (log ++ [⟨milliseconds (w.wait send.wait).now, allowed, count⟩]) :=
        windowed.snoc (by decide) waited.past room told
      have fresh' : ∀ other ∈ rest, ∀ entry ∈ entries', entry.member ≠ other.inviteId := by
        intro other mem entry held
        rcases members entry held with old | same
        · exact fresh other (List.mem_cons_of_mem _ mem) entry old
        · rw [same]
          exact fun repeated => distinct.1 (repeated ▸ List.mem_map_of_mem mem)
      have later := ih tracks' windowed' distinct.2 fresh'
      rw [List.append_assoc, List.singleton_append] at later
      rw [quotaAnswers, answer]
      exact later

end Tracks

/-- From a user without a window on, no seven days hold more allowed sends than the limit,
a send is refused only if they hold as many, and the number told is theirs. -/
theorem quota_windowed (limit : Int) (userId : Uuid) (w : World) (sends : List Send)
    (nonneg : 0 ≤ limit) (unused : w.windows.entries userId = none)
    (distinct : (sends.map Send.inviteId).Nodup) :
    Windowed windowMs limit (quotaAnswers limit userId w sends) := by
  have tracks : Tracks userId [] [] w :=
    ⟨.inl ⟨unused, rfl⟩, fun _ mem => absurd mem List.not_mem_nil, fun _ _ => rfl⟩
  exact tracks.windowed (.nil nonneg) distinct fun _ _ _ mem => absurd mem List.not_mem_nil

theorem quota_windowed_two_sends :
    Windowed windowMs 1 (quotaAnswers 1 ⟨"ana"⟩ .initial [⟨0, ⟨"a"⟩⟩, ⟨500, ⟨"b"⟩⟩]) :=
  quota_windowed 1 ⟨"ana"⟩ .initial [⟨0, ⟨"a"⟩⟩, ⟨500, ⟨"b"⟩⟩] (by decide) rfl (by decide)

/-- The send that leaves the window just makes room for the next one. -/
example : quotaAnswers 1 ⟨"ana"⟩ .initial
    [⟨0, ⟨"a"⟩⟩, ⟨604799999000, ⟨"b"⟩⟩, ⟨1000, ⟨"c"⟩⟩] =
      [⟨0, true, 1⟩, ⟨604799999, false, 1⟩, ⟨604800000, true, 1⟩] := by decide +kernel

end ColabPlatform.Invites
