import ColabPlatform.Auth.Otp
import ColabPlatform.Foundation.Interleaving
import Mathlib.Order.Basic
import Mathlib.Algebra.Order.Group.Int

/-!
# Guessing a phone's one-time code

Nothing keeps the steps of two calls apart, the counter of wrong codes lives in
the record that exhaustion deletes, and no step writes the key by which the
cooldown is recognised.  Over the runs whose steps are all undisturbed the
bound on wrong codes and the cooldown hold; in other runs either can fail.
-/

namespace ColabPlatform.Auth.Otp

open Foundation

/-- A call that may go on to give or to take a code. -/
def Phase.granting : Phase → Bool
  | .lookUp | .generate | .compare _ _ _ _ | .matched => true
  | _ => false

theorem Phase.granting_eq_false {c : Phase} (idle : c.counting = false)
    (silent : c.sending = false) : c.granting = false := by
  cases c <;> simp_all [Phase.counting, Phase.sending, Phase.granting]

def PhoneState.Cooling (s : PhoneState) : Prop :=
  ∃ since, Mark.exhausted since ∈ s.log ∧ s.clock < since + otpCooldownSeconds

def Phase.Sound (client : RedisClient) (s : PhoneState) : Phase → Prop
  | .readAttempts _ _ issue => issue < s.issued
  | .compare _ _ issue attempts =>
      issue < s.issued ∧ s.wrong issue ≤ attempts ∧ attempts < otpMaxAttempts
  | .mismatched _ _ => client.hasHincr = true
  | _ => True

/--
The wrong codes compared against an issue are counted in its record, up to the
one call that has compared and not yet counted; and while the number cools down
no call can give or take a code, and a code that is still stored is used up.
-/
structure Kept (client : RedisClient) (phone : String) (s : PhoneState) : Prop where
  alone : AtMostOne Phase.counting s.calls
  sound : ∀ c ∈ s.calls, c.Sound client s
  counted : ∀ record, s.data.get s.clock (dataKey phone) = some record →
    ∀ issue ∈ record.issue, issue < s.issued ∧
      (s.wrong issue ≤ record.attempts.getD 0 ∨
        s.wrong issue ≤ record.attempts.getD 0 + 1 ∧
          ∃ attempts, Phase.mismatched issue attempts ∈ s.calls)
  fresh : ∀ issue, s.issued ≤ issue → s.wrong issue = 0
  bounded : GuessesBounded s
  settled : s.Cooling → ∀ c ∈ s.calls, c.granting = false
  spent : s.Cooling → ∀ record, s.data.get s.clock (dataKey phone) = some record →
    ∀ issue ∈ record.issue, s.wrong issue = otpMaxAttempts
  cooled : CooldownKept s

theorem Kept.initial (client : RedisClient) (phone : String) :
    Kept client phone PhoneState.initial where
  alone := AtMostOne.nil
  sound := by simp [PhoneState.initial]
  counted := by simp [PhoneState.initial]
  fresh := by simp [PhoneState.initial]
  bounded := by simp [PhoneState.initial, GuessesBounded, otpMaxAttempts]
  settled := by simp [PhoneState.initial]
  spent := by simp [PhoneState.initial]
  cooled := List.Pairwise.nil

section Steps

variable {client : RedisClient} {phone : String} {s : PhoneState}

theorem Kept.tick (h : Kept client phone s) {now : Int} (le : s.clock ≤ now) :
    Kept client phone { s with clock := now } := by
  have cooling : PhoneState.Cooling { s with clock := now } → s.Cooling := by
    rintro ⟨since, logged, soon⟩
    exact ⟨since, logged, lt_of_le_of_lt le soon⟩
  constructor
  · exact h.alone
  · exact h.sound
  · intro record found
    exact h.counted record (KeyStore.get_of_le le found)
  · exact h.fresh
  · exact h.bounded
  · intro cool
    exact h.settled (cooling cool)
  · intro cool record found
    exact h.spent (cooling cool) record (KeyStore.get_of_le le found)
  · exact h.cooled

theorem Kept.delete (h : Kept client phone s) :
    Kept client phone { s with data := s.data.delete (dataKey phone) } := by
  constructor
  · exact h.alone
  · exact h.sound
  · intro record found
    simp [KeyStore.get_delete_self] at found
  · exact h.fresh
  · exact h.bounded
  · exact h.settled
  · intro cool record found
    simp [KeyStore.get_delete_self] at found
  · exact h.cooled

/-- A code is given or taken while the number is not cooling down. -/
theorem Kept.note (h : Kept client phone s) (warm : ¬ s.Cooling) {mark : Mark}
    (given : mark = .issued s.clock ∨ mark = .accepted s.clock) :
    Kept client phone { s with log := s.log ++ [mark] } := by
  have cooling : ¬ PhoneState.Cooling { s with log := s.log ++ [mark] } := by
    rintro ⟨since, logged, soon⟩
    refine warm ⟨since, ?_, soon⟩
    rcases given with rfl | rfl <;> simpa using logged
  constructor
  · exact h.alone
  · exact h.sound
  · exact h.counted
  · exact h.fresh
  · exact h.bounded
  · intro cool
    exact absurd cool cooling
  · intro cool
    exact absurd cool cooling
  · refine List.pairwise_append.2 ⟨h.cooled, List.pairwise_singleton _ _, ?_⟩
    intro earlier logged later appended
    obtain rfl := List.mem_singleton.1 appended
    cases earlier with
    | exhausted since =>
        have past : since + otpCooldownSeconds ≤ s.clock := by
          by_contra soon
          exact warm ⟨since, logged, by omega⟩
        rcases given with rfl | rfl <;> exact past
    | issued time => rcases given with rfl | rfl <;> trivial
    | accepted time => rcases given with rfl | rfl <;> trivial

theorem Kept.issue (h : Kept client phone s) (warm : ¬ s.Cooling) (otp : String) :
    Kept client phone { s with
      data := s.data.setEx s.clock otpTtlSeconds (dataKey phone)
        ⟨some otp, some 0, some s.issued⟩
      issued := s.issued + 1 } := by
  constructor
  · exact h.alone
  · intro c present
    have sound := h.sound c present
    cases c <;> simp only [Phase.Sound] at sound ⊢ <;> grind
  · intro record found issue held
    obtain rfl := KeyStore.get_put_self found
    obtain rfl := Option.mem_some.1 held
    refine ⟨Nat.lt_succ_self _, Or.inl ?_⟩
    simp [h.fresh _ (Nat.le_refl _)]
  · intro issue le
    exact h.fresh issue (Nat.le_of_succ_le le)
  · exact h.bounded
  · intro cool
    exact absurd cool warm
  · intro cool
    exact absurd cool warm
  · exact h.cooled

/-- A new call has neither read the counter nor passed the cooldown. -/
theorem Kept.call (h : Kept client phone s) {c : Phase} (sound : c.Sound client s)
    (counting : c.counting = false) (granting : c.granting = false) :
    Kept client phone { s with calls := s.calls ++ [c] } := by
  constructor
  · exact h.alone.concat counting
  · exact forall_mem_concat sound h.sound
  · intro record found issue held
    obtain ⟨known, low | ⟨high, attempts, waiting⟩⟩ := h.counted record found issue held
    · exact ⟨known, Or.inl low⟩
    · exact ⟨known, Or.inr ⟨high, attempts, List.mem_append_left _ waiting⟩⟩
  · exact h.fresh
  · exact h.bounded
  · intro cool
    exact forall_mem_concat granting (h.settled cool)
  · exact h.spent
  · exact h.cooled

/-- One call goes on to a phase that counts only if it counted, or no call did. -/
theorem Kept.setCall (h : Kept client phone s) {index : Nat} {old new : Phase}
    (found : s.calls[index]? = some old) (sound : new.Sound client s)
    (counting : new.counting = true →
      old.counting = true ∨ ∀ c ∈ s.calls, c.counting = false)
    (granting : s.Cooling → new.granting = false)
    (elsewhere : ∀ issue attempts, old ≠ .mismatched issue attempts) :
    Kept client phone { s with calls := s.calls.set index new } := by
  constructor
  · exact h.alone.set found counting
  · exact forall_mem_set sound h.sound
  · intro record live issue held
    obtain ⟨known, low | ⟨high, attempts, waiting⟩⟩ := h.counted record live issue held
    · exact ⟨known, Or.inl low⟩
    · exact ⟨known, Or.inr ⟨high, attempts,
        mem_set_of_mem found waiting (elsewhere issue attempts)⟩⟩
  · exact h.fresh
  · exact h.bounded
  · intro cool
    exact forall_mem_set (granting cool) (h.settled cool)
  · exact h.spent
  · exact h.cooled

/-- A wrong code is compared; the call that compared it has yet to count it. -/
theorem Kept.mismatch (h : Kept client phone s) {index : Nat} {code stored : String}
    {issue : Nat} {attempts : Int}
    (found : s.calls[index]? = some (.compare code stored issue attempts))
    (countable : client.hasHincr = true)
    (last : otpMaxAttempts ≤ attempts + 1 →
      (∀ c ∈ s.calls, c.sending = false) ∧
        ∀ other ∈ s.stored phone s.clock, other = issue) :
    Kept client phone { s with
      wrong := Function.update s.wrong issue (s.wrong issue + 1)
      log := if s.wrong issue + 1 = otpMaxAttempts then s.log ++ [.exhausted s.clock]
        else s.log
      calls := s.calls.set index (.mismatched issue attempts) } := by
  have compared := List.mem_of_getElem? found
  obtain ⟨known, low, few⟩ := h.sound _ compared
  have warm : ¬ s.Cooling := fun cool => by simpa [Phase.granting] using h.settled cool _ compared
  have others : ∀ {j : Nat} {c : Phase}, index ≠ j → s.calls[j]? = some c →
      c.counting = false :=
    h.alone.others found rfl
  have exhausting : PhoneState.Cooling { s with
      log := if s.wrong issue + 1 = otpMaxAttempts then s.log ++ [.exhausted s.clock]
        else s.log } →
      otpMaxAttempts ≤ attempts + 1 ∧ s.wrong issue + 1 = otpMaxAttempts := by
    intro cool
    have full : s.wrong issue + 1 = otpMaxAttempts := by
      by_contra room
      rw [if_neg room] at cool
      exact warm cool
    exact ⟨by omega, full⟩
  constructor
  · exact h.alone.set found fun _ => Or.inl rfl
  · intro c present
    rcases mem_set_cases present with rfl | ⟨j, apart, atJ⟩
    · exact countable
    · have sound := h.sound c (List.mem_of_getElem? atJ)
      have idle := others apart atJ
      cases c <;> first | exact sound | simp [Phase.counting] at idle
  · intro record live n held
    obtain ⟨below, counted⟩ := h.counted record live n held
    have settled : s.wrong n ≤ record.attempts.getD 0 := by
      rcases counted with low | ⟨-, earlier, waiting⟩
      · exact low
      · obtain ⟨j, atJ⟩ := List.mem_iff_getElem?.1 waiting
        have apart : index ≠ j := by
          rintro rfl
          simp [found] at atJ
        simpa [Phase.counting] using others apart atJ
    refine ⟨below, ?_⟩
    by_cases same : n = issue
    · subst same
      refine Or.inr ⟨?_, attempts, mem_set_of_found found⟩
      simpa using settled
    · exact Or.inl (by simpa [Function.update_of_ne same] using settled)
  · intro n le
    have other : n ≠ issue := by
      rintro rfl
      exact absurd known (Nat.not_lt.2 le)
    simpa [Function.update_of_ne other] using h.fresh n le
  · intro n
    by_cases same : n = issue
    · subst same
      simp only [Function.update_self]
      omega
    · simpa [Function.update_of_ne same] using h.bounded n
  · intro cool c present
    rcases mem_set_cases present with rfl | ⟨j, apart, atJ⟩
    · rfl
    · have idle := others apart atJ
      have silent := (last (exhausting cool).1).1 c (List.mem_of_getElem? atJ)
      exact Phase.granting_eq_false idle silent
  · intro cool record live n held
    obtain ⟨due, full⟩ := exhausting cool
    obtain rfl : n = issue := by
      refine (last due).2 n ?_
      rw [PhoneState.stored, live]
      exact held
    simpa using full
  · show List.Pairwise _ (ite _ _ _)
    split
    · exact List.pairwise_append.2 ⟨h.cooled, List.pairwise_singleton _ _, by simp [Mark.mayFollow]⟩
    · exact h.cooled

/-- The call that compared a wrong code counts it. -/
theorem Kept.count (h : Kept client phone s) {index : Nat} {issue : Nat} {attempts : Int}
    (found : s.calls[index]? = some (.mismatched issue attempts)) :
    Kept client phone { s with
      data := hincr s.data s.clock (dataKey phone)
      calls := s.calls.set index (.counted attempts) } := by
  have entry : ∀ record, (hincr s.data s.clock (dataKey phone)).get s.clock
      (dataKey phone) = some record → ∀ n ∈ record.issue,
      ∃ former, s.data.get s.clock (dataKey phone) = some former ∧
        former.issue = some n ∧
        record.attempts.getD 0 = former.attempts.getD 0 + 1 := by
    intro record live n held
    unfold hincr at live
    cases before : s.data.get s.clock (dataKey phone) with
    | none =>
        rw [before] at live
        obtain rfl := KeyStore.get_put_self live
        simp at held
    | some former =>
        rw [before] at live
        obtain rfl := KeyStore.get_put_self live
        exact ⟨former, rfl, held, rfl⟩
  constructor
  · exact h.alone.set found fun turned => nomatch turned
  · exact forall_mem_set trivial h.sound
  · intro record live n held
    obtain ⟨former, before, same, raised⟩ := entry record live n held
    obtain ⟨known, counted⟩ := h.counted former before n same
    refine ⟨known, Or.inl ?_⟩
    rw [raised]
    rcases counted with low | ⟨high, -⟩
    · exact le_trans low (Int.le_of_lt (Int.lt_succ _))
    · exact high
  · exact h.fresh
  · exact h.bounded
  · intro cool
    exact forall_mem_set rfl (h.settled cool)
  · intro cool record live n held
    obtain ⟨former, before, same, -⟩ := entry record live n held
    exact h.spent cool former before n same
  · exact h.cooled

/-- A call that gives up or ends keeps the invariant. -/
theorem Kept.leave (h : Kept client phone s) {index : Nat} {old new : Phase}
    (found : s.calls[index]? = some old) (sound : new.Sound client s)
    (counting : new.counting = false) (granting : new.granting = false)
    (elsewhere : ∀ issue attempts, old ≠ .mismatched issue attempts) :
    Kept client phone { s with calls := s.calls.set index new } :=
  h.setCall found sound (by simp [counting]) (fun _ => granting) elsewhere

theorem calls_advance (client : RedisClient) (phone : String) (now : Int) (otp : String)
    (phase : Phase) (s : PhoneState) :
    (Otp.advance client phone now otp phase s).2.calls = s.calls := by
  cases phase <;> simp only [Otp.advance] <;> repeat' split
  all_goals rfl

theorem Kept.advance (h : Kept client phone s) {index : Nat} {phase : Phase}
    {otp : String} (found : s.calls[index]? = some phase)
    (undisturbed : Undisturbed client phone s ⟨s.clock, .advance index otp⟩) :
    Kept client phone
      { (Otp.advance client phone s.clock otp phase s).2 with
        calls := s.calls.set index (Otp.advance client phone s.clock otp phase s).1 } := by
  have present := List.mem_of_getElem? found
  have warm : phase.granting = true → ¬ s.Cooling := by
    intro able cool
    simp [h.settled cool phase present] at able
  simp only [Undisturbed, found] at undisturbed
  cases phase with
  | checkCooldown ip =>
      simp only [Otp.advance]
      split
      · exact h.leave found trivial rfl rfl (by simp)
      · refine h.setCall found trivial (by rintro ⟨⟩) ?_ (by simp)
        rintro ⟨since, logged, soon⟩
        have passed : since + otpCooldownSeconds ≤ s.clock := undisturbed _ logged
        omega
  | lookUp =>
      simp only [Otp.advance]
      split
      · exact (h.note (warm rfl) (.inl rfl)).leave found trivial rfl rfl (by simp)
      · exact h.setCall found trivial (by rintro ⟨⟩) (fun cool => absurd cool (warm rfl)) (by simp)
  | generate =>
      have noted := (h.issue (warm rfl) otp).note (warm rfl) (.inl rfl)
      exact noted.leave found trivial rfl rfl (by simp)
  | sent result => exact h.leave found trivial rfl rfl (by simp)
  | readCode code =>
      simp only [Otp.advance]
      split
      case h_1 _ stored _ issue live =>
        split
        · exact h.leave found trivial rfl rfl (by simp)
        · exact h.leave found (h.counted _ live issue rfl).1 rfl rfl (by simp)
      case h_2 => exact h.leave found trivial rfl rfl (by simp)
  | readAttempts code stored issue =>
      simp only [Otp.advance]
      split
      · exact h.leave found trivial rfl rfl (by simp)
      case isFalse room =>
        obtain ⟨idle, still⟩ := undisturbed
        obtain ⟨record, live, held⟩ := Option.bind_eq_some_iff.1 still
        obtain ⟨known, counted⟩ := h.counted record live issue held
        simp only [live, Option.bind_some] at room ⊢
        have low : s.wrong issue ≤ record.attempts.getD 0 := by
          rcases counted with low | ⟨-, attempts, waiting⟩
          · exact low
          · simpa [Phase.counting] using idle _ waiting
        refine h.setCall found ⟨known, low, by omega⟩ (fun _ => Or.inr idle) ?_ (by simp)
        intro cool
        have full := h.spent cool record live issue held
        omega
  | compare code stored issue attempts =>
      simp only [Otp.advance]
      split
      · exact h.setCall found trivial (fun _ => Or.inl rfl)
          (fun cool => absurd cool (warm rfl)) (by simp)
      case isFalse wrong =>
        obtain ⟨countable, last⟩ := undisturbed wrong
        exact h.mismatch found countable last
  | lockOut => exact h.delete.leave found trivial rfl rfl (by simp)
  | mismatched issue attempts =>
      have countable : client.hasHincr = true := h.sound _ present
      simp only [Otp.advance, countable, if_true]
      exact h.count found
  | counted attempts =>
      simp only [Otp.advance]
      split
      · exact h.delete.leave found trivial rfl rfl (by simp)
      · exact h.leave found trivial rfl rfl (by simp)
  | matched =>
      have noted := h.delete.note (warm rfl) (.inr rfl)
      exact noted.leave found trivial rfl rfl (by simp)
  | verified result => exact h.leave found trivial rfl rfl (by simp)

end Steps

theorem Kept.step {client : RedisClient} {phone : String} {s : PhoneState} {e : Event}
    (undisturbed : Undisturbed client phone s e) (h : Kept client phone s) :
    Kept client phone (Otp.step client phone s e) := by
  unfold Otp.step
  split
  · exact h
  case isFalse later =>
    have ticked := h.tick (Int.not_lt.1 later)
    obtain ⟨now, action⟩ := e
    cases action with
    | send ip => exact ticked.call trivial rfl rfl
    | verify code => exact ticked.call trivial rfl rfl
    | advance index otp =>
        cases found : s.calls[index]? with
        | none => simpa only [found] using ticked
        | some phase =>
            simp only [found]
            rw [calls_advance]
            exact ticked.advance found undisturbed

theorem phone_otp_guesses_bounded (client : RedisClient)
    (events : List (String × Event))
    (undisturbed : Guarded (stepAt (Otp.step client))
      (fun s e => Undisturbed client e.1 (s e.1) e.2) (fun _ => .initial) events)
    (phone : String) :
    GuessesBounded (runFrom (stepAt (Otp.step client)) (fun _ => .initial) events phone) ∧
      CooldownKept (runFrom (stepAt (Otp.step client)) (fun _ => .initial) events phone) := by
  have kept := stepAt_invariant_of_guarded
    (fun _ _ _ ok => Kept.step ok) (Kept.initial client) undisturbed phone
  exact ⟨kept.bounded, kept.cooled⟩

/-! ## Calls taken through their steps one after the other -/

def samplePhone : String := "+15550100"

def sendAt (now : Int) (index : Nat) (otp : String) : List Event :=
  ⟨now, .send "203.0.113.7"⟩ :: List.replicate 3 ⟨now, .advance index otp⟩

def verifyAt (now : Int) (index : Nat) (code : String) : List Event :=
  ⟨now, .verify code⟩ :: List.replicate 5 ⟨now, .advance index ""⟩

/-- A code is sent and `n` wrong ones are tried, a second apart. -/
def guessesInTurn (n : Nat) : List Event :=
  sendAt 0 0 "482913" ++
    (List.range n).flatMap fun i => verifyAt ((i + 1 : Nat) : Int) (i + 1) "000000"

/-- A code is sent and `n` calls read the counter before any of them counts. -/
def guessesAtOnce (n : Nat) : List Event :=
  sendAt 0 0 "482913" ++ List.replicate n ⟨1, .verify "000000"⟩ ++
    (List.range n).flatMap (fun i => List.replicate 2 ⟨1, .advance (i + 1) ""⟩) ++
    (List.range n).map fun i => ⟨1, .advance (i + 1) ""⟩

def reached (client : RedisClient) (events : List Event) : PhoneState :=
  runFrom (stepAt (Otp.step client)) (fun _ => .initial)
    (events.map fun e => (samplePhone, e)) samplePhone

theorem phone_otp_guesses_unbounded :
    ¬ GuessesBounded (reached ⟨false⟩ (guessesInTurn 6)) ∧
      ¬ GuessesBounded (reached ⟨true⟩ (guessesAtOnce 6)) ∧
      ¬ CooldownKept (reached ⟨true⟩ (guessesInTurn 5 ++ sendAt 10 6 "731550")) := by
  refine ⟨fun bounded => absurd (bounded 0) ?_, fun bounded => absurd (bounded 0) ?_, ?_⟩
  · decide +kernel
  · decide +kernel
  · unfold CooldownKept
    decide +kernel

theorem phone_otp_guesses_bounded_in_turn :
    GuessesBounded (reached ⟨true⟩ (guessesInTurn 1 ++ verifyAt 2 2 "482913")) ∧
      CooldownKept (reached ⟨true⟩ (guessesInTurn 1 ++ verifyAt 2 2 "482913")) :=
  phone_otp_guesses_bounded ⟨true⟩ _ (by decide +kernel) samplePhone

end ColabPlatform.Auth.Otp
