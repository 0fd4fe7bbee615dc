import ColabPlatform.Common.Text
import ColabPlatform.Foundation.Interleaving
import ColabPlatform.Foundation.KeyStore
import ColabPlatform.Foundation.Run

/-!
# Publishing an event

`publish` marks the dedupe key of an event in Redis, and then connects, declares the exchange and
publishes.  Each of the three may raise, and none takes the mark back.  Calls of any keys are under
way at once.
-/

namespace ColabPlatform.Common

open Foundation

/-- `ex=3600`, in milliseconds -/
def dedupeTtl : Int := 3600 * 1000

/-- The body is the JSON text of `event` and `data`. -/
structure Message (ν : Type*) where
  exchange : String
  routingKey : String
  event : String
  data : ν

structure PublishRequest (ν : Type*) where
  eventName : String
  payload : ν
  dedupeKey : Option String
  exchangeName : Option String

namespace PublishRequest

variable {ν : Type*}

/-- `dedupe_key`, where an empty text is no key. -/
def key (request : PublishRequest ν) : Option String :=
  request.dedupeKey.filter (· ≠ "")

/-- `exchange_name or event_name.split(".")[0]` -/
def domain (request : PublishRequest ν) : String :=
  (request.exchangeName.filter (· ≠ "")).getD ((split '.' request.eventName).headD "")

def message (request : PublishRequest ν) : Message ν :=
  ⟨request.domain, request.eventName, request.eventName, request.payload⟩

end PublishRequest

/-- What a call of `publish` waits for or ended with.  A call may raise after the message has
reached the exchange, when the confirmation is lost. -/
inductive PublishPhase where
  | connecting
  | declaring
  | publishing
  | returned (published : Bool)
  | raised (reached : Bool)
  deriving DecidableEq, Repr

inductive BrokerAnswer where
  | succeeds
  | fails (reached : Bool)
  deriving DecidableEq, Repr

namespace PublishPhase

def next : PublishPhase → BrokerAnswer → PublishPhase
  | connecting, .succeeds => declaring
  | connecting, .fails _ => raised false
  | declaring, .succeeds => publishing
  | declaring, .fails _ => raised false
  | publishing, .succeeds => returned true
  | publishing, .fails reached => raised reached
  | returned published, _ => returned published
  | raised reached, _ => raised reached

/-- The message of the call is in the exchange. -/
def delivered : PublishPhase → Bool
  | returned true | raised true => true
  | _ => false

end PublishPhase

/-- `began` is when the call looked for the mark. -/
structure PublishCall (ν : Type*) where
  request : PublishRequest ν
  began : Int
  phase : PublishPhase

/-- The messages of the exchange stand beside the dedupe key of the call that delivered them. -/
structure Bus (ν : Type*) where
  now : Int
  redis : KeyStore String Unit
  calls : List (PublishCall ν)
  exchange : List (Option String × Message ν)

inductive PublishEvent (ν : Type*) where
  | elapse (time : Nat)
  | publish (request : PublishRequest ν)
  | answer (index : Nat) (answer : BrokerAnswer)

def dedupeMark (hexdigest : String → String) (key : String) : String :=
  "evt:dedupe:" ++ hexdigest key

namespace Bus

variable {ν : Type*}

def start (now : Int) : Bus ν := ⟨now, .empty, [], []⟩

def enter (s : Bus ν) (request : PublishRequest ν) (phase : PublishPhase) : Bus ν :=
  { s with calls := s.calls ++ [⟨request, s.now, phase⟩] }

/-- `publish` up to its first call of the broker -/
def publish (hexdigest : String → String) (s : Bus ν) (request : PublishRequest ν) : Bus ν :=
  match request.key with
  | none => s.enter request .connecting
  | some key =>
      if s.redis.exists? s.now (dedupeMark hexdigest key) then s.enter request (.returned false)
      else
        { s.enter request .connecting with
          redis := s.redis.setEx s.now dedupeTtl (dedupeMark hexdigest key) () }

/-- The broker answers a call, and the call goes on to its next await. -/
def answer (s : Bus ν) (index : Nat) (answer : BrokerAnswer) : Bus ν :=
  match s.calls[index]? with
  | none => s
  | some call =>
      let phase := call.phase.next answer
      { s with
        calls := s.calls.set index { call with phase }
        exchange := if call.phase = .publishing ∧ phase.delivered
          then (call.request.key, call.request.message) :: s.exchange else s.exchange }

def step (hexdigest : String → String) (s : Bus ν) : PublishEvent ν → Bus ν
  | .elapse time => { s with now := s.now + time }
  | .publish request => s.publish hexdigest request
  | .answer index answer => s.answer index answer

/-- The messages that calls with the key delivered. -/
def delivered (key : String) (s : Bus ν) : Nat :=
  s.exchange.countP fun delivery => delivery.1 = some key

end Bus

/-! ## What deduplication is for -/

/-- A call with the key is skipped only after a delivery, and whoever gets an answer has had
exactly one message delivered. -/
structure PublishedOnce {ν : Type*} (key : String) (s : Bus ν) : Prop where
  once : s.delivered key ≤ 1
  skipped : ∀ (index : Nat) (call : PublishCall ν), s.calls[index]? = some call →
    call.request.key = some key → call.phase = .returned false →
      ∃ (earlier : Nat) (first : PublishCall ν), earlier < index ∧
        s.calls[earlier]? = some first ∧ first.request.key = some key ∧ first.phase.delivered
  settled : ∀ call ∈ s.calls, call.request.key = some key →
    ∀ published, call.phase = .returned published → s.delivered key = 1

/-- No other key of the run has the digest of this one, and its calls come within the time to
live of its mark. -/
def Regular {ν : Type*} (hexdigest : String → String) (key : String) (s : Bus ν) :
    PublishEvent ν → Prop
  | .publish request =>
      (∀ other, request.key = some other → hexdigest other = hexdigest key → other = key) ∧
      (request.key = some key → ∀ call ∈ s.calls, call.request.key = some key →
        call.phase ≠ .returned false → s.now < call.began + dedupeTtl)
  | _ => True

/-- When a call with the key begins, none before it is under way or has raised undelivered. -/
def Undisturbed {ν : Type*} (key : String) (s : Bus ν) : PublishEvent ν → Prop
  | .publish request => request.key = some key → ∀ call ∈ s.calls,
      call.request.key = some key → call.phase = .returned false ∨ call.phase.delivered
  | _ => True

/-! ## The mark and its holder -/

section Holder

variable {ν : Type*} {hexdigest : String → String} {key : String} {s : Bus ν}

/-- The call set the mark of the key. -/
def PublishCall.holds (key : String) (call : PublishCall ν) : Bool :=
  call.request.key = some key && call.phase ≠ .returned false

/-- How many messages of the key the call has delivered. -/
def PublishCall.copies (key : String) (call : PublishCall ν) : Nat :=
  if call.request.key = some key ∧ call.phase.delivered then 1 else 0

theorem holds_iff {call : PublishCall ν} :
    call.holds key ↔ call.request.key = some key ∧ call.phase ≠ .returned false := by
  simp [PublishCall.holds]

theorem exists_holder (present : ¬ ∀ call ∈ s.calls, call.holds key = false) :
    ∃ holder ∈ s.calls, holder.holds key := by
  push Not at present
  obtain ⟨holder, mem, busy⟩ := present
  exact ⟨holder, mem, by simpa using busy⟩

theorem copies_of_idle {call : PublishCall ν} (idle : call.holds key = false) :
    call.copies key = 0 := by
  refine if_neg fun ⟨own, delivered⟩ => ?_
  have skipped : call.phase = .returned false := by simpa [PublishCall.holds, own] using idle
  rw [skipped] at delivered
  cases delivered

theorem copies_le_one (call : PublishCall ν) : call.copies key ≤ 1 := by
  unfold PublishCall.copies
  split <;> decide

/-- Within the time to live one call holds the mark, and what is delivered is from it. -/
structure Marks (hexdigest : String → String) (key : String) (s : Bus ν) : Prop where
  alone : AtMostOne (PublishCall.holds key) s.calls
  counted : s.delivered key = (s.calls.map (PublishCall.copies key)).sum
  free : (∀ call ∈ s.calls, call.holds key = false) → ∀ now, s.now ≤ now →
    s.redis.get now (dedupeMark hexdigest key) = none
  held : ∀ call ∈ s.calls, call.holds key → ∀ now, s.now ≤ now →
    s.redis.get now (dedupeMark hexdigest key) =
      if now < call.began + dedupeTtl then some () else none

theorem Marks.start (now : Int) : Marks hexdigest key (.start now : Bus ν) where
  alone := AtMostOne.nil
  counted := rfl
  free _ _ _ := rfl
  held _ mem := absurd mem List.not_mem_nil

theorem Marks.elapse (marks : Marks hexdigest key s) (time : Nat) :
    Marks hexdigest key { s with now := s.now + time } := by
  have later : s.now ≤ s.now + (time : Int) := Int.le_add_of_nonneg_right (Int.natCast_nonneg time)
  exact ⟨marks.alone, marks.counted, fun idle now le => marks.free idle now (Int.le_trans later le),
    fun call mem holds now le => marks.held call mem holds now (Int.le_trans later le)⟩

/-- A call that does not hold the mark is entered. -/
theorem Marks.enter (marks : Marks hexdigest key s) {redis : KeyStore String Unit}
    (same : ∀ now, redis.get now (dedupeMark hexdigest key) =
      s.redis.get now (dedupeMark hexdigest key))
    {request : PublishRequest ν} {phase : PublishPhase}
    (idle : (⟨request, s.now, phase⟩ : PublishCall ν).holds key = false) :
    Marks hexdigest key { s.enter request phase with redis } := by
  refine ⟨marks.alone.concat idle, ?_, fun others now le => ?_, fun call mem holds now le => ?_⟩
  · simp only [Bus.enter, List.map_append, List.sum_append, List.map_singleton, List.sum_singleton,
      copies_of_idle idle]
    exact marks.counted
  · rw [same]
    exact marks.free (fun call mem => others call (List.mem_append_left _ mem)) now le
  · rw [same]
    rcases List.mem_append.1 mem with mem | last
    · exact marks.held call mem holds now le
    · obtain rfl := List.mem_singleton.1 last
      rw [idle] at holds
      cases holds

/-- The first call with the key sets the mark. -/
theorem Marks.mark (marks : Marks hexdigest key s)
    (idle : ∀ call ∈ s.calls, call.holds key = false) {request : PublishRequest ν}
    (own : request.key = some key) :
    Marks hexdigest key { s.enter request .connecting with
      redis := s.redis.setEx s.now dedupeTtl (dedupeMark hexdigest key) () } := by
  have holds : (⟨request, s.now, .connecting⟩ : PublishCall ν).holds key = true := by
    simp [PublishCall.holds, own]
  refine ⟨AtMostOne.concat_first idle, ?_, fun others => ?_, fun call mem held now le => ?_⟩
  · have none : (⟨request, s.now, .connecting⟩ : PublishCall ν).copies key = 0 :=
      if_neg fun both => Bool.false_ne_true both.2
    simp only [Bus.enter, List.map_append, List.sum_append, List.map_singleton, List.sum_singleton,
      none]
    exact marks.counted
  · have other := others _ (List.mem_append_right _ (List.mem_singleton_self _))
    rw [holds] at other
    cases other
  · rw [KeyStore.get_setEx_self]
    rcases List.mem_append.1 mem with mem | last
    · rw [idle call mem] at held
      cases held
    · obtain rfl := List.mem_singleton.1 last
      rfl

/-- Whether a call finds the mark, and what it is entered as. -/
theorem Marks.publish (marks : Marks hexdigest key s) {request : PublishRequest ν}
    (regular : Regular hexdigest key s (.publish request)) :
    Marks hexdigest key (s.publish hexdigest request) := by
  unfold Bus.publish
  cases given : request.key with
  | none =>
      refine marks.enter (fun _ => rfl) ?_
      simp [PublishCall.holds, given]
  | some other =>
      by_cases own : other = key
      · subst own
        dsimp only
        split
        · refine marks.enter (fun _ => rfl) ?_
          simp [PublishCall.holds]
        · rename_i absent
          refine marks.mark ?_ given
          by_contra holder
          obtain ⟨call, mem, holds⟩ := exists_holder holder
          have found := marks.held call mem holds s.now (Int.le_refl _)
          rw [if_pos (regular.2 given call mem (holds_iff.1 holds).1 (holds_iff.1 holds).2)] at found
          exact absent (by simp [KeyStore.exists?, found])
      · have idle : ∀ phase, (⟨request, s.now, phase⟩ : PublishCall ν).holds key = false := by
          intro phase
          simp [PublishCall.holds, given, own]
        have apart : dedupeMark hexdigest key ≠ dedupeMark hexdigest other := fun same =>
          own (regular.1 other given (String.append_right_inj _ |>.1 same.symm))
        dsimp only
        split
        · exact marks.enter (fun _ => rfl) (idle _)
        · exact marks.enter (fun now => KeyStore.get_setEx_of_ne _ _ _ _ _ apart) (idle _)

theorem PublishPhase.next_eq_skipped {phase : PublishPhase} {answer : BrokerAnswer} :
    phase.next answer = .returned false ↔ phase = .returned false := by
  cases phase <;> cases answer <;> simp [PublishPhase.next]

theorem PublishPhase.delivered_next {phase : PublishPhase} {answer : BrokerAnswer} :
    (phase.next answer).delivered = true ↔
      phase.delivered = true ∨ phase = .publishing ∧ (phase.next answer).delivered = true := by
  cases phase <;> cases answer <;> simp [PublishPhase.next, PublishPhase.delivered]

/-- What a call adds to the messages of the exchange. -/
theorem delivered_answer {index : Nat} {call : PublishCall ν} (answer : BrokerAnswer)
    (found : s.calls[index]? = some call) :
    (s.answer index answer).delivered key + call.copies key =
      s.delivered key +
        ({ call with phase := call.phase.next answer } : PublishCall ν).copies key := by
  unfold Bus.answer Bus.delivered PublishCall.copies
  simp only [found]
  by_cases now : call.phase = .publishing ∧ (call.phase.next answer).delivered = true
  · have before : call.phase.delivered = false := by rw [now.1]; rfl
    rw [if_pos now, List.countP_cons]
    simp [before, now.2]
  · have same : (call.phase.next answer).delivered = call.phase.delivered :=
      Bool.eq_iff_iff.2 (PublishPhase.delivered_next.trans (or_iff_left now))
    rw [if_neg now]
    simp only [same]

/-- The answer to a call. -/
theorem answer_eq {index : Nat} {call : PublishCall ν} (answer : BrokerAnswer)
    (found : s.calls[index]? = some call) : s.answer index answer =
      { s with
        calls := s.calls.set index { call with phase := call.phase.next answer }
        exchange := (s.answer index answer).exchange } := by
  simp [Bus.answer, found]

theorem calls_answer {index : Nat} {call : PublishCall ν} (answer : BrokerAnswer)
    (found : s.calls[index]? = some call) : (s.answer index answer).calls =
      s.calls.set index { call with phase := call.phase.next answer } := by
  rw [answer_eq answer found]

theorem holds_next (call : PublishCall ν) (answer : BrokerAnswer) :
    ({ call with phase := call.phase.next answer } : PublishCall ν).holds key = call.holds key := by
  simp [PublishCall.holds, PublishPhase.next_eq_skipped]

/-- No call takes or gives up the mark by going on. -/
theorem idle_of_answer {index : Nat} {call : PublishCall ν} (answer : BrokerAnswer)
    (found : s.calls[index]? = some call)
    (idle : ∀ other ∈ s.calls.set index { call with phase := call.phase.next answer },
      other.holds key = false) : ∀ other ∈ s.calls, other.holds key = false := by
  intro other present
  obtain ⟨j, atJ⟩ := List.mem_iff_getElem?.1 present
  by_cases same : index = j
  · subst same
    obtain rfl := Option.some.inj (found.symm.trans atJ)
    rw [← holds_next call answer]
    exact idle _ (mem_set_of_found found)
  · exact idle other (List.mem_of_getElem? ((List.getElem?_set_ne same).trans atJ))

theorem Marks.answer (marks : Marks hexdigest key s) (index : Nat) (answer : BrokerAnswer) :
    Marks hexdigest key (s.answer index answer) := by
  cases found : s.calls[index]? with
  | none =>
      unfold Bus.answer
      rw [found]
      exact marks
  | some call =>
      have more : (s.answer index answer).delivered key + call.copies key =
          s.delivered key +
            ({ call with phase := call.phase.next answer } : PublishCall ν).copies key :=
        delivered_answer answer found
      have total := sum_map_set found { call with phase := call.phase.next answer }
        (PublishCall.copies key)
      have counted := marks.counted
      rw [answer_eq answer found] at more ⊢
      refine ⟨?_, ?_, fun idle => marks.free (idle_of_answer answer found idle),
        fun other present held => ?_⟩
      · exact marks.alone.set found fun busy => Or.inl (holds_next call answer ▸ busy)
      · dsimp only
        omega
      · rcases mem_set_cases present with rfl | ⟨j, -, atJ⟩
        · exact marks.held call (List.mem_of_getElem? found) (holds_next call answer ▸ held)
        · exact marks.held other (List.mem_of_getElem? atJ) held

theorem Marks.step (marks : Marks hexdigest key s) {e : PublishEvent ν}
    (regular : Regular hexdigest key s e) : Marks hexdigest key (s.step hexdigest e) := by
  cases e with
  | elapse time => exact marks.elapse time
  | publish request => exact marks.publish regular
  | answer index answer => exact marks.answer index answer

/-- With no holder nothing is delivered. -/
theorem Marks.delivered_of_idle (marks : Marks hexdigest key s)
    (idle : ∀ call ∈ s.calls, call.holds key = false) : s.delivered key = 0 := by
  rw [marks.counted, List.sum_eq_zero_iff_forall_eq_nat]
  intro copies mem
  obtain ⟨call, present, rfl⟩ := List.mem_map.1 mem
  exact copies_of_idle (idle call present)

theorem Marks.delivered_of_holds (marks : Marks hexdigest key s) {call : PublishCall ν}
    (mem : call ∈ s.calls) (holds : call.holds key) : s.delivered key = call.copies key :=
  marks.counted.trans (marks.alone.sum_map_eq mem holds fun _ => copies_of_idle)

theorem Marks.once (marks : Marks hexdigest key s) : s.delivered key ≤ 1 := by
  by_cases idle : ∀ call ∈ s.calls, call.holds key = false
  · rw [marks.delivered_of_idle idle]
    exact Nat.zero_le 1
  · obtain ⟨call, mem, holds⟩ := exists_holder idle
    rw [marks.delivered_of_holds mem holds]
    exact copies_le_one call

/-! ## The steps that keep deduplication exact -/

/-- A call with another key, or one that is not answered at once. -/
theorem PublishedOnce.enter (exact : PublishedOnce key s) {redis : KeyStore String Unit}
    {request : PublishRequest ν} {phase : PublishPhase}
    (fresh : request.key = some key → ∀ published, phase ≠ .returned published) :
    PublishedOnce key { s.enter request phase with redis } where
  once := exact.once
  skipped index call found own skipped := by
    rcases getElem?_concat_cases found with old | ⟨-, rfl⟩
    · obtain ⟨earlier, first, before, found, rest⟩ := exact.skipped index call old own skipped
      exact ⟨earlier, first, before, getElem?_concat_of_some found _, rest⟩
    · exact absurd skipped (fresh own false)
  settled call mem own published answered := by
    rcases List.mem_append.1 mem with old | last
    · exact exact.settled call old own published answered
    · obtain rfl := List.mem_singleton.1 last
      exact absurd answered (fresh own published)

/-- A delivered message is the holder's. -/
theorem copies_eq_one {call : PublishCall ν} :
    call.copies key = 1 ↔ call.request.key = some key ∧ call.phase.delivered = true := by
  unfold PublishCall.copies
  split <;> simp [*]

theorem holds_of_delivered {call : PublishCall ν} (own : call.request.key = some key)
    (delivered : call.phase.delivered = true) : call.holds key := by
  refine holds_iff.2 ⟨own, fun skipped => ?_⟩
  rw [skipped] at delivered
  cases delivered

/-- A call that finds the mark is skipped, rightly if the holder has delivered. -/
theorem publishedOnce_skip_iff (marks : Marks hexdigest key s) (exact : PublishedOnce key s)
    {request : PublishRequest ν} (own : request.key = some key)
    (present : ¬ ∀ call ∈ s.calls, call.holds key = false) :
    PublishedOnce key (s.enter request (.returned false)) ↔
      Undisturbed key s (.publish request) := by
  constructor
  · intro after _ call mem sameKey
    obtain ⟨earlier, first, before, found, firstKey, delivered⟩ := after.skipped s.calls.length _
      List.getElem?_concat_length own rfl
    rw [Bus.enter, List.getElem?_append_left before] at found
    have one := marks.delivered_of_holds (List.mem_of_getElem? found)
      (holds_of_delivered firstKey delivered)
    rw [copies_eq_one.2 ⟨firstKey, delivered⟩] at one
    by_cases skipped : call.phase = .returned false
    · exact Or.inl skipped
    · rw [marks.delivered_of_holds mem (holds_iff.2 ⟨sameKey, skipped⟩)] at one
      exact Or.inr (copies_eq_one.1 one).2
  · intro undisturbed
    obtain ⟨holder, mem, holds⟩ := exists_holder present
    have delivered : holder.phase.delivered = true :=
      (undisturbed own holder mem (holds_iff.1 holds).1).resolve_left (holds_iff.1 holds).2
    have one : s.delivered key = 1 := by
      rw [marks.delivered_of_holds mem holds]
      exact copies_eq_one.2 ⟨(holds_iff.1 holds).1, delivered⟩
    refine ⟨exact.once, fun index call found sameKey skipped => ?_, fun _ _ _ _ _ => one⟩
    rcases getElem?_concat_cases found with old | ⟨rfl, rfl⟩
    · obtain ⟨earlier, first, before, found, rest⟩ := exact.skipped index call old sameKey skipped
      exact ⟨earlier, first, before, getElem?_concat_of_some found _, rest⟩
    · obtain ⟨earlier, found⟩ := List.mem_iff_getElem?.1 mem
      exact ⟨earlier, holder, (List.getElem?_eq_some_iff.1 found).1,
        getElem?_concat_of_some found _, (holds_iff.1 holds).1, delivered⟩

/-- With no holder all calls with the key were skipped, and nothing was. -/
theorem publishedOnce_publish_iff (marks : Marks hexdigest key s) (exact : PublishedOnce key s)
    {request : PublishRequest ν} (regular : Regular hexdigest key s (.publish request)) :
    PublishedOnce key (s.publish hexdigest request) ↔ Undisturbed key s (.publish request) := by
  by_cases own : request.key = some key
  · unfold Bus.publish
    rw [own]
    dsimp only
    by_cases idle : ∀ call ∈ s.calls, call.holds key = false
    · have absent : s.redis.exists? s.now (dedupeMark hexdigest key) = false := by
        rw [KeyStore.exists?, marks.free idle s.now (Int.le_refl _)]
        rfl
      rw [absent, if_neg Bool.false_ne_true]
      refine iff_of_true (exact.enter fun _ _ => by simp) fun _ call mem sameKey => Or.inl ?_
      simpa [PublishCall.holds, sameKey] using idle call mem
    · have present : s.redis.exists? s.now (dedupeMark hexdigest key) = true := by
        obtain ⟨holder, mem, holds⟩ := exists_holder idle
        have within := regular.2 own holder mem (holds_iff.1 holds).1 (holds_iff.1 holds).2
        rw [KeyStore.exists?, marks.held holder mem holds s.now (Int.le_refl _), if_pos within]
        rfl
      rw [if_pos present]
      exact publishedOnce_skip_iff marks exact own idle
  · refine iff_of_true ?_ fun same => absurd same own
    unfold Bus.publish
    cases given : request.key with
    | none => exact exact.enter fun same => absurd same own
    | some other =>
        dsimp only
        split
        · exact exact.enter fun same => absurd same own
        · exact exact.enter fun same => absurd same own

theorem PublishPhase.next_eq_returned {phase : PublishPhase} {answer : BrokerAnswer}
    {published : Bool} (returned : phase.next answer = .returned published) :
    phase = .returned published ∨ (phase.next answer).delivered = true := by
  cases phase <;> cases answer <;> simp_all [PublishPhase.next, PublishPhase.delivered]

theorem copies_mono (call : PublishCall ν) (answer : BrokerAnswer) :
    call.copies key ≤ ({ call with phase := call.phase.next answer } : PublishCall ν).copies key := by
  unfold PublishCall.copies
  by_cases both : call.request.key = some key ∧ call.phase.delivered = true
  · have still : (call.phase.next answer).delivered = true :=
      PublishPhase.delivered_next.2 (Or.inl both.2)
    rw [if_pos both, if_pos ⟨both.1, still⟩]
  · rw [if_neg both]
    exact Nat.zero_le _

/-- The call at a place stays there with its key, and what it delivered. -/
theorem delivered_kept {index earlier : Nat} {call first : PublishCall ν} (answer : BrokerAnswer)
    (found : s.calls[index]? = some call) (there : s.calls[earlier]? = some first)
    (own : first.request.key = some key) (delivered : first.phase.delivered = true) :
    ∃ first', (s.answer index answer).calls[earlier]? = some first' ∧
      first'.request.key = some key ∧ first'.phase.delivered = true := by
  rw [calls_answer answer found]
  by_cases same : index = earlier
  · subst same
    obtain rfl := Option.some.inj (found.symm.trans there)
    refine ⟨_, List.getElem?_set_self (List.getElem?_eq_some_iff.1 found).1, own, ?_⟩
    exact PublishPhase.delivered_next.2 (Or.inl delivered)
  · exact ⟨first, (List.getElem?_set_ne same).trans there, own, delivered⟩

/-- What is delivered stays so, and a call that returns has delivered or been skipped. -/
theorem PublishedOnce.answer (exact : PublishedOnce key s) (marks : Marks hexdigest key s)
    (index : Nat) (answer : BrokerAnswer) : PublishedOnce key (s.answer index answer) := by
  have after := marks.answer index answer
  cases found : s.calls[index]? with
  | none =>
      unfold Bus.answer
      rw [found]
      exact exact
  | some call =>
      have more : (s.answer index answer).delivered key + call.copies key =
          s.delivered key +
            ({ call with phase := call.phase.next answer } : PublishCall ν).copies key :=
        delivered_answer answer found
      have mono : call.copies key ≤
          ({ call with phase := call.phase.next answer } : PublishCall ν).copies key :=
        copies_mono call answer
      have calls := calls_answer answer found
      refine ⟨after.once, fun i other atI own skipped => ?_,
        fun other present own published answered => ?_⟩
      · have before : ∃ other, s.calls[i]? = some other ∧ other.request.key = some key ∧
            other.phase = .returned false := by
          rw [calls] at atI
          rcases getElem?_set_cases atI with ⟨rfl, rfl⟩ | ⟨-, old⟩
          · exact ⟨call, found, own, PublishPhase.next_eq_skipped.1 skipped⟩
          · exact ⟨other, old, own, skipped⟩
        obtain ⟨other, old, own, skipped⟩ := before
        obtain ⟨earlier, first, lt, atE, firstKey, delivered⟩ :=
          exact.skipped i other old own skipped
        obtain ⟨first', still⟩ := delivered_kept answer found atE firstKey delivered
        exact ⟨earlier, first', lt, still⟩
      · have once := after.once
        have from_old : s.delivered key = 1 → (s.answer index answer).delivered key = 1 := by
          intro one
          omega
        rw [calls] at present
        rcases mem_set_cases present with rfl | ⟨j, -, atJ⟩
        · rcases PublishPhase.next_eq_returned answered with before | delivered
          · exact from_old (exact.settled call (List.mem_of_getElem? found) own published before)
          · rw [after.delivered_of_holds (calls ▸ mem_set_of_found found)
              (holds_of_delivered own delivered)]
            exact copies_eq_one.2 ⟨own, delivered⟩
        · exact from_old (exact.settled other (List.mem_of_getElem? atJ) own published answered)

theorem publishedOnce_step_iff {e : PublishEvent ν} (regular : Regular hexdigest key s e)
    (marks : Marks hexdigest key s) (exact : PublishedOnce key s) :
    PublishedOnce key (s.step hexdigest e) ↔ Undisturbed key s e := by
  cases e with
  | elapse time => exact iff_of_true ⟨exact.once, exact.skipped, exact.settled⟩ trivial
  | publish request => exact publishedOnce_publish_iff marks exact regular
  | answer index answer => exact iff_of_true (exact.answer marks index answer) trivial

theorem PublishedOnce.start (now : Int) : PublishedOnce key (.start now : Bus ν) where
  once := Nat.zero_le 1
  skipped _ _ found := by cases found
  settled _ mem := absurd mem List.not_mem_nil

end Holder

/-! ## Every run -/

/-- Deduplication suppresses published events only, all along a run within the time to live,
exactly when no call with the key comes upon one that is under way or has failed. -/
theorem publish_deduplicated_iff {ν : Type*} (hexdigest : String → String) (key : String)
    (now : Int) (events : List (PublishEvent ν))
    (regular : Guarded (Bus.step hexdigest) (Regular hexdigest key) (.start now) events) :
    (∀ first, first <+: events →
        PublishedOnce key (runFrom (Bus.step hexdigest) (.start now) first)) ↔
      Guarded (Bus.step hexdigest) (Undisturbed key) (.start now) events := by
  have keeps : ∀ (s : Bus ν) (e : PublishEvent ν), Regular hexdigest key s e →
      Marks hexdigest key s → Marks hexdigest key (s.step hexdigest e) :=
    fun _ _ regular marks => marks.step regular
  have exact_step : ∀ (s : Bus ν) (e : PublishEvent ν), Regular hexdigest key s e →
      Marks hexdigest key s → PublishedOnce key s →
        (PublishedOnce key (s.step hexdigest e) ↔ Undisturbed key s e) :=
    fun _ _ => publishedOnce_step_iff
  exact prefixes_iff_guarded_of_guarded keeps exact_step (Marks.start now)
    (PublishedOnce.start now) regular

section Retry

def signedUp : PublishRequest String := ⟨"auth.user_signed_up", "ana", some "signup:ana", none⟩

/-- The event is published, and published again a second later. -/
def publishedTwice (answers : List (PublishEvent String)) : List (PublishEvent String) :=
  .publish signedUp :: answers ++ [.elapse 1000, .publish signedUp]

theorem publish_deduplicated_after_delivery :
    (runFrom (Bus.step id) (.start 0) (publishedTwice
        [.answer 0 .succeeds, .answer 0 .succeeds, .answer 0 .succeeds])).exchange.length = 1 ∧
      ∀ first, first <+: publishedTwice
          [.answer 0 .succeeds, .answer 0 .succeeds, .answer 0 .succeeds] →
        PublishedOnce "signup:ana" (runFrom (Bus.step id) (.start 0) first) := by
  refine ⟨by decide, ?_⟩
  refine (publish_deduplicated_iff id "signup:ana" 0 _ ?_).2 ?_
  · refine ⟨⟨fun _ _ same => same, fun _ _ mem => absurd mem List.not_mem_nil⟩, trivial, trivial,
      trivial, trivial, ⟨fun _ _ same => same, fun _ call mem _ _ => ?_⟩, trivial⟩
    obtain rfl := List.mem_singleton.1 mem
    decide
  · refine ⟨fun _ _ mem => absurd mem List.not_mem_nil, trivial, trivial, trivial, trivial,
      fun _ call mem _ => Or.inr ?_, trivial⟩
    obtain rfl := List.mem_singleton.1 mem
    rfl

/-- The first attempt cannot connect, and the second is skipped although nothing was delivered. -/
theorem failed_publish_is_skipped :
    Guarded (Bus.step id) (Regular id "signup:ana") (.start 0)
        (publishedTwice [.answer 0 (.fails false)]) ∧
      ¬ PublishedOnce "signup:ana"
        (runFrom (Bus.step id) (.start 0) (publishedTwice [.answer 0 (.fails false)])) := by
  constructor
  · refine ⟨⟨fun _ _ same => same, fun _ _ mem => absurd mem List.not_mem_nil⟩, trivial, trivial,
      ⟨fun _ _ same => same, fun _ call mem _ _ => ?_⟩, trivial⟩
    obtain rfl := List.mem_singleton.1 mem
    decide
  · intro once
    obtain ⟨earlier, first, before, found, own, delivered⟩ := once.skipped 1 _ rfl rfl rfl
    obtain rfl : earlier = 0 := by omega
    cases found
    cases delivered

end Retry

end ColabPlatform.Common
