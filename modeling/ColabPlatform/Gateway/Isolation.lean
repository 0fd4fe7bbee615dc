import ColabPlatform.Foundation.Run
import ColabPlatform.Gateway.Identity

/-!
# Gateway: who may receive a cached reply

The idempotency middleware is added last, hence runs first and never finds a
user: every key is made for `anonymous`.  A reply is then replayed to whoever
presents the same method, path and key within a day.
-/

namespace ColabPlatform.Gateway

open Foundation Common

/-- The gateway and the requests it has served, first request first. -/
structure Traffic where
  world : World
  served : List (Arrival × Reply)

def Traffic.initial : Traffic := ⟨⟨.empty, []⟩, []⟩

def Traffic.step (env : Env) (s : Traffic) (a : Arrival) : Traffic :=
  { world := (serve env s.world a).2,
    served := s.served ++ [(a, (serve env s.world a).1)] }

/-- Whether the reply made for `origin` may be replayed to `a`. -/
def MayReceive (env : Env) (a origin : Arrival) : Prop :=
  match presentedUser env a, presentedUser env origin with
  | some b, some a => a.userId = b.userId
  | none, some _ => isPublicPath a.request.path
  | _, none => True

instance (env : Env) (a origin : Arrival) : Decidable (MayReceive env a origin) := by
  unfold MayReceive
  split <;> infer_instance

/-- No reply is a cached reply that its receiver may not have. -/
def RepliesIsolated (env : Env) (s : Traffic) : Prop :=
  ∀ p ∈ s.served, ∀ origin ∈ p.2.replayOf, MayReceive env p.1 origin

/-- The text from which the cache key of a request is computed. -/
def Arrival.cacheText (a : Arrival) : Option String :=
  a.request.idempotencyKey.map
    (Gateway.cacheText "anonymous" a.request.method a.request.path)

/--
A request does not repeat, within the lifetime of the cache, the method, path
and key of an executed and cached request whose reply it may not have.
-/
def Unshared (env : Env) (s : Traffic) (a : Arrival) : Prop :=
  ∀ p ∈ s.served, p.2.replayOf = none → keepsReply env p.1 →
    a.cacheText = p.1.cacheText → a.now < p.1.now + idempotencyTtl →
      MayReceive env a p.1

/-! ## Every cached reply has an origin -/

/-- What is cached under a key was executed for a request with that key. -/
def CacheTraced (env : Env) (s : Traffic) : Prop :=
  ∀ key entry, s.world.cache.entries key = some entry →
    ∃ p ∈ s.served, p.1 = entry.value.origin ∧ p.2.replayOf = none ∧
      keepsReply env p.1 ∧ p.1.cacheKey env = some key ∧
      entry.deadline = some (p.1.now + idempotencyTtl)

theorem makeCacheKey_injective {env : Env}
    {userId userId' method method' path path' key key' : String}
    (same : makeCacheKey env userId method path key =
      makeCacheKey env userId' method' path' key') :
    Gateway.cacheText userId method path key =
      Gateway.cacheText userId' method' path' key' := by
  unfold makeCacheKey at same
  exact env.sha256.injective (String.append_right_inj _ |>.1 same)

/-- Equal cache keys come from equal texts. -/
theorem cacheText_of_cacheKey {env : Env} {a b : Arrival} {key : String}
    (ha : a.cacheKey env = some key) (hb : b.cacheKey env = some key) :
    a.cacheText = b.cacheText := by
  obtain ⟨k, given, rfl⟩ := Option.map_eq_some_iff.1 ha
  obtain ⟨k', given', same⟩ := Option.map_eq_some_iff.1 hb
  have text := makeCacheKey_injective same
  simp only [Arrival.cacheText, given, given', Option.map_some]
  exact congrArg some text.symm

theorem cacheTraced_step {env : Env} {s : Traffic} (a : Arrival)
    (traced : CacheTraced env s) : CacheTraced env (s.step env a) := by
  have keep (key : String) (entry : Stamped CachedReply)
      (stored : s.world.cache.entries key = some entry) :
      ∃ p ∈ (s.step env a).served, p.1 = entry.value.origin ∧
        p.2.replayOf = none ∧ keepsReply env p.1 ∧ p.1.cacheKey env = some key ∧
        entry.deadline = some (p.1.now + idempotencyTtl) := by
    obtain ⟨p, mem, rest⟩ := traced key entry stored
    exact ⟨p, List.mem_append_left _ mem, rest⟩
  intro key entry stored
  cases found : a.cached env s.world with
  | some cached =>
      rw [Traffic.step, serve_of_cached found] at stored
      exact keep key entry stored
  | none =>
      rw [Traffic.step, serve_of_fresh found] at stored
      simp only [World.keep] at stored
      split at stored
      · rename_i own present
        split at stored
        · rename_i kept
          rw [KeyStore.entries_setEx] at stored
          split at stored
          · rename_i same
            obtain rfl := Option.some.inj stored
            refine ⟨(a, (serve env s.world a).1), by simp [Traffic.step], rfl, ?_,
              kept, same ▸ present, rfl⟩
            rw [serve_of_fresh found]
            exact freshReply_replayOf env a
          · exact keep key entry stored
        · exact keep key entry stored
      · exact keep key entry stored

/-- A replayed reply comes from an executed request with the same text. -/
theorem origin_of_cached {env : Env} {s : Traffic} {a : Arrival}
    {cached : CachedReply} (traced : CacheTraced env s)
    (hit : a.cached env s.world = some cached) :
    ∃ p ∈ s.served, p.1 = cached.origin ∧ p.2.replayOf = none ∧
      keepsReply env p.1 ∧ a.cacheText = p.1.cacheText ∧
      a.now < p.1.now + idempotencyTtl := by
  obtain ⟨key, present, found⟩ := Option.bind_eq_some_iff.1 hit
  obtain ⟨entry, stored, alive, rfl⟩ := KeyStore.get_eq_some_iff.1 found
  obtain ⟨p, mem, origin, fresh, kept, own, deadline⟩ := traced key entry stored
  refine ⟨p, mem, origin, fresh, kept, cacheText_of_cacheKey present own, ?_⟩
  simpa [KeyStore.Stamped.alive, deadline] using alive

/-! ## Isolation over runs -/

theorem repliesIsolated_step {env : Env} {s : Traffic} {a : Arrival}
    (unshared : Unshared env s a) (traced : CacheTraced env s)
    (isolated : RepliesIsolated env s) : RepliesIsolated env (s.step env a) := by
  intro p mem origin replayed
  rcases List.mem_append.1 mem with old | new
  · exact isolated p old origin replayed
  · obtain rfl := List.mem_singleton.1 new
    cases found : a.cached env s.world with
    | none =>
        simp [serve_of_fresh found, freshReply_replayOf] at replayed
    | some cached =>
        simp only [serve_of_cached found, Option.mem_def, Option.some.injEq]
          at replayed
        obtain ⟨q, served, executed, fresh, kept, text, alive⟩ :=
          origin_of_cached traced found
        rw [← replayed, ← executed]
        exact unshared q served fresh kept text alive

/--
Over every run in which no request repeats the method, path and key of a cached
request whose reply it may not have, no reply crosses from one user to another
or from a user to nobody.
-/
theorem repliesIsolated_of_unshared (env : Env) (arrivals : List Arrival)
    (guarded : Guarded (Traffic.step env) (Unshared env) .initial arrivals) :
    RepliesIsolated env (runFrom (Traffic.step env) .initial arrivals) := by
  have start : CacheTraced env .initial ∧ RepliesIsolated env .initial :=
    ⟨fun _ _ stored => by simp [Traffic.initial] at stored,
      fun _ mem => by simp [Traffic.initial] at mem⟩
  have preserved (s : Traffic) (a : Arrival) (unshared : Unshared env s a)
      (h : CacheTraced env s ∧ RepliesIsolated env s) :
      CacheTraced env (s.step env a) ∧ RepliesIsolated env (s.step env a) :=
    ⟨cacheTraced_step a h.1, repliesIsolated_step unshared h.1 h.2⟩
  exact (runFrom_invariant_of_guarded preserved start guarded).2

/-! ## One key, three callers -/

def checkoutArrival (headers : List (String × String)) : Arrival :=
  sampleArrival "POST" "/v1/billing/checkout"
    (("idempotency-key", "k1") :: headers) "\x7b\"card\":\"1234\"\x7d"

/-- The reply made for one user goes to a second user and to nobody's request. -/
theorem cached_reply_crosses_users :
    (¬ RepliesIsolated sampleEnv (runFrom (Traffic.step sampleEnv) .initial
      [checkoutArrival [("authorization", "Bearer alice")],
        checkoutArrival [("authorization", "Bearer bob")]])) ∧
    ¬ RepliesIsolated sampleEnv (runFrom (Traffic.step sampleEnv) .initial
      [checkoutArrival [("authorization", "Bearer alice")], checkoutArrival []]) := by
  unfold RepliesIsolated
  decide +kernel

theorem repliesIsolated_same_user :
    RepliesIsolated sampleEnv (runFrom (Traffic.step sampleEnv) .initial
      [checkoutArrival [("authorization", "Bearer alice")],
        checkoutArrival [("authorization", "Bearer alice")]]) := by
  refine repliesIsolated_of_unshared sampleEnv _ ⟨?_, ?_, trivial⟩
  · intro p mem
    simp [Traffic.initial] at mem
  · unfold Unshared
    decide +kernel

end ColabPlatform.Gateway
