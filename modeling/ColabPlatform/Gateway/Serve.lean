import ColabPlatform.Gateway.Stack

/-!
# Gateway: what is served behind the cache

The idempotency middleware runs first, so everything else of the application is
its inner handler.  That handler never touches the cache: what it replies and
what it sends depend on the arrival alone (`behindCache_eq`), and the whole
application is that outcome behind one look into the cache.
-/

namespace ColabPlatform.Gateway

open Foundation Common

/-- The application without the idempotency middleware. -/
def behindCache (env : Env) : Handler :=
  rateLimitMiddleware (authMiddleware env (structlogMiddleware
    (corsMiddleware env (requestIdMiddleware (router env)))))

def World.sending (w : World) (requests : List UpstreamRequest) : World :=
  { w with sent := w.sent ++ requests }

@[simp] theorem World.sending_nil (w : World) : w.sending [] = w := by
  simp [World.sending]

@[simp] theorem World.sending_sent (w : World) (requests : List UpstreamRequest) :
    (w.sending requests).sent = w.sent ++ requests := rfl

@[simp] theorem World.sending_cache (w : World) (requests : List UpstreamRequest) :
    (w.sending requests).cache = w.cache := rfl

/-! ## Admission and forwarding -/

/-- `AuthMiddleware` stores exactly the users of tokens that verify. -/
theorem authDispatch_eq_user_iff {env : Env} {now : Int} {r : Request}
    {user : AuthUser} :
    authDispatch env now r = .ok (some user) ↔
      r.path ∉ authBypassPaths ∧ ∃ token, rawToken env r = some token ∧
        authenticate env.jwt now token = .ok user := by
  unfold authDispatch
  by_cases bypass : r.path ∈ authBypassPaths
  · simp [bypass]
  cases presented : rawToken env r with
  | none => cases isPublicPath r.path <;> cases findRoute r.path <;> simp [bypass]
  | some token =>
      cases verified : authenticate env.jwt now token with
      | ok found => simp [bypass, verified]
      | error e => cases isPublicPath r.path <;> simp [bypass, verified]

/-- The user with whom a request passes the rate limiter and authentication. -/
def admission (env : Env) (a : Arrival) :
    Except GatewayError (Option AuthUser) :=
  if a.request.path ∈ rateLimitSkipPaths ∨ a.allowed then
    (authDispatch env a.now a.request).mapError .auth
  else .error .rateLimit

/-- The requests that the catch-all route hands to the proxy. -/
def Request.isProxied (r : Request) : Prop :=
  r.isPreflight = false ∧ ¬ (r.method = "GET" ∧ r.path ∈ localPaths) ∧
    r.method ∈ proxiedMethods

instance (r : Request) : Decidable r.isProxied := by
  unfold Request.isProxied
  infer_instance

/-- The request that reaches an upstream service, if one does. -/
def forwarded (env : Env) (a : Arrival) : Option UpstreamRequest :=
  match admission env a, target env a.request with
  | .ok user, .ok (_, url) =>
      if a.request.isProxied then
        some (forwardRequest a.request ⟨user, some a.incoming⟩ url)
      else none
  | _, _ => none

/-- What an admitted request is answered. -/
def answer (env : Env) (a : Arrival) (user : Option AuthUser) : Reply :=
  if a.request.isPreflight then preflightReply env a.request
  else if a.request.method = "GET" ∧ a.request.path ∈ localPaths then
    plainReply 200 ""
  else if a.request.method ∈ proxiedMethods then
    match target env a.request with
    | .error reply => reply
    | .ok (route, url) =>
        match a.upstream (forwardRequest a.request ⟨user, some a.incoming⟩ url) with
        | none =>
            proxyError 503 "SERVICE_UNAVAILABLE"
              (route.upstream ++ " is unavailable.")
        | some reply => plainReply reply.status reply.body
  else plainReply 405 "Method Not Allowed"

theorem behindCache_eq (env : Env) (a : Arrival) (w : World) :
    behindCache env a .initial w =
      ((admission env a).map (answer env a), w.sending (forwarded env a).toList) := by
  unfold behindCache rateLimitMiddleware admission
  split
  case isFalse limited => simp [forwarded, admission, limited, Except.map]
  case isTrue free =>
    have same : admission env a =
        (authDispatch env a.now a.request).mapError .auth := by
      simp [admission, free]
    unfold authMiddleware
    cases decided : authDispatch env a.now a.request with
    | error e => simp [forwarded, same, decided, Except.map, Except.mapError]
    | ok user =>
        have enter (state : RequestState) (h : state = ⟨user, none⟩) :
            structlogMiddleware (corsMiddleware env (requestIdMiddleware
                (router env))) a state w =
              (.ok (answer env a user), w.sending (forwarded env a).toList) := by
          subst h
          simp only [structlogMiddleware, corsMiddleware, requestIdMiddleware,
            router, proxyRequest, answer, forwarded, same, decided,
            Except.mapError]
          by_cases preflight : a.request.isPreflight
          · cases target env a.request <;>
              simp [preflight, Request.isProxied]
          by_cases here : a.request.method = "GET" ∧ a.request.path ∈ localPaths
          · cases target env a.request <;>
              simp [preflight, here, Request.isProxied]
          by_cases proxied : a.request.method ∈ proxiedMethods
          · cases target env a.request with
            | error reply => simp [preflight, here, proxied]
            | ok found =>
                cases replied : a.upstream
                    (forwardRequest a.request ⟨user, some a.incoming⟩ found.2) <;>
                  simp [preflight, here, proxied, replied, Request.isProxied,
                    World.sending]
          · cases target env a.request <;>
              simp [preflight, here, proxied, Request.isProxied]
        cases user with
        | none => simpa [Except.map, Except.mapError] using enter .initial rfl
        | some user =>
            simpa [Except.map, Except.mapError] using
              enter { RequestState.initial with user := some user } rfl

/-! ## The cache in front -/

/-- The key under which a request is cached. -/
def Arrival.cacheKey (env : Env) (a : Arrival) : Option String :=
  a.request.idempotencyKey.map
    (makeCacheKey env RequestState.initial.userId a.request.method a.request.path)

def Arrival.cached (env : Env) (w : World) (a : Arrival) : Option CachedReply :=
  (a.cacheKey env).bind (w.cache.get a.now)

theorem serve_of_cached {env : Env} {w : World} {a : Arrival}
    {cached : CachedReply} (hit : a.cached env w = some cached) :
    serve env w a =
      ({ status := cached.status, body := cached.body,
         replayOf := some cached.origin }, w) := by
  obtain ⟨key, present, found⟩ := Option.bind_eq_some_iff.1 hit
  obtain ⟨idempotencyKey, given, rfl⟩ := Option.map_eq_some_iff.1 present
  simp [serve, application_eq, idempotencyMiddleware, given, found]

/-- What a request without a cached reply is answered. -/
def freshReply (env : Env) (a : Arrival) : Reply :=
  match admission env a with
  | .error e => unhandledErrorReply e
  | .ok user =>
      let reply := answer env a user
      if (a.cacheKey env).isSome ∧ reply.success then
        { reply with body := env.toJson reply.body }
      else reply

/-- Whether the reply to a request without a cached one is kept. -/
def keepsReply (env : Env) (a : Arrival) : Bool :=
  (a.cacheKey env).isSome && match admission env a with
    | .error _ => false
    | .ok user => (answer env a user).success

def keptReply (env : Env) (a : Arrival) : CachedReply :=
  { status := (freshReply env a).status, body := (freshReply env a).body,
    origin := a }

def World.keep (w : World) (env : Env) (a : Arrival) : World :=
  match a.cacheKey env with
  | some key =>
      if keepsReply env a then
        { w with
          cache := w.cache.setEx a.now idempotencyTtl key (keptReply env a) }
      else w
  | none => w

theorem serve_of_fresh {env : Env} {w : World} {a : Arrival}
    (miss : a.cached env w = none) :
    serve env w a =
      (freshReply env a, (w.sending (forwarded env a).toList).keep env a) := by
  have inner := behindCache_eq env a w
  unfold behindCache at inner
  simp only [serve, application_eq, idempotencyMiddleware, inner]
  cases given : a.request.idempotencyKey with
  | none =>
      have key : a.cacheKey env = none := by simp [Arrival.cacheKey, given]
      cases admitted : admission env a <;>
        simp [freshReply, World.keep, key, admitted, Except.map]
  | some idempotencyKey =>
      have key : a.cacheKey env = some (makeCacheKey env
          RequestState.initial.userId a.request.method a.request.path
          idempotencyKey) := by
        simp [Arrival.cacheKey, given]
      have absent := miss
      simp only [Arrival.cached, key, Option.bind_some] at absent
      simp only [absent, World.keep, key]
      cases admitted : admission env a with
      | error e => simp [freshReply, keepsReply, admitted, Except.map]
      | ok user =>
          by_cases success : (answer env a user).success <;>
            simp [freshReply, keptReply, keepsReply, admitted, key, success,
              Except.map]

theorem target_error_replayOf {env : Env} {r : Request} {reply : Reply}
    (refused : target env r = .error reply) : reply.replayOf = none := by
  unfold target at refused
  split at refused
  · obtain rfl := Except.error.inj refused
    rfl
  · split at refused
    · obtain rfl := Except.error.inj refused
      rfl
    · cases refused

theorem answer_replayOf (env : Env) (a : Arrival) (user : Option AuthUser) :
    (answer env a user).replayOf = none := by
  unfold answer
  split
  · dsimp only [preflightReply]
    split_ifs <;> rfl
  · split
    · rfl
    · split
      · split
        · rename_i refused
          exact target_error_replayOf refused
        · split <;> rfl
      · rfl

theorem freshReply_replayOf (env : Env) (a : Arrival) :
    (freshReply env a).replayOf = none := by
  unfold freshReply
  split
  · rfl
  · dsimp only
    split <;> simp [answer_replayOf]

@[simp] theorem World.keep_sent (w : World) (env : Env) (a : Arrival) :
    (w.keep env a).sent = w.sent := by
  unfold World.keep
  split
  · split <;> rfl
  · rfl

/-- What serving a request sends upstream. -/
theorem serve_sent (env : Env) (w : World) (a : Arrival) :
    (serve env w a).2.sent =
      w.sent ++ if (a.cached env w).isSome then [] else (forwarded env a).toList := by
  cases found : a.cached env w with
  | none => simp [serve_of_fresh found]
  | some cached => simp [serve_of_cached found]

end ColabPlatform.Gateway
