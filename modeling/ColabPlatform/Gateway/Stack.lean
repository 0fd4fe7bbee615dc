import ColabPlatform.Gateway.Model

/-!
# Gateway: middleware, proxy and the assembled application

A middleware maps the rest of the application to a handler.  The application
inserts each added middleware at the front of its list and wraps from the back,
so the middleware added last runs first.
-/

namespace ColabPlatform.Gateway

open Foundation Common

/-! ## Proxy -/

/-- `_HOP_BY_HOP_HEADERS` -/
def hopByHopHeaders : List String :=
  ["connection", "keep-alive", "proxy-authenticate", "proxy-authorization", "te",
    "trailers", "transfer-encoding", "upgrade", "host"]

/-- The items of `request.headers` that are forwarded. -/
def Request.forwardedItems (r : Request) : List (String × String) :=
  (r.headers.map fun item => (lower item.1, item.2)).filter fun item =>
    decide (item.1 ∉ hopByHopHeaders)

def stampRequestId (requestId : Option String) (headers : OrderedDict String String) :
    OrderedDict String String :=
  match requestId with
  | some id => if id = "" then headers else headers.insert "X-Request-Id" id
  | none => headers

def stampUser (user : Option AuthUser) (headers : OrderedDict String String) :
    OrderedDict String String :=
  match user with
  | some user =>
      ((headers.insert "X-Gateway-User-Id" user.userId).insert
        "X-Gateway-User-Tier" user.tier).insert
          "X-Gateway-User-Roles" (join "," user.roles)
  | none => headers

def upstreamPath (route : RoutePolicy) (path : String) : String :=
  match route.upstreamPrefix with
  | some upstreamPrefix =>
      upstreamPrefix ++ dropChars path route.pathPrefix.length
  | none => if startsWith path "/v1/" then dropChars path 3 else path

def plainReply (status : Nat) (body : String) : Reply :=
  { status, body, replayOf := none }

/-- The body of a refusal by the proxy itself. -/
def proxyError (status : Nat) (code message : String) : Reply :=
  plainReply status ("\x7b\"error\":\x7b\"code\":\"" ++ code ++
    "\",\"message\":\"" ++ message ++ "\"\x7d\x7d")

/-- The route and URL a request is forwarded to, or the reply that refuses it. -/
def target (env : Env) (r : Request) : Except Reply (RoutePolicy × String) :=
  match findRoute r.path with
  | none => .error (proxyError 404 "NOT_FOUND" "No route for this path.")
  | some route =>
      match env.upstreamUrl route.upstream with
      | none =>
          .error (proxyError 503 "SERVICE_UNAVAILABLE" "Upstream not configured.")
      | some base =>
          .ok (route, base ++ upstreamPath route r.path ++
            if r.query = "" then "" else "?" ++ r.query)

def forwardRequest (r : Request) (state : RequestState) (url : String) :
    UpstreamRequest :=
  { method := r.method, url,
    headers := stampUser state.user (stampRequestId state.requestId
      (OrderedDict.ofItems r.forwardedItems)),
    body := r.body }

def proxyRequest (env : Env) : Handler := fun a state w =>
  match target env a.request with
  | .error reply => (.ok reply, w)
  | .ok (route, url) =>
      let u := forwardRequest a.request state url
      let w := { w with sent := w.sent ++ [u] }
      match a.upstream u with
      | none =>
          (.ok (proxyError 503 "SERVICE_UNAVAILABLE"
            (route.upstream ++ " is unavailable.")), w)
      | some reply => (.ok (plainReply reply.status reply.body), w)

/-- The endpoints of the gateway itself; their bodies are left out. -/
def localPaths : List String :=
  ["/healthz", "/ready", "/version", "/v1/flags", "/openapi.json"]

/-- The methods of the catch-all route. -/
def proxiedMethods : List String :=
  ["GET", "POST", "PUT", "PATCH", "DELETE", "OPTIONS", "HEAD"]

def router (env : Env) : Handler := fun a state w =>
  if a.request.method = "GET" ∧ a.request.path ∈ localPaths then
    (.ok (plainReply 200 ""), w)
  else if a.request.method ∈ proxiedMethods then proxyRequest env a state w
  else (.ok (plainReply 405 "Method Not Allowed"), w)

/-! ## Middleware -/

/-- `request.headers.get("X-Request-Id") or str(uuid.uuid4())` -/
def Arrival.incoming (a : Arrival) : String :=
  match a.request.header "X-Request-Id" with
  | some id => if id = "" then a.freshId else id
  | none => a.freshId

def requestIdMiddleware : Middleware := fun next a state w =>
  next a { state with requestId := some a.incoming } w

def Request.isPreflight (r : Request) : Bool :=
  decide (r.method = "OPTIONS") && (r.header "Origin").isSome &&
    (r.header "Access-Control-Request-Method").isSome

/-- The answer to a preflight: every method the library knows is allowed. -/
def preflightReply (env : Env) (r : Request) : Reply :=
  let refused :=
    (if (r.header "Origin").any (· ∈ env.allowOrigins) then [] else ["origin"]) ++
      if (r.header "Access-Control-Request-Method").any (· ∈ proxiedMethods) then []
      else ["method"]
  if refused = [] then plainReply 200 "OK"
  else plainReply 400 ("Disallowed CORS " ++ join ", " refused)

def corsMiddleware (env : Env) : Middleware := fun next a state w =>
  if a.request.isPreflight then (.ok (preflightReply env a.request), w)
  else next a state w

/-- Binds the request to the log and passes it on. -/
def structlogMiddleware : Middleware := fun next => next

/-- The bearer token, else the `colab-session` cookie. -/
def rawToken (env : Env) (r : Request) : Option String :=
  let authHeader := (r.header "Authorization").getD ""
  let token :=
    if startsWith authHeader "Bearer " then some (dropChars authHeader 7)
    else (r.header "Cookie").bind fun cookies => env.cookie cookies "colab-session"
  token.filter (· ≠ "")

/-- What `AuthMiddleware` decides: the user it stores, or the error it raises. -/
def authDispatch (env : Env) (now : Int) (r : Request) :
    Except AuthError (Option AuthUser) :=
  if r.path ∈ authBypassPaths then .ok none
  else match rawToken env r with
    | some token =>
        match authenticate env.jwt now token with
        | .ok user => .ok (some user)
        | .error e => if isPublicPath r.path then .ok none else .error e
    | none =>
        if isPublicPath r.path || (findRoute r.path).isNone then .ok none
        else .error .required

def authMiddleware (env : Env) : Middleware := fun next a state w =>
  match authDispatch env a.now a.request with
  | .ok (some user) => next a { state with user := some user } w
  | .ok none => next a state w
  | .error e => (.error (.auth e), w)

/-- `SKIP_PATHS` of the rate limiter. -/
def rateLimitSkipPaths : List String :=
  ["/healthz", "/ready", "/readyz", "/openapi.json", "/version"]

def rateLimitMiddleware : Middleware := fun next a state w =>
  if a.request.path ∈ rateLimitSkipPaths ∨ a.allowed then next a state w
  else (.error .rateLimit, w)

def idempotencyTtl : Int := 86400

def safeMethods : List String := ["GET", "HEAD", "OPTIONS"]

/-- The text under the digest in `_make_cache_key`. -/
def cacheText (userId method path idempotencyKey : String) : String :=
  userId ++ ":" ++ method ++ ":" ++ path ++ ":" ++ idempotencyKey

def makeCacheKey (env : Env) (userId method path idempotencyKey : String) :
    String :=
  "idempotency:" ++
    env.sha256.hex (cacheText userId method path idempotencyKey)

/-- A mutating request with a nonempty `Idempotency-Key`. -/
def Request.idempotencyKey (r : Request) : Option String :=
  if r.method ∈ safeMethods then none
  else (r.header "Idempotency-Key").filter (· ≠ "")

def RequestState.userId (state : RequestState) : String :=
  match state.user with
  | some user => user.userId
  | none => "anonymous"

def Reply.success (reply : Reply) : Bool :=
  200 ≤ reply.status && reply.status < 300

def idempotencyMiddleware (env : Env) : Middleware := fun next a state w =>
  match a.request.idempotencyKey with
  | none => next a state w
  | some idempotencyKey =>
      let key := makeCacheKey env state.userId a.request.method a.request.path
        idempotencyKey
      match w.cache.get a.now key with
      | some cached =>
          (.ok { status := cached.status, body := cached.body,
                 replayOf := some cached.origin }, w)
      | none =>
          match next a state w with
          | (.error e, w) => (.error e, w)
          | (.ok reply, w) =>
              if reply.success then
                let body := env.toJson reply.body
                (.ok { reply with body },
                  { w with
                    cache := w.cache.setEx a.now idempotencyTtl key
                      { status := reply.status, body, origin := a } })
              else (.ok reply, w)

/-! ## The application of `main.py` -/

/-- `add_middleware` -/
def addMiddleware (stack : List Middleware) (m : Middleware) : List Middleware :=
  m :: stack

/-- `build_middleware_stack` -/
def buildStack (stack : List Middleware) (app : Handler) : Handler :=
  stack.reverse.foldl (fun app m => m app) app

def middlewareStack (env : Env) : List Middleware :=
  [requestIdMiddleware, corsMiddleware env, structlogMiddleware, authMiddleware env,
    rateLimitMiddleware, idempotencyMiddleware env].foldl addMiddleware []

def application (env : Env) : Handler :=
  buildStack (middlewareStack env) (router env)

/-- `unhandled_error_handler`, where the request has no id yet. -/
def unhandledErrorReply (e : GatewayError) : Reply :=
  plainReply 500 ("\x7b\"error\":\x7b\"code\":\"INTERNAL_ERROR\",\"message\":\"" ++
    e.message ++ "\",\"details\":\x7b\x7d,\"request_id\":\"\"\x7d\x7d")

/-- Errors raised by a middleware reach the outermost handler. -/
def serve (env : Env) (w : World) (a : Arrival) : Reply × World :=
  match application env a .initial w with
  | (.ok reply, w) => (reply, w)
  | (.error e, w) => (unhandledErrorReply e, w)

/-- The order in which a request meets the middleware. -/
theorem application_eq (env : Env) :
    application env =
      idempotencyMiddleware env (rateLimitMiddleware (authMiddleware env
        (structlogMiddleware (corsMiddleware env (requestIdMiddleware
          (router env)))))) := rfl

end ColabPlatform.Gateway
