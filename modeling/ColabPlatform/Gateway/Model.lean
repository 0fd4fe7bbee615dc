import ColabPlatform.Common.Auth
import ColabPlatform.Foundation.KeyStore
import ColabPlatform.Foundation.OrderedDict

/-!
# Gateway: requests, replies, handlers and routes

A request arrives together with everything about its processing that the
gateway does not decide: the time, the answer of the rate limiter, the request
id it may draw and the behaviour of the upstream services.  Header names reach
the application in lower case, as the ASGI server delivers them.
-/

namespace ColabPlatform.Gateway

open Foundation Common

structure Request where
  method : String
  path : String
  query : String
  headers : List (String × String)
  body : String
  deriving DecidableEq, Repr

/-- The value of the first header of this name, whatever its letter case. -/
def Request.header (r : Request) (name : String) : Option String :=
  (r.headers.find? fun item => lower item.1 = lower name).map Prod.snd

/-- A request as sent to an upstream service. -/
structure UpstreamRequest where
  method : String
  url : String
  headers : OrderedDict String String
  body : String
  deriving DecidableEq, Repr

/-- All values that a reader of the header `name` can see. -/
def UpstreamRequest.values (u : UpstreamRequest) (name : String) : List String :=
  (u.headers.filter fun item => lower item.1 = lower name).map Prod.snd

structure UpstreamReply where
  status : Nat
  body : String
  deriving DecidableEq, Repr

structure Arrival where
  request : Request
  now : Int
  allowed : Bool
  freshId : String
  upstream : UpstreamRequest → Option UpstreamReply

/-- `replayOf` is the arrival whose cached reply is being replayed. -/
structure Reply where
  status : Nat
  body : String
  replayOf : Option Arrival

inductive GatewayError where
  | auth (error : AuthError)
  | rateLimit
  deriving DecidableEq, Repr

def GatewayError.message : GatewayError → String
  | auth error => error.message
  | rateLimit => "Rate limit exceeded. Please slow down."

/-- `request.state` -/
structure RequestState where
  user : Option AuthUser
  requestId : Option String
  deriving DecidableEq, Repr

/-- What the idempotency cache holds; `origin` is the arrival that filled it. -/
structure CachedReply where
  status : Nat
  body : String
  origin : Arrival

structure World where
  cache : KeyStore String CachedReply
  sent : List UpstreamRequest

/-- The libraries and settings the gateway relies on. -/
structure Env where
  jwt : Jwt
  sha256 : Digest
  /-- The value of a cookie in a `Cookie` header. -/
  cookie : String → String → Option String
  /-- The JSON text of a body, `{"raw": …}` when it is not JSON. -/
  toJson : String → String
  allowOrigins : List String
  upstreamUrl : String → Option String

abbrev Handler :=
  Arrival → RequestState → World → Except GatewayError Reply × World

abbrev Middleware := Handler → Handler

/-- `getattr(request.state, "user", None)` of a new request. -/
def RequestState.initial : RequestState := ⟨none, none⟩

/-! ## The routing table -/

structure RoutePolicy where
  pathPrefix : String
  upstream : String
  authRequired : Bool
  publicPaths : List String
  upstreamPrefix : Option String
  deriving DecidableEq, Repr

/-- A route that requires a user and only strips the leading `/v1`. -/
def plainRoute (pathPrefix upstream : String) : RoutePolicy :=
  { pathPrefix, upstream, authRequired := true, publicPaths := [],
    upstreamPrefix := none }

/-- `ROUTES` -/
def routes : List RoutePolicy :=
  [{ pathPrefix := "/v1/auth", upstream := "auth", authRequired := false,
     publicPaths := ["/v1/auth/sign-in", "/v1/auth/sign-up", "/v1/auth/verify",
       "/v1/auth/refresh"],
     upstreamPrefix := some "/auth" },
    { plainRoute "/v1/profile" "profile" with
      upstreamPrefix := some "/api/v1/profile" },
    plainRoute "/v1/identity" "identity",
    { plainRoute "/v1/feed" "discovery" with upstreamPrefix := some "/feed" },
    plainRoute "/v1/match" "matching",
    plainRoute "/v1/invite" "invite",
    plainRoute "/v1/collab" "collab",
    plainRoute "/v1/chat" "chat",
    plainRoute "/v1/media" "media",
    plainRoute "/v1/ai" "ai",
    plainRoute "/v1/moderation" "moderation",
    plainRoute "/v1/notification" "notification",
    { plainRoute "/v1/billing" "billing" with
      publicPaths := ["/v1/billing/webhooks/stripe",
        "/v1/billing/webhooks/revenuecat"] },
    plainRoute "/v1/support" "support",
    plainRoute "/v1/admin" "admin",
    plainRoute "/v1/geo" "geo",
    plainRoute "/v1/meeting" "meeting",
    plainRoute "/v1/analytics" "analytics",
    { plainRoute "/v1/hello" "hello" with authRequired := false }]

/-- First match wins. -/
def findRoute (path : String) : Option RoutePolicy :=
  routes.find? fun route => startsWith path route.pathPrefix

/-- `AUTH_BYPASS_PATHS` -/
def authBypassPaths : List String :=
  ["/healthz", "/ready", "/readyz", "/openapi.json", "/version", "/v1/flags",
    "/docs", "/redoc"]

/-- Whether a path may be requested without a user. -/
def isPublicPath (path : String) : Bool :=
  match findRoute path with
  | some route => !route.authRequired || decide (path ∈ route.publicPaths)
  | none => false

end ColabPlatform.Gateway
