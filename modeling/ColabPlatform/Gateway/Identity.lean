import ColabPlatform.Gateway.Serve

/-!
# Gateway: the identity that reaches the upstream services

The proxy copies the client's headers, whose names arrive in lower case, into a
dictionary with exact keys and stamps `X-Gateway-*` on top.  A client header of
one of the identity names therefore survives beside the stamped one, and
`X-User-Id` is never stamped at all.
-/

namespace ColabPlatform.Gateway

open Foundation Common

/-- The headers that upstream services read as the identity of the caller. -/
def identityHeaders : List String :=
  ["X-User-Id", "X-Gateway-User-Id", "X-Gateway-User-Roles",
    "X-Gateway-User-Tier"]

/-- The user that the token of a request identifies. -/
def presentedUser (env : Env) (a : Arrival) : Option AuthUser :=
  (rawToken env a.request).bind fun token =>
    (authenticate env.jwt a.now token).toOption

/-- What an identity header says about a user. -/
def identityValue (name : String) (user : AuthUser) : String :=
  if lower name = lower "X-Gateway-User-Roles" then join "," user.roles
  else if lower name = lower "X-Gateway-User-Tier" then user.tier
  else user.userId

/-- The requests that serving one arrival sends upstream. -/
def sentBy (env : Env) (w : World) (a : Arrival) : List UpstreamRequest :=
  (serve env w a).2.sent.drop w.sent.length

/-- Every identity header sent upstream carries what the verified token says. -/
def IdentityIntact (env : Env) (w : World) (a : Arrival) : Prop :=
  ∀ u ∈ sentBy env w a, ∀ name ∈ identityHeaders, ∀ value ∈ u.values name,
    (presentedUser env a).map (identityValue name) = some value

/-- The value a client supplies for a header, the last of them if several. -/
def Request.supplied (r : Request) (name : String) : Option String :=
  OrderedDict.lastValue r.forwardedItems (lower name)

/-- Every identity header of the client says what its verified token says. -/
def HonestHeaders (env : Env) (a : Arrival) : Prop :=
  ∀ name ∈ identityHeaders, ∀ value, a.request.supplied name = some value →
    (presentedUser env a).map (identityValue name) = some value

/-- No cached reply, admitted, handed to the proxy, and with a known upstream. -/
def reachesUpstream (env : Env) (w : World) (a : Arrival) : Prop :=
  a.cached env w = none ∧ (admission env a).toOption.isSome ∧
    (target env a.request).toOption.isSome ∧ a.request.isProxied

/-- The headers other than those of identity. -/
def withoutIdentity (headers : List (String × String)) : List (String × String) :=
  headers.filter fun item => decide (lower item.1 ∉ identityHeaders.map lower)

def Arrival.withHeaders (a : Arrival) (headers : List (String × String)) : Arrival :=
  { a with request := { a.request with headers } }

/-! ## The stamped headers -/

def stamps (user : Option AuthUser) (requestId : String) :
    List (String × String) :=
  (if requestId = "" then [] else [("X-Request-Id", requestId)]) ++
    match user with
    | some user =>
        [("X-Gateway-User-Id", user.userId), ("X-Gateway-User-Tier", user.tier),
          ("X-Gateway-User-Roles", join "," user.roles)]
    | none => []

/-- Every client header keeps its lower-case name, so no stamp replaces one. -/
theorem stamped_eq {dict : OrderedDict String String}
    (lowered : ∀ item ∈ dict, lower item.1 = item.1) (user : Option AuthUser)
    (requestId : String) :
    stampUser user (stampRequestId (some requestId) dict) =
      dict ++ stamps user requestId := by
  have absent (name : String) (upper : lower name ≠ name) :
      name ∉ dict.map Prod.fst := fun mem => by
    obtain ⟨item, present, rfl⟩ := List.mem_map.1 mem
    exact upper (lowered item present)
  have first : stampRequestId (some requestId) dict =
      dict ++ if requestId = "" then [] else [("X-Request-Id", requestId)] := by
    by_cases empty : requestId = ""
    · simp [stampRequestId, empty]
    · simp [stampRequestId, empty,
        OrderedDict.insert_of_absent (absent "X-Request-Id" (by decide))]
  rw [first]
  cases user with
  | none => simp [stampUser, stamps]
  | some user =>
      have noId := absent "X-Gateway-User-Id" (by decide)
      have noTier := absent "X-Gateway-User-Tier" (by decide)
      have noRoles := absent "X-Gateway-User-Roles" (by decide)
      by_cases empty : requestId = "" <;>
        simp_all [stampUser, stamps, OrderedDict.insert]

theorem ofItems_lowered {r : Request} :
    ∀ item ∈ OrderedDict.ofItems r.forwardedItems, lower item.1 = item.1 := by
  intro item mem
  have kept := OrderedDict.mem_of_lastValue (OrderedDict.mem_ofItems.1 mem)
  have given := (List.mem_filter.1 kept).1
  obtain ⟨source, -, eq⟩ := List.mem_map.1 given
  have name : lower source.1 = item.1 := congrArg Prod.fst eq
  rw [← name, lower_lower]

theorem forwardRequest_headers (r : Request) (user : Option AuthUser)
    (requestId url : String) :
    (forwardRequest r ⟨user, some requestId⟩ url).headers =
      OrderedDict.ofItems r.forwardedItems ++ stamps user requestId :=
  stamped_eq ofItems_lowered user requestId

/-- A reader of an identity header sees the client's copy beside the stamp. -/
theorem mem_values_forwardRequest {r : Request} {user : Option AuthUser}
    {requestId url name value : String} :
    value ∈ (forwardRequest r ⟨user, some requestId⟩ url).values name ↔
      r.supplied name = some value ∨
        ∃ item ∈ stamps user requestId, lower item.1 = lower name ∧
          item.2 = value := by
  unfold UpstreamRequest.values
  rw [forwardRequest_headers, List.filter_append, List.map_append,
    List.mem_append]
  refine or_congr ⟨fun mem => ?_, fun given => ?_⟩ (by simp [and_assoc])
  · obtain ⟨item, kept, rfl⟩ := List.mem_map.1 mem
    obtain ⟨present, same⟩ := List.mem_filter.1 kept
    have name_eq : item.1 = lower name := by
      rw [← ofItems_lowered item present]
      simpa using same
    exact OrderedDict.mem_ofItems.1 (name_eq ▸ present)
  · refine List.mem_map.2 ⟨(lower name, value), List.mem_filter.2 ⟨?_, ?_⟩, rfl⟩
    · exact OrderedDict.mem_ofItems.2 given
    · simp [lower_lower]

/-- The stamps carry the values of the user they are made from. -/
theorem stamps_honest {user : Option AuthUser} {requestId name : String}
    (identity : name ∈ identityHeaders) {item : String × String}
    (mem : item ∈ stamps user requestId) (same : lower item.1 = lower name) :
    user.map (identityValue name) = some item.2 := by
  have other : lower "X-Request-Id" ≠ lower name :=
    (by decide : ∀ name ∈ identityHeaders, lower "X-Request-Id" ≠ lower name)
      name identity
  have stamped : item ∈ stamps user "" := by
    rcases List.mem_append.1 mem with id | stamp
    · by_cases empty : requestId = ""
      · simp [empty] at id
      · simp only [empty, if_false, List.mem_singleton] at id
        exact absurd (by simpa [id] using same) other
    · exact List.mem_append_right _ stamp
  cases user with
  | none => simp [stamps] at stamped
  | some user =>
      simp only [stamps, if_true, List.nil_append, List.mem_cons,
        List.not_mem_nil, or_false] at stamped
      rcases stamped with rfl | rfl | rfl <;>
        simp only [identityValue, ← same, Option.map_some] <;>
        congr 1

/-! ## What is sent -/

theorem sentBy_eq (env : Env) (w : World) (a : Arrival) :
    sentBy env w a =
      if (a.cached env w).isSome then [] else (forwarded env a).toList := by
  rw [sentBy, serve_sent, List.drop_left]

theorem forwarded_eq_some_iff {env : Env} {a : Arrival} {u : UpstreamRequest} :
    forwarded env a = some u ↔
      ∃ user found, admission env a = .ok user ∧ target env a.request = .ok found ∧
        a.request.isProxied ∧
        u = forwardRequest a.request ⟨user, some a.incoming⟩ found.2 := by
  unfold forwarded
  cases admission env a with
  | error e => simp
  | ok user =>
      cases target env a.request with
      | error reply => simp
      | ok found =>
          by_cases proxied : a.request.isProxied <;> simp [proxied, eq_comm]

theorem mem_sentBy_iff {env : Env} {w : World} {a : Arrival}
    {u : UpstreamRequest} :
    u ∈ sentBy env w a ↔ a.cached env w = none ∧ forwarded env a = some u := by
  rw [sentBy_eq]
  cases a.cached env w <;> simp

theorem sentBy_of_reachesUpstream {env : Env} {w : World} {a : Arrival}
    (reaches : reachesUpstream env w a) :
    ∃ user found, admission env a = .ok user ∧ target env a.request = .ok found ∧
      sentBy env w a =
        [forwardRequest a.request ⟨user, some a.incoming⟩ found.2] := by
  obtain ⟨miss, admitted, known, proxied⟩ := reaches
  rw [sentBy_eq, miss]
  unfold forwarded
  cases decided : admission env a with
  | error e => simp [decided, Except.toOption] at admitted
  | ok user =>
      cases located : target env a.request with
      | error reply => simp [located, Except.toOption] at known
      | ok found => exact ⟨user, found, rfl, rfl, by simp [proxied]⟩

theorem reachesUpstream_iff {env : Env} {w : World} {a : Arrival} :
    reachesUpstream env w a ↔ ∃ u, u ∈ sentBy env w a := by
  simp only [mem_sentBy_iff, forwarded_eq_some_iff, reachesUpstream]
  cases admission env a <;> cases target env a.request <;>
    simp [Except.toOption]

/-- The user that authentication stores is the one the token identifies. -/
theorem presentedUser_of_admission {env : Env} {a : Arrival} {user : AuthUser}
    (admitted : admission env a = .ok (some user)) :
    presentedUser env a = some user := by
  unfold admission at admitted
  split at admitted
  · obtain ⟨-, token, presented, verified⟩ :=
      authDispatch_eq_user_iff.1 (mapError_eq_ok.1 admitted)
    simp [presentedUser, presented, verified, Except.toOption]
  · cases admitted

theorem identityIntact_iff (env : Env) (w : World) (a : Arrival) :
    IdentityIntact env w a ↔ (reachesUpstream env w a → HonestHeaders env a) := by
  constructor
  · intro intact reaches name identity value given
    obtain ⟨u, sent⟩ := reachesUpstream_iff.1 reaches
    refine intact u sent name identity value ?_
    obtain ⟨user, found, -, -, -, rfl⟩ :=
      forwarded_eq_some_iff.1 (mem_sentBy_iff.1 sent).2
    exact mem_values_forwardRequest.2 (Or.inl given)
  · intro honest u sent name identity value carried
    obtain ⟨user, found, admitted, -, -, rfl⟩ :=
      forwarded_eq_some_iff.1 (mem_sentBy_iff.1 sent).2
    rcases mem_values_forwardRequest.1 carried with given | ⟨item, mem, same, rfl⟩
    · exact honest (reachesUpstream_iff.2 ⟨_, sent⟩) name identity value given
    · have stamp := stamps_honest identity mem same
      cases user with
      | none => simp at stamp
      | some user => rwa [presentedUser_of_admission admitted]

/-! ## Requests that differ in their identity headers only -/

section Noninterference

variable {headers headers' : List (String × String)}

variable {a : Arrival}

theorem header_congr (same : withoutIdentity headers' = withoutIdentity headers)
    {name : String} (other : lower name ∉ identityHeaders.map lower) :
    (a.withHeaders headers').request.header name =
      (a.withHeaders headers).request.header name := by
  have skip (hs : List (String × String)) :
      hs.find? (fun item => lower item.1 = lower name) =
        (withoutIdentity hs).find? fun item => lower item.1 = lower name := by
    rw [withoutIdentity, List.find?_filter]
    congr 1
    funext item
    by_cases found : lower item.1 = lower name <;> simp [found, other]
  simp only [Request.header, Arrival.withHeaders]
  rw [skip headers', skip headers, same]

theorem incoming_congr (same : withoutIdentity headers' = withoutIdentity headers) :
    (a.withHeaders headers').incoming = (a.withHeaders headers).incoming := by
  have id := header_congr (a := a) same (by decide : lower "X-Request-Id" ∉ _)
  simp only [Arrival.incoming, id]
  rfl

theorem rawToken_congr (env : Env)
    (same : withoutIdentity headers' = withoutIdentity headers) :
    rawToken env (a.withHeaders headers').request =
      rawToken env (a.withHeaders headers).request := by
  have bearer := header_congr (a := a) same (by decide : lower "Authorization" ∉ _)
  have cookie := header_congr (a := a) same (by decide : lower "Cookie" ∉ _)
  simp only [rawToken, bearer, cookie]

theorem admission_congr (env : Env)
    (same : withoutIdentity headers' = withoutIdentity headers) :
    admission env (a.withHeaders headers') = admission env (a.withHeaders headers) := by
  have token := rawToken_congr (a := a) env same
  simp only [admission, authDispatch, token]
  rfl

theorem isProxied_congr (same : withoutIdentity headers' = withoutIdentity headers) :
    (a.withHeaders headers').request.isProxied =
      (a.withHeaders headers).request.isProxied := by
  have origin := header_congr (a := a) same (by decide : lower "Origin" ∉ _)
  have asked := header_congr (a := a) same
    (by decide : lower "Access-Control-Request-Method" ∉ _)
  simp only [Request.isProxied, Request.isPreflight, origin, asked]
  rfl

theorem cached_congr (env : Env) (w : World)
    (same : withoutIdentity headers' = withoutIdentity headers) :
    (a.withHeaders headers').cached env w = (a.withHeaders headers).cached env w := by
  have key : (a.withHeaders headers').request.idempotencyKey =
      (a.withHeaders headers).request.idempotencyKey := by
    have given := header_congr (a := a) same
      (by decide : lower "Idempotency-Key" ∉ _)
    simp only [Request.idempotencyKey, given]
    rfl
  simp only [Arrival.cached, Arrival.cacheKey, key]
  rfl

theorem reachesUpstream_congr (env : Env) (w : World)
    (same : withoutIdentity headers' = withoutIdentity headers) :
    reachesUpstream env w (a.withHeaders headers') ↔
      reachesUpstream env w (a.withHeaders headers) := by
  simp only [reachesUpstream, cached_congr env w same, admission_congr env same,
    isProxied_congr same]
  exact Iff.rfl

/-- The two requests are forwarded alike exactly when their merged headers agree. -/
theorem sentBy_congr_iff (env : Env) (w : World)
    (same : withoutIdentity headers' = withoutIdentity headers) :
    sentBy env w (a.withHeaders headers') = sentBy env w (a.withHeaders headers) ↔
      (reachesUpstream env w (a.withHeaders headers) →
        OrderedDict.ofItems (a.withHeaders headers').request.forwardedItems =
          OrderedDict.ofItems (a.withHeaders headers).request.forwardedItems) := by
  by_cases reaches : reachesUpstream env w (a.withHeaders headers)
  · obtain ⟨user, found, admitted, known, sent⟩ := sentBy_of_reachesUpstream reaches
    obtain ⟨user', found', admitted', known', sent'⟩ := sentBy_of_reachesUpstream
      ((reachesUpstream_congr env w same).2 reaches)
    obtain rfl : user' = user := Except.ok.inj
      (admitted'.symm.trans ((admission_congr env same).trans admitted))
    obtain rfl : found' = found := Except.ok.inj (known'.symm.trans known)
    rw [sent, sent', incoming_congr same]
    have stamped := forwardRequest_headers (a.withHeaders headers).request user'
      (a.withHeaders headers).incoming found'.2
    have stamped' := forwardRequest_headers (a.withHeaders headers').request user'
      (a.withHeaders headers).incoming found'.2
    constructor
    · intro equal _
      have merged := congrArg UpstreamRequest.headers (List.singleton_inj.1 equal)
      rw [stamped, stamped'] at merged
      exact List.append_cancel_right merged
    · intro merged
      simp only [forwardRequest, merged reaches]
      rfl
  · have none (b : Arrival) (h : ¬ reachesUpstream env w b) : sentBy env w b = [] := by
      rw [reachesUpstream_iff, not_exists] at h
      exact List.eq_nil_iff_forall_not_mem.2 h
    rw [none _ reaches, none _ (mt (reachesUpstream_congr env w same).1 reaches)]
    simp [reaches]

end Noninterference

/--
When the identity headers that reach an upstream service are those of the
verified token, and when two requests that differ in identity headers only are
forwarded alike.
-/
theorem forwarded_identity_iff (env : Env) (w : World) (a : Arrival)
    (headers' : List (String × String))
    (same : withoutIdentity headers' = withoutIdentity a.request.headers) :
    (IdentityIntact env w a ↔
      (reachesUpstream env w a → HonestHeaders env a)) ∧
    (sentBy env w (a.withHeaders headers') = sentBy env w a ↔
      (reachesUpstream env w a →
        OrderedDict.ofItems (a.withHeaders headers').request.forwardedItems =
          OrderedDict.ofItems a.request.forwardedItems)) :=
  ⟨identityIntact_iff env w a, sentBy_congr_iff env w same⟩

/-! ## A forged `X-User-Id` -/

/-- Every token is the name of its user and valid for an hour. -/
def sampleEnv : Env where
  jwt :=
    { payload := fun token => some
        { iss := some "auth.colab", sub := some token, aud := some ["api.colab"],
          jti := some "j1", sid := some "s1", typ := some "access", email := none,
          roles := some (.list ["user"]), tier := some "free",
          emailVerified := none, identityVerified := none, scope := none,
          iat := some 0, nbf := some 0, exp := some 3600 }
      refusal := fun _ => "" }
  sha256 := ⟨id, Function.injective_id⟩
  cookie := fun _ _ => none
  toJson := id
  allowOrigins := []
  upstreamUrl := fun upstream => some ("http://" ++ upstream)

def sampleArrival (method path : String) (headers : List (String × String))
    (body : String) : Arrival where
  request := { method, path, query := "", headers, body := "" }
  now := 10
  allowed := true
  freshId := "r1"
  upstream := fun _ => some ⟨200, body⟩

def forgedArrival : Arrival :=
  sampleArrival "POST" "/v1/ai/commands/run"
    [("authorization", "Bearer alice"), ("x-user-id", "bob")] "\x7b\x7d"

/-- A signed-in client is read as another user, whom it names in a header. -/
theorem forged_user_id :
    ¬ IdentityIntact sampleEnv ⟨.empty, []⟩ forgedArrival ∧
      withoutIdentity [("authorization", "Bearer alice")] =
        withoutIdentity forgedArrival.request.headers ∧
      sentBy sampleEnv ⟨.empty, []⟩
          (forgedArrival.withHeaders [("authorization", "Bearer alice")]) ≠
        sentBy sampleEnv ⟨.empty, []⟩ forgedArrival := by
  refine ⟨?_, by decide, by decide +kernel⟩
  unfold IdentityIntact
  decide +kernel

theorem forwarded_identity_unforged :
    (IdentityIntact sampleEnv ⟨.empty, []⟩ forgedArrival ↔
      (reachesUpstream sampleEnv ⟨.empty, []⟩ forgedArrival →
        HonestHeaders sampleEnv forgedArrival)) ∧
    (sentBy sampleEnv ⟨.empty, []⟩
        (forgedArrival.withHeaders [("authorization", "Bearer alice")]) =
        sentBy sampleEnv ⟨.empty, []⟩ forgedArrival ↔
      (reachesUpstream sampleEnv ⟨.empty, []⟩ forgedArrival →
        OrderedDict.ofItems (forgedArrival.withHeaders
            [("authorization", "Bearer alice")]).request.forwardedItems =
          OrderedDict.ofItems forgedArrival.request.forwardedItems)) :=
  forwarded_identity_iff sampleEnv ⟨.empty, []⟩ forgedArrival
    [("authorization", "Bearer alice")] (by decide)

end ColabPlatform.Gateway
