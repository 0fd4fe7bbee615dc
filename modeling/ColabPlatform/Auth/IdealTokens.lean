import ColabPlatform.Auth.Sessions
import ColabPlatform.Foundation.Codec

/-!
# A token service with ideal signatures

A token of this service is the text form of its claims, and it verifies when
its claims are among those accepted.  It shows that what is assumed of the
libraries can be had at once, and it is the service of the sample runs.
-/

namespace ColabPlatform.Auth

open Foundation Common

def rolesCodec : Codec RolesClaim :=
  (Codec.pair .bool (.list .string)).map
    (fun
      | .list roles => (true, roles)
      | .single role => (false, [role]))
    (fun
      | (true, roles) => .list roles
      | (false, roles) => .single (roles.headD ""))
    fun roles => by cases roles <;> rfl

def claimsCodec : Codec Claims :=
  let text : Codec (Option String) := .option .string
  let texts : Codec (Option (List String)) := .option (.list .string)
  let flag : Codec (Option Bool) := .option .bool
  let time : Codec (Option Int) := .option .int
  (text.pair (text.pair (texts.pair (text.pair (text.pair (text.pair (text.pair
    ((Codec.option rolesCodec).pair (text.pair (flag.pair (flag.pair (texts.pair
      (time.pair (time.pair time)))))))))))))).map
    (fun c => (c.iss, c.sub, c.aud, c.jti, c.sid, c.typ, c.email, c.roles, c.tier,
      c.emailVerified, c.identityVerified, c.scope, c.iat, c.nbf, c.exp))
    (fun (iss, sub, aud, jti, sid, typ, email, roles, tier, emailVerified,
        identityVerified, scope, iat, nbf, exp) =>
      { iss, sub, aud, jti, sid, typ, email, roles, tier, emailVerified,
        identityVerified, scope, iat, nbf, exp })
    fun _ => rfl

def idealJwt (accepted : Claims → Bool) : Jwt where
  payload token := (claimsCodec.ofText token).filter accepted
  refusal _ := "Signature verification failed"

theorem idealJwt_payload_iff {accepted : Claims → Bool} {token : String}
    {claims : Claims} :
    (idealJwt accepted).payload token = some claims ↔
      token = claimsCodec.toText claims ∧ accepted claims := by
  unfold idealJwt
  rw [Option.filter_eq_some_iff, Codec.ofText_eq_some_iff]

def sampleUuid (n : Nat) : String := String.ofList (List.replicate (n + 1) 'u')

theorem sampleUuid_injective : Function.Injective sampleUuid := by
  intro n m same
  have lists := congrArg (fun text => text.toList.length) same
  simpa [sampleUuid] using lists

def idealService (accepted : Claims → Bool) : TokenService where
  jwt := idealJwt accepted
  sharedJwt := idealJwt accepted
  encode := claimsCodec.toText
  encode_injective := claimsCodec.toText_injective
  decode_encode _ _ found :=
    claimsCodec.toText_injective (idealJwt_payload_iff.1 found).1.symm
  sha256 := ⟨id, Function.injective_id⟩
  uuid := sampleUuid
  uuid_injective := sampleUuid_injective
  accessTtlSeconds := 15
  refreshTtlSeconds := 30

theorem ideal_payload {accepted : Claims → Bool} {claims : Claims}
    (verifies : accepted claims) :
    (idealService accepted).jwt.payload ((idealService accepted).encode claims) =
      some claims :=
  idealJwt_payload_iff.2 ⟨rfl, verifies⟩

/-- The ideal service that accepts everything it signs. -/
def sampleService : TokenService := idealService fun _ => true

def aliceAccount : User := { id := "alice", isActive := true, emailVerifiedAt := none }

def sampleUsers (userId : String) : Option User :=
  if userId = "alice" then some aliceAccount else none

def loginCall : Call := ⟨0, .login (.ok aliceAccount) "10.0.0.1" "browser"⟩

/-- The refresh token of the login and the one it is exchanged for at time 1. -/
def loginToken : String :=
  sampleService.encode
    (refreshClaims sampleService 0 "alice" (sampleUuid 0) (sampleUuid 1))

def rotatedToken : String :=
  sampleService.encode
    (refreshClaims sampleService 1 "alice" (sampleUuid 0) (sampleUuid 3))

def refreshCall (now : Int) (token : String) : Call :=
  ⟨now, .refresh true sampleUsers token⟩

end ColabPlatform.Auth
