import RegistryAuth.Token.Claims
import RegistryAuth.Token.Jwt
import RegistryAuth.TokenService

/-! # Token issuers

Issuers that sign access and refresh tokens with a key. A token is valid from
the second of its issue for the lifetime of its issuer. A refresh token issuer
with a key for checking also verifies its tokens; whatever is wrong with a
token, verification fails in the same way.
-/

namespace RegistryAuth

/-- The greatest time that a claim can hold. -/
def maxTime : Int := 0x7fffffffffffffff

/-- The end of a lifetime that begins at `issued`. -/
def expiresAt (issued : Int) (lifetime : Nat) : Except AuthError Int :=
  if lifetime ≤ maxTime && issued + lifetime ≤ maxTime then .ok (issued + lifetime)
  else .error (.lifetimeOutOfRange lifetime)

def SigningKey.signClaims (key : SigningKey) (claims : Json) : Except AuthError String :=
  (Jwt.sign key claims).mapError fun e => .signingFailed e.message

structure JwtAccessIssuer where
  issuer : String
  audience : Option String
  lifetime : Nat
  key : SigningKey
deriving DecidableEq, Repr

namespace JwtAccessIssuer

/-- The audience asked for takes the place of the issuer's own. -/
def issue (issuer : JwtAccessIssuer) (occasion : Occasion) (subject : Subject)
    (audience : Option String) (scopes : List Scope) : Except AuthError AccessToken := do
  let issued := occasion.now.unixSeconds
  let expires ← expiresAt issued issuer.lifetime
  let claims : AccessClaims := ⟨issuer.issuer, subject.id, audience.or issuer.audience, expires,
    issued, issued, occasion.accessTokenId, scopes⟩
  let token ← issuer.key.signClaims claims.toJson
  return ⟨token, issuer.lifetime, occasion.now⟩

def component (issuer : JwtAccessIssuer) : AccessTokenIssuer :=
  ⟨fun occasion subject audience scopes =>
    Reply.ofExcept (issuer.issue occasion subject audience scopes)⟩

end JwtAccessIssuer

structure JwtRefreshIssuer where
  issuer : String
  lifetime : Nat
  key : SigningKey
deriving DecidableEq, Repr

namespace JwtRefreshIssuer

def issue (issuer : JwtRefreshIssuer) (occasion : Occasion) (subject : Subject) :
    Except AuthError String := do
  let issued := occasion.now.unixSeconds
  let expires ← expiresAt issued issuer.lifetime
  let claims : RefreshClaims := ⟨issuer.issuer, subject.id, expires, issued, issued,
    occasion.refreshTokenId, RefreshClaims.refreshUse⟩
  issuer.key.signClaims claims.toJson

/-- The subject of a token that the issuer accepts at a time. -/
def accepts? (issuer : JwtRefreshIssuer) (material : KeyMaterial) (now : Instant)
    (token : String) : Option String := do
  let payload ← Jwt.open? material issuer.key.algorithm token
  let claims ← RefreshClaims.ofJson? payload
  if claims.holdAt now.unixSeconds && claims.issuer == issuer.issuer &&
      claims.tokenUse == RefreshClaims.refreshUse && !claims.subject.isEmpty then
    some claims.subject
  else none

def verify (issuer : JwtRefreshIssuer) (now : Instant) (token : String) :
    Except AuthError String :=
  match issuer.key.checking with
  | none => .error .noVerificationKey
  | some material =>
    match issuer.accepts? material now token with
    | some subject => .ok subject
    | none => .error .authenticationFailed

def component (issuer : JwtRefreshIssuer) : RefreshTokenIssuer where
  issue occasion subject := Reply.ofExcept (issuer.issue occasion subject)
  verifier? :=
    if issuer.key.checking.isSome then
      some ⟨fun now token => Reply.ofExcept (issuer.verify now token)⟩
    else none

end JwtRefreshIssuer

end RegistryAuth
