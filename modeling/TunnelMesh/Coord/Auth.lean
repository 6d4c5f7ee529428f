-- SUMMARY: The coordination server's relay tokens: GenerateToken with its two clock reads and NumericDate truncation, ValidateToken under the jwt v5 parser and default validator, and the instants at which a fresh token is accepted.
import TunnelMesh.Benchmark.Config

/-!
# Relay tokens

`Server.GenerateToken` and `Server.ValidateToken` from `internal/coord/auth.go`,
over the parts of golang-jwt v5 they use.

A token is modelled as what `ParseWithClaims` reads back from the string that
`SignedString` produced: the header's `alg`, the claims and the signature. The
base64url and JSON layers between them are left out; the HMAC and the signing
input (the encoded header and claims) are parameters, so every result below
holds whatever they compute. Names are Lean strings, which are valid UTF-8,
the strings that JSON carries through unchanged.

`GenerateToken` reads the clock twice: `ExpiresAt` comes from the first
reading plus `TokenExpiry`, `IssuedAt` from the second, and
`jwt.NewNumericDate` truncates both to whole seconds. `ValidateToken` uses the
default validator, which checks `exp` as `now.Before(exp)`, so the expiry
instant itself is rejected, and checks `iat` only when asked to
(`WithIssuedAt`), which `ValidateToken` does not. A fresh token is therefore
accepted at exactly the instants before its `ExpiresAt`, however early
(`validateToken_generateToken`).
-/

namespace TunnelMesh.Coord

open Benchmark (second)

/-- `time.Hour`, in nanoseconds. -/
def hour : Int := 3600 * second

/-- `TokenExpiry`. -/
def tokenExpiry : Int := 24 * hour

/-- `jwt.NumericDate`: an instant, in whole seconds since the Unix epoch. -/
structure NumericDate where
  seconds : Int
  deriving DecidableEq, Repr

/-- `jwt.NewNumericDate(t)`: `t.Truncate(TimePrecision)`, with `TimePrecision`
one second. -/
def newNumericDate (t : Int) : NumericDate := ⟨t / second⟩

/-- The instant a `NumericDate` stands for, in nanoseconds. -/
def NumericDate.time (d : NumericDate) : Int := d.seconds * second

/-- `jwt.RegisteredClaims`: the fields `GenerateToken` sets and the default
validator reads. -/
structure RegisteredClaims where
  issuer : String
  expiresAt : Option NumericDate
  notBefore : Option NumericDate
  issuedAt : Option NumericDate
  deriving DecidableEq, Repr

/-- `JWTClaims`. -/
structure JWTClaims where
  peerName : String
  meshIP : String
  registered : RegisteredClaims
  deriving DecidableEq, Repr

/-- The hash of an HMAC signing method. -/
inductive Hash
  | sha256
  | sha384
  | sha512
  deriving DecidableEq, Repr

/-- A signing method of the `jwt` registry: HMAC with its hash, or one of the
others (RSA, RSA-PSS, ECDSA, EdDSA and `none`). -/
inductive SigningMethod
  | hmac (h : Hash)
  | other
  deriving DecidableEq, Repr

/-- `jwt.GetSigningMethod(alg)`. -/
def getSigningMethod : String → Option SigningMethod
  | "HS256" => some (.hmac .sha256)
  | "HS384" => some (.hmac .sha384)
  | "HS512" => some (.hmac .sha512)
  | "RS256" | "RS384" | "RS512" | "PS256" | "PS384" | "PS512" | "ES256" | "ES384" | "ES512"
  | "EdDSA" | "none" => some .other
  | _ => none

@[simp] theorem getSigningMethod_hs256 : getSigningMethod "HS256" = some (.hmac .sha256) := rfl

/-- What the model leaves abstract: the HMAC with a hash, keyed by its first
argument, and the signing input that `SigningString()` builds from the
header's `alg` and the claims. -/
structure Crypto where
  hmac : Hash → Bytes → Bytes → Bytes
  signingString : String → JWTClaims → Bytes

/-- A token, as `ParseWithClaims` reads back the string `SignedString` made. -/
structure Token where
  alg : String
  claims : JWTClaims
  signature : Bytes
  deriving DecidableEq, Repr

-- ---------------------------------------------------------------------------
-- GenerateToken
-- ---------------------------------------------------------------------------

/-- `jwt.NewWithClaims(jwt.SigningMethodHS256, claims).SignedString(key)`. It
cannot fail: the claims always marshal, and the key is a `[]byte`. -/
def signedString (c : Crypto) (key : Bytes) (claims : JWTClaims) : Token :=
  ⟨"HS256", claims, c.hmac .sha256 key (c.signingString "HS256" claims)⟩

/-- The `Issuer` that `GenerateToken` writes. -/
def issuer : String := "tunnelmesh"

/-- `s.GenerateToken(peerName, meshIP)` with `s.cfg.AuthToken = secret`, when its
two calls of `time.Now()` return `t₁` and then `t₂`. -/
def generateToken (c : Crypto) (secret : Bytes) (peerName meshIP : String) (t₁ t₂ : Int) : Token :=
  signedString c secret
    ⟨peerName, meshIP, ⟨issuer, some (newNumericDate (t₁ + tokenExpiry)), none, some (newNumericDate t₂)⟩⟩

-- ---------------------------------------------------------------------------
-- ValidateToken
-- ---------------------------------------------------------------------------

/-- The errors of the default `jwt.Validator`. -/
inductive ClaimsError
  /-- `ErrTokenExpired`: "token is expired". -/
  | expired
  /-- `ErrTokenNotValidYet`: "token is not valid yet". -/
  | notValidYet
  deriving DecidableEq, Repr

/-- `jwt.NewValidator().Validate(claims)` at the instant `now`, with no leeway:
`exp` and `nbf` when present; `iat` is not checked. -/
def validate (now : Int) (c : RegisteredClaims) : List ClaimsError :=
  (match c.expiresAt with
    | some exp => if now < exp.time then [] else [.expired]
    | none => []) ++
  (match c.notBefore with
    | some nbf => if now < nbf.time then [.notValidYet] else []
    | none => [])

/-- The errors of `jwt.ParseWithClaims` that `ValidateToken` can meet. -/
inductive ParseError
  /-- "token is unverifiable: signing method (alg) is unavailable" -/
  | unavailable
  /-- "token is unverifiable: error while executing keyfunc: unexpected signing method: %v" -/
  | unexpectedSigningMethod (alg : String)
  /-- "token signature is invalid: signature is invalid" -/
  | signatureInvalid
  /-- "token has invalid claims: " and the validator's errors -/
  | invalidClaims (errs : List ClaimsError)
  deriving DecidableEq, Repr

/-- `jwt.ParseWithClaims(token, &JWTClaims{}, keyFunc)` at the instant `now`,
with `ValidateToken`'s key function, which hands out `secret` for an HMAC
method only: the claims, and `token.Valid`. -/
def parseWithClaims (c : Crypto) (secret : Bytes) (now : Int) (tok : Token) :
    Except ParseError (JWTClaims × Bool) :=
  match getSigningMethod tok.alg with
  | none => .error .unavailable
  | some .other => .error (.unexpectedSigningMethod tok.alg)
  | some (.hmac h) =>
    if tok.signature ≠ c.hmac h secret (c.signingString tok.alg tok.claims) then .error .signatureInvalid
    else match validate now tok.claims.registered with
      | [] => .ok (tok.claims, true)
      | errs => .error (.invalidClaims errs)

/-- The errors of `ValidateToken`. -/
inductive AuthError
  /-- "parse token: %w" -/
  | parseToken (e : ParseError)
  /-- "invalid token claims" -/
  | invalidTokenClaims
  deriving DecidableEq, Repr

/-- `s.ValidateToken(token)` with `s.cfg.AuthToken = secret`, at the instant `now`. -/
def validateToken (c : Crypto) (secret : Bytes) (now : Int) (tok : Token) : Except AuthError JWTClaims :=
  match parseWithClaims c secret now tok with
  | .error e => .error (.parseToken e)
  | .ok (claims, valid) => if !valid then .error .invalidTokenClaims else .ok claims

-- ---------------------------------------------------------------------------
-- Truncation to seconds
-- ---------------------------------------------------------------------------

theorem second_pos : 0 < second := by decide

/-- `TokenExpiry` is a whole number of seconds, so adding it before truncating
adds it to the truncated instant. -/
theorem newNumericDate_add_tokenExpiry (t : Int) :
    newNumericDate (t + tokenExpiry) = ⟨(newNumericDate t).seconds + 86400⟩ := by
  simp only [newNumericDate, tokenExpiry, hour, NumericDate.mk.injEq]
  rw [show (24 * (3600 * second) : Int) = 86400 * second by ring, Int.add_mul_ediv_right _ _ second_pos.ne']

-- ---------------------------------------------------------------------------
-- Validation
-- ---------------------------------------------------------------------------

/-- `ValidateToken` accepts a token exactly when its method is HMAC, its
signature is the HMAC of its signing input under the secret, and the
validator finds nothing; it then returns the token's claims. -/
theorem validateToken_eq_ok_iff (c : Crypto) (secret : Bytes) (now : Int) (tok : Token) (cl : JWTClaims) :
    validateToken c secret now tok = .ok cl ↔
      cl = tok.claims ∧
      (∃ h, getSigningMethod tok.alg = some (.hmac h) ∧
        tok.signature = c.hmac h secret (c.signingString tok.alg tok.claims)) ∧
      validate now tok.claims.registered = [] := by
  unfold validateToken parseWithClaims
  rcases hm : getSigningMethod tok.alg with _ | _ | _
  · simp
  · rename_i h
    by_cases hs : tok.signature = c.hmac h secret (c.signingString tok.alg tok.claims)
    · rcases hv : validate now tok.claims.registered with _ | ⟨e, es⟩
      · simp [hs, eq_comm]
      · simp [hs]
    · simp [hs]
  · simp

/-- A token signed with HS256 under the secret, parsed back under it: only the
validator decides. -/
theorem parseWithClaims_signedString (c : Crypto) (secret : Bytes) (now : Int) (cl : JWTClaims) :
    parseWithClaims c secret now (signedString c secret cl) =
      match validate now cl.registered with
      | [] => .ok (cl, true)
      | errs => .error (.invalidClaims errs) := by
  simp only [parseWithClaims, signedString, getSigningMethod_hs256, ne_eq, not_true_eq_false, if_false]

/-- Claims as `GenerateToken` writes them pass the validator exactly before
their `ExpiresAt`. -/
theorem validate_generated (now : Int) (exp iat : NumericDate) :
    validate now ⟨issuer, some exp, none, some iat⟩ = if now < exp.time then [] else [.expired] := by
  simp only [validate, List.append_nil]

/-- A token from `GenerateToken`, validated with the same secret at any
instant `now`: it is accepted, with the claims `GenerateToken` wrote, exactly
when `now` is before the first clock reading plus `TokenExpiry`, truncated to
the second; otherwise it is rejected as expired. `IssuedAt`, truncated from the
second reading, bounds nothing. -/
theorem validateToken_generateToken (c : Crypto) (secret : Bytes) (peerName meshIP : String)
    (t₁ t₂ now : Int) :
    validateToken c secret now (generateToken c secret peerName meshIP t₁ t₂) =
      if now < (t₁ / second + 86400) * second then
        .ok ⟨peerName, meshIP, ⟨issuer, some ⟨t₁ / second + 86400⟩, none, some ⟨t₂ / second⟩⟩⟩
      else .error (.parseToken (.invalidClaims [.expired])) := by
  rw [generateToken, newNumericDate_add_tokenExpiry]
  simp only [validateToken, parseWithClaims_signedString, validate_generated, NumericDate.time,
    newNumericDate]
  split_ifs <;> rfl

/-- Three tokens that `GenerateToken` makes for the secret "secret", with an
HMAC that stands in for HMAC-SHA256 (the acceptance instants do not depend on
it). One from two clock readings at the epoch is accepted one second before
its `IssuedAt`, and rejected at `IssuedAt + TokenExpiry`. One whose two
readings straddle the end of the first second gets an `ExpiresAt` one second
short of `IssuedAt + TokenExpiry`. -/
theorem validateToken_outside_issued_window :
    let c : Crypto := ⟨fun _ key input => key ++ input, fun _ cl => (cl.peerName ++ cl.meshIP).toUTF8.toList⟩
    (∃ cl, validateToken c (Benchmark.ascii "secret") (-second)
        (generateToken c (Benchmark.ascii "secret") "peer" "10.99.0.1" 0 0) = .ok cl ∧
      cl.registered.issuedAt = some ⟨0⟩) ∧
    validateToken c (Benchmark.ascii "secret") tokenExpiry
        (generateToken c (Benchmark.ascii "secret") "peer" "10.99.0.1" 0 0) =
      .error (.parseToken (.invalidClaims [.expired])) ∧
    (generateToken c (Benchmark.ascii "secret") "peer" "10.99.0.1" (second - 1) second).claims.registered =
      ⟨issuer, some ⟨86400⟩, none, some ⟨1⟩⟩ := by
  intro c
  have h₀ : newNumericDate (0 + tokenExpiry) = ⟨86400⟩ := by decide
  have h₁ : newNumericDate 0 = ⟨0⟩ := by decide
  have h₂ : newNumericDate (second - 1 + tokenExpiry) = ⟨86400⟩ := by decide
  have h₃ : newNumericDate second = ⟨1⟩ := by decide
  have hearly : -second < NumericDate.time ⟨86400⟩ := by decide
  have hlate : ¬ tokenExpiry < NumericDate.time ⟨86400⟩ := by decide
  refine ⟨⟨⟨"peer", "10.99.0.1", ⟨issuer, some ⟨86400⟩, none, some ⟨0⟩⟩⟩, ?_, rfl⟩, ?_, ?_⟩ <;>
    simp only [validateToken, generateToken, parseWithClaims_signedString, validate_generated, h₀, h₁, h₂,
      h₃, hearly, hlate, if_true, if_false] <;> rfl

end TunnelMesh.Coord
