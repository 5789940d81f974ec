/-
  Passcode.Token.Signed — signed tokens: a header, claims and a signature, joined by points.

  Header and claims are JSON in base64; the signature is the keyed hash of both. A token is opened
  step by step: its parts, the header, the algorithm, the signature, the claims, and last the claims
  that every token may carry: expiry, issuer and audience. The first step that fails gives the
  reason.
-/

import Passcode.Bytes.Base64
import Passcode.Bytes.Sha256
import Passcode.Json.Parser
import Passcode.Json.Record
import Passcode.Token.Key

namespace Passcode.Token

/-- Why a token was not opened. -/
inductive Refusal where
  /-- Fewer than three parts. -/
  | invalidToken
  | base64
  | json
  | invalidAlgorithm
  | invalidSignature
  /-- No expiry where one has to be. -/
  | missingExpiry
  | expired
  | invalidIssuer
  /-- The token is meant for somebody else. -/
  | invalidAudience
  deriving DecidableEq, Repr

def Refusal.reason : Refusal → String
  | invalidToken => "InvalidToken"
  | base64 => "<base64 error>"
  | json => "<json error>"
  | invalidAlgorithm => "InvalidAlgorithm"
  | invalidSignature => "InvalidSignature"
  | missingExpiry => "Missing required claim: exp"
  | expired => "ExpiredSignature"
  | invalidIssuer => "InvalidIssuer"
  | invalidAudience => "InvalidAudience"

/-- What becomes of a token's expiry. -/
inductive ExpiryRule where
  /-- It has to be there; whoever asks compares it. -/
  | demanded
  /-- It is compared when it is there. -/
  | checked
  deriving DecidableEq, Repr

/-- What a token has to satisfy. -/
structure Rules where
  secret : String
  expiry : ExpiryRule
  issuer : Option String := none
  deriving DecidableEq, Repr

/-! ## Writing -/

/-- The header of every token that is signed here. -/
def header : Json := .record [("typ", .str "JWT"), ("alg", .str "HS256")]

/-- The signature of a text under a secret. -/
def signature (secret text : String) : String :=
  String.ofList (Base64.encode (Sha256.keyed secret.toUTF8.data.toList text.toUTF8.data.toList))

/-- The part of a token that is signed. -/
def message (claims : Json) : String :=
  Base64.encodeText header.text ++ "." ++ Base64.encodeText claims.text

/-- A token with the given claims. -/
def sign (secret : String) (claims : Json) : String :=
  message claims ++ "." ++ signature secret (message claims)

/-! ## Opening -/

/-- The text before and after the last point. -/
def splitAtLastPoint (s : String) : Option (String × String) :=
  let cs := s.toList
  let after := (cs.reverse.takeWhile (· ≠ '.')).reverse
  if after.length < cs.length then
    some (String.ofList (cs.take (cs.length - after.length - 1)), String.ofList after)
  else none

/-- The JSON value that a part of a token holds. -/
def part (s : String) : Except Refusal Json :=
  match Base64.bytes? s with
  | none => .error .base64
  | some bytes =>
    match Json.parseBytes? bytes with
    | none => .error .json
    | some v => .ok v

/-- The algorithms that a header may name. -/
def algorithms : List String :=
  ["HS256", "HS384", "HS512", "ES256", "ES384", "RS256", "RS384", "RS512", "PS256", "PS384", "PS512",
    "EdDSA"]

/-- The algorithm that a header names. The other fields of a header have to be well formed; a key
    in a header is never taken. -/
def algorithm? (v : Json) : Option String := do
  let r ← v.asRecord? ["typ", "alg", "cty", "jku", "jwk", "kid", "x5u", "x5c", "x5t", "x5t#S256"]
  let alg ← r.required "alg" (Json.asName? fun s => if algorithms.contains s then some s else none)
  for name in ["typ", "cty", "jku", "kid", "x5u", "x5t", "x5t#S256"] do
    let _ ← r.optional name Json.asString?
  let _ ← r.optional "jwk" key?
  let _ ← r.optional "x5c" (Json.asList? Json.asString?)
  return alg

/-- The claims that every token may carry, as far as they say something. -/
structure Registered where
  expiry : Option Nat
  /-- One issuer or several. -/
  issuers : Option (List String)
  hasAudience : Bool

/-- A string or a list of strings. -/
def names? : Json → Option (List String)
  | .string s => s.toOption.map ([·])
  | v => v.asList? Json.asString?

/-- Whether the reader of a count gets behind a value. It goes into no array or object. -/
def passesCount : Json → Bool
  | .array items => items.isEmpty
  | .object fields => fields.isEmpty
  | v => v.scalarReading ≠ .stuck

/-- Whether the reader of a text gets behind a value. It does not even open an array or object. -/
def passesText : Json → Bool
  | .array _ | .object _ => false
  | v => v.scalarReading ≠ .stuck

/-- Whether the reader of names gets behind a value. -/
def passesNames (v : Json) : Bool := v.reading depthInField ≠ .stuck

/-- Reads the registered claims. A claim of a wrong kind, or one with a fault that its reader gets
    behind, says nothing. An array gives all five of them, in this order. -/
def Registered.ofJson? (v : Json) : Option Registered := do
  let names := ["exp", "nbf", "sub", "iss", "aud"]
  let r ← v.asRecord? names
  let field (name : String) := (r.fields.lookup name).getD .null
  if r.positional && r.fields.length < names.length then none
  else if !passesCount (field "exp") || !passesCount (field "nbf") || !passesText (field "sub") ||
      !passesNames (field "iss") || !passesNames (field "aud") then none
  else
    return {
      expiry := (field "exp").asUInt64?.map UInt64.toNat
      issuers := names? (field "iss")
      hasAudience := (names? (field "aud")).isSome }

/-- Applies the rules to the registered claims at an instant, in seconds since 1970. -/
def Rules.check (rules : Rules) (now : Int) (r : Registered) : Except Refusal Unit :=
  if rules.expiry = .demanded ∧ r.expiry = none then .error .missingExpiry
  else if rules.expiry = .checked ∧ (r.expiry.any fun e => decide ((e : Int) < now)) then .error .expired
  else if rules.issuer.any fun i => r.issuers.any fun named => !named.contains i then
    .error .invalidIssuer
  else if r.hasAudience then .error .invalidAudience
  else .ok ()

/-- The claims of a token that satisfies the rules. -/
def read (rules : Rules) (now : Int) (decode : Json → Option α) (token : String) : Except Refusal α := do
  let some (message, given) := splitAtLastPoint token | .error .invalidToken
  let some (header, payload) := splitAtLastPoint message | .error .invalidToken
  let some algorithm := algorithm? (← part header) | .error .json
  if algorithm ≠ "HS256" then .error .invalidAlgorithm
  if given ≠ signature rules.secret message then .error .invalidSignature
  let value ← part payload
  let some claims := decode value | .error .json
  let some registered := Registered.ofJson? value | .error .json
  rules.check now registered
  return claims

end Passcode.Token
