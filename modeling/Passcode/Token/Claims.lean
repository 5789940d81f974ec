/-
  Passcode.Token.Claims — what tokens say: about a session, and about a template.

  Claims are written in the order of their fields; an absent issuer or expiry is left out.
-/

import Passcode.Json.Record

namespace Passcode

/-- Claims of a short-lived access credential. Times are in seconds since 1970. -/
structure AccessClaims where
  user : Int
  session : String
  /-- The client that the session was issued to. -/
  fingerprint : String
  issuedAt : Int
  expiresAt : Int
  issuer : Option String
  deriving DecidableEq, Repr, Inhabited

/-- Claims of a long-lived refresh credential. -/
structure RefreshClaims where
  user : Int
  session : String
  issuedAt : Int
  expiresAt : Int
  issuer : Option String
  deriving DecidableEq, Repr, Inhabited

/-- Claims of a signed template id. -/
structure TemplateClaims where
  template : String
  expiresAt : Option Int
  deriving DecidableEq, Repr, Inhabited

/-- A field that is left out when it has no value. -/
def Json.optionalField (name : String) (encode : α → Json) : Option α → List (String × Json)
  | some a => [(name, encode a)]
  | none => []

/-- A 64-bit number with a sign. -/
def Json.asInt? (v : Json) : Option Int := v.asInt64?.map Int64.toInt

namespace AccessClaims

/-- Seconds until expiry, negative after it. -/
def remaining (c : AccessClaims) (now : Int) : Int := c.expiresAt - now

def toJson (c : AccessClaims) : Json := .record <| [
  ("uid", .int c.user),
  ("ssid", .str c.session),
  ("user_agent", .str c.fingerprint),
  ("iat", .int c.issuedAt),
  ("exp", .int c.expiresAt)] ++ Json.optionalField "iss" .str c.issuer

def ofJson? (v : Json) : Option AccessClaims := do
  let r ← v.asRecord? ["uid", "ssid", "user_agent", "iat", "exp", "iss"]
  return {
    user := ← r.required "uid" Json.asInt?
    session := ← r.required "ssid" Json.asString?
    fingerprint := ← r.required "user_agent" Json.asString?
    issuedAt := ← r.required "iat" Json.asInt?
    expiresAt := ← r.required "exp" Json.asInt?
    issuer := ← r.withDefault "iss" (Json.asOption? Json.asString?) none }

end AccessClaims

namespace RefreshClaims

def toJson (c : RefreshClaims) : Json := .record <| [
  ("uid", .int c.user),
  ("ssid", .str c.session),
  ("iat", .int c.issuedAt),
  ("exp", .int c.expiresAt)] ++ Json.optionalField "iss" .str c.issuer

def ofJson? (v : Json) : Option RefreshClaims := do
  let r ← v.asRecord? ["uid", "ssid", "iat", "exp", "iss"]
  return {
    user := ← r.required "uid" Json.asInt?
    session := ← r.required "ssid" Json.asString?
    issuedAt := ← r.required "iat" Json.asInt?
    expiresAt := ← r.required "exp" Json.asInt?
    issuer := ← r.withDefault "iss" (Json.asOption? Json.asString?) none }

end RefreshClaims

namespace TemplateClaims

def toJson (c : TemplateClaims) : Json := .record <|
  ("tpl", .str c.template) :: Json.optionalField "exp" .int c.expiresAt

def ofJson? (v : Json) : Option TemplateClaims := do
  let r ← v.asRecord? ["tpl", "exp"]
  return {
    template := ← r.required "tpl" Json.asString?
    expiresAt := ← r.withDefault "exp" (Json.asOption? Json.asInt?) none }

end TemplateClaims

end Passcode
