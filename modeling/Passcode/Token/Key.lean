/-
  Passcode.Token.Key — keys that the header of a token may hold.

  A key is an object. What is common to all keys, their use, operations, algorithm, names and
  certificates, may be given once each; beside it stand the parameters of one kind of key. A key has
  to be sound in all its parts, known or not.
-/

import Passcode.Json.Reading
import Passcode.Json.Record

namespace Passcode.Token

/-- How deep a reader that needs every part goes into a field of a header or of claims. -/
def depthInField : Nat := 126

/-- The parameters of a kind of key: choices among names, then texts. -/
structure KeyKind where
  choices : List (String × List String)
  texts : List String

/-- Curves that a key may lie on. -/
def curves : List String := ["P-256", "P-384", "P-521", "Ed25519"]

/-- Kinds of keys. -/
def keyKinds : List KeyKind := [
  ⟨[("kty", ["EC"]), ("crv", curves)], ["x", "y"]⟩,
  ⟨[("kty", ["RSA"])], ["n", "e"]⟩,
  ⟨[("kty", ["oct"])], ["k"]⟩,
  ⟨[("kty", ["OKP"]), ("crv", curves)], ["x"]⟩]

/-- Whether a name is one of those that a choice has. -/
def isChoice (names : List String) (v : Json) : Bool :=
  (v.asName? fun s => if names.contains s then some s else none).isSome

/-- Whether the fields of a key are of a kind, each parameter there once. -/
def KeyKind.fits (kind : KeyKind) (v : Json) : Bool :=
  match v.asRecord? (kind.choices.map Prod.fst ++ kind.texts) with
  | none => false
  | some r =>
    kind.choices.all (fun (name, names) => (r.fields.lookup name).any (isChoice names)) &&
      kind.texts.all fun name => (r.required name Json.asString?).isSome

/-- Whether a value may stand for the algorithm of a key: any name, also one that gives nothing. -/
def isAlgorithmName : Json → Bool
  | .string _ | .object [(_, .null)] | .object [(_, .object [])] => true
  | _ => false

/-- Reads a key, of which nothing is kept. -/
def key? (v : Json) : Option Unit :=
  match v with
  | .object fields => do
    if v.reading depthInField ≠ .sound then none
    let r ← v.asRecord? ["use", "key_ops", "alg", "kid", "x5u", "x5c", "x5t", "x5t#S256"]
    for name in ["use", "kid", "x5u", "x5t", "x5t#S256"] do
      let _ ← r.optional name Json.asString?
    let _ ← r.optional "key_ops" (Json.asList? Json.asString?)
    let _ ← r.optional "x5c" (Json.asList? Json.asString?)
    let _ ← r.optional "alg" fun v => if isAlgorithmName v then some () else none
    if keyKinds.any (·.fits (.object fields)) then some () else none
  | _ => none

end Passcode.Token
