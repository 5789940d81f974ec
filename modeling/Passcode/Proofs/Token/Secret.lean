/-
  Passcode.Proofs.Token.Secret — secrets as keys of the signature.

  A signature sees a secret as a block of bytes, and two secrets that differ as texts can be one such key:
  one of them with NULs at its end, or the hash of a longer one (`SameKey`). Tokens that were signed with
  one of them then open with the other.

  Proved: short secrets are one key when they differ in NULs at the end only (`sameKey_iff`); a text has one
  signature under two secrets when they are one key or by a collision of the hash function, and not
  otherwise (`signature_eq_iff`); so with different keys a token does not open, short of a collision
  (`read_sign_refused`).
-/

import Passcode.Proofs.Bytes.Sha256
import Passcode.Proofs.Token.Signed

namespace Passcode.Token

open Sha256 (Collision blockSize)

/-- The bytes of a text. -/
def bytesOf (s : String) : List UInt8 := s.toUTF8.data.toList

/-- Whether two secrets are one key. -/
def SameKey (a b : String) : Prop := Sha256.keyBlock (bytesOf a) = Sha256.keyBlock (bytesOf b)

instance (a b : String) : Decidable (SameKey a b) := inferInstanceAs (Decidable (_ = _))

/-- Secrets of at most a block are one key when they differ in NULs at the end only. -/
theorem sameKey_iff {a b : String} (ha : (bytesOf a).length ≤ blockSize) (hb : (bytesOf b).length ≤ blockSize) :
    SameKey a b ↔ ∃ n, bytesOf b = bytesOf a ++ List.replicate n 0 ∨ bytesOf a = bytesOf b ++ List.replicate n 0 :=
  Sha256.keyBlock_eq_iff ha hb

/-- The message whose hash is the signature of a text under a secret. -/
def hashedLast (secret text : String) : List UInt8 := Sha256.outerMessage (bytesOf secret) (bytesOf text)

theorem signature_eq_iff (a b text : String) :
    signature a text = signature b text ↔ SameKey a b ∨ Collision (hashedLast a text) (hashedLast b text) := by
  have hkeyed : signature a text = signature b text ↔
      Sha256.keyed (bytesOf a) (bytesOf text) = Sha256.keyed (bytesOf b) (bytesOf text) := by
    constructor
    · intro h
      have hdecoded := congrArg (fun s : String => Base64.decode? s.toList) h
      simp only [signature, String.toList_ofList, Base64.decode?_encode, Option.some.injEq] at hdecoded
      exact hdecoded
    · intro h
      exact congrArg (fun bytes => String.ofList (Base64.encode bytes)) h
  rw [hkeyed]
  exact Sha256.keyed_eq_iff _ _ _

/-- The part of a token that its signature is about. -/
def signedText (token : String) : String := ((splitAtLastPoint token).map Prod.fst).getD ""

theorem signedText_sign (secret : String) (claims : Json) : signedText (sign secret claims) = message claims := by
  have hs : splitAtLastPoint (sign secret claims) = some (message claims, signature secret (message claims)) :=
    splitAtLastPoint_append _ (point_not_mem_signature _ _)
  rw [signedText, hs]
  rfl

/-- A token that was signed with another key is not opened, unless the hash function has a collision on two
    messages that are made of the secrets and the token. -/
theorem read_sign_refused {α : Type} (rules : Rules) {secret : String} (hk : ¬ SameKey secret rules.secret) (now : Int)
    (decode : Json → Option α) {claims : Json} (h : claims.isPlain = true) :
    read rules now decode (sign secret claims) = .error .invalidSignature ∨
      Collision (hashedLast secret (signedText (sign secret claims)))
        (hashedLast rules.secret (signedText (sign secret claims))) := by
  rw [signedText_sign, read_sign_under rules secret now decode h]
  by_cases hs : signature secret (message claims) = signature rules.secret (message claims)
  · rcases (signature_eq_iff _ _ _).mp hs with hsame | hcollision
    · exact absurd hsame hk
    · exact Or.inr hcollision
  · exact Or.inl (if_pos hs)

/-- A token that was signed with the same key is opened as if it had been signed with the same secret. -/
theorem read_sign_sameKey {α : Type} (rules : Rules) {secret : String} (hk : SameKey secret rules.secret) (now : Int)
    (decode : Json → Option α) (claims : Json) :
    read rules now decode (sign secret claims) = read rules now decode (sign rules.secret claims) := by
  have hs := (signature_eq_iff secret rules.secret (message claims)).mpr (Or.inl hk)
  rw [sign, sign, hs]

end Passcode.Token
