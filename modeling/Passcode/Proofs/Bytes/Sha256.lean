/-
  Passcode.Proofs.Bytes.Sha256 — when two keys give a message one keyed hash.

  A key acts through its block alone. Keys of at most a block have one block when they differ in zeros at
  the end only (`keyBlock_eq_iff`); a longer key has the block of its hash. Keys with different blocks give
  a message one keyed hash only where the hash function has a collision, and the two messages that
  collide can be written down (`keyed_eq_iff`).
-/

import Passcode.Bytes.Sha256
import Mathlib.Data.List.Basic

namespace Passcode.Sha256

theorem length_hash (message : List UInt8) : (hash message).length = 32 := rfl

/-! ## Blocks of keys -/

theorem keyBlock_short {key : List UInt8} (h : key.length ≤ blockSize) :
    keyBlock key = key ++ List.replicate (blockSize - key.length) 0 := by
  have hl : ¬ key.length > blockSize := by omega
  simp only [keyBlock, hl, if_false]

theorem keyBlock_long {key : List UInt8} (h : blockSize < key.length) : keyBlock key = keyBlock (hash key) := by
  have hh : (hash key).length ≤ blockSize := by rw [length_hash]; decide
  rw [keyBlock_short hh]
  simp only [keyBlock, gt_iff_lt, h, if_true]

theorem length_keyBlock (key : List UInt8) : (keyBlock key).length = blockSize := by
  have short : ∀ key : List UInt8, key.length ≤ blockSize → (keyBlock key).length = blockSize := by
    intro key h
    rw [keyBlock_short h, List.length_append, List.length_replicate]
    omega
  by_cases h : key.length ≤ blockSize
  · exact short key h
  · rw [keyBlock_long (by omega)]
    exact short _ (by rw [length_hash]; decide)

/-- Short keys have one block when one of them is the other with zeros at the end. -/
theorem keyBlock_eq_iff {a b : List UInt8} (ha : a.length ≤ blockSize) (hb : b.length ≤ blockSize) :
    keyBlock a = keyBlock b ↔ ∃ n, b = a ++ List.replicate n 0 ∨ a = b ++ List.replicate n 0 := by
  rw [keyBlock_short ha, keyBlock_short hb]
  constructor
  · intro h
    rcases List.append_eq_append_iff.mp h with ⟨zeros, hz, hrest⟩ | ⟨zeros, hz, hrest⟩
    · exact ⟨zeros.length, Or.inl (hz.trans (congrArg (a ++ ·) (List.replicate_eq_append_iff.mp hrest).2.1))⟩
    · exact ⟨zeros.length, Or.inr (hz.trans (congrArg (b ++ ·) (List.replicate_eq_append_iff.mp hrest).2.1))⟩
  · have fill : ∀ (a : List UInt8) (n : Nat), (a ++ List.replicate n 0).length ≤ blockSize →
        a ++ List.replicate (blockSize - a.length) 0 =
          a ++ List.replicate n 0 ++ List.replicate (blockSize - (a ++ List.replicate n 0).length) 0 := by
      intro a n hn
      rw [List.length_append, List.length_replicate] at hn ⊢
      rw [List.append_assoc, List.replicate_append_replicate]
      congr 2
      omega
    rintro ⟨n, rfl | rfl⟩
    · exact fill a n hb
    · exact (fill b n ha).symm

/-! ## Keyed hashes -/

/-- Two different messages with one hash. -/
structure Collision (a b : List UInt8) : Prop where
  ne : a ≠ b
  hash_eq : hash a = hash b

/-- The message whose hash is the keyed hash of a message. -/
def outerMessage (key message : List UInt8) : List UInt8 :=
  (keyBlock key).map (· ^^^ 0x5c) ++ hash ((keyBlock key).map (· ^^^ 0x36) ++ message)

theorem keyed_eq_hash (key message : List UInt8) : keyed key message = hash (outerMessage key message) := rfl

/-- The message that is hashed last begins with the block of the key. -/
theorem outerMessage_ne {a b : List UInt8} (h : keyBlock a ≠ keyBlock b) (message : List UInt8) :
    outerMessage a message ≠ outerMessage b message := by
  intro heq
  have hlen : ((keyBlock a).map (· ^^^ 0x5c)).length = ((keyBlock b).map (· ^^^ 0x5c)).length := by
    simp only [List.length_map, length_keyBlock]
  have hmask : Function.Injective fun x : UInt8 => x ^^^ 0x5c := fun _ _ hxy => (UInt8.xor_left_inj 0x5c).mp hxy
  exact h (List.map_injective_iff.mpr hmask (List.append_inj heq hlen).1)

/-- Two keys give a message one keyed hash when they have one block, or else by a collision. -/
theorem keyed_eq_iff (a b message : List UInt8) : keyed a message = keyed b message ↔
    keyBlock a = keyBlock b ∨ Collision (outerMessage a message) (outerMessage b message) := by
  rw [keyed_eq_hash, keyed_eq_hash]
  constructor
  · intro h
    by_cases hk : keyBlock a = keyBlock b
    · exact Or.inl hk
    · exact Or.inr ⟨outerMessage_ne hk message, h⟩
  · rintro (hk | hc)
    · rw [outerMessage, outerMessage, hk]
    · exact hc.hash_eq

end Passcode.Sha256
