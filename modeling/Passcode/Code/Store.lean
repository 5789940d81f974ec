/-
  Passcode.Code.Store — what a code store does.

  Storing and verifying are each one indivisible operation of the store. A store keeps one code for
  each scope and recipient.
-/

import Passcode.Code.Record
import Passcode.Entropy
import Passcode.Task

namespace Passcode

/-- A keeper of codes on a state `σ`. -/
structure CodeStore (σ : Type) where
  /-- Keeps a code for a scope and a recipient, with fresh attempts and a fresh lifetime, unless one
      was kept within the resend cooldown. -/
  store (scope recipient code : String) : Task σ (Except CodeFault Unit)
  /-- Spends an attempt on the code kept. A code that matches is gone. -/
  verify (scope recipient input : String) : Task σ (Except CodeFault Verdict)

/-- Makes a code of `length` digits and keeps it. -/
def CodeStore.issue (s : CodeStore σ) (fresh : Entropy) (scope recipient : String) (length : Nat) :
    Task σ (Except CodeFault String) := do
  let code := fresh.code length
  return (← s.store scope recipient code).map fun _ => code

/-- The same store on a part of a larger state. -/
def CodeStore.focus (s : CodeStore σ) (part : τ → σ) (put : σ → τ → τ) : CodeStore τ where
  store scope recipient code := (s.store scope recipient code).focus part put
  verify scope recipient input := (s.verify scope recipient input).focus part put

end Passcode
