/-
  Passcode.Context — a caller's deadline, and work bounded by it.

  A context whose deadline is now has expired, and work is not even begun in it. Work that is under
  way when the deadline comes still ends on it, and is cut off after.
-/

import Passcode.Task

namespace Passcode

structure Context where
  /-- The instant, in milliseconds, at which the caller gives up. -/
  deadline : Option Nat
  deriving DecidableEq, Repr, Inhabited

namespace Context

variable {σ α : Type}

/-- Of a caller that never gives up. -/
def unbounded : Context := ⟨none⟩

/-- Of a caller that gives up at an instant. -/
def bounded (deadline : Nat) : Context := ⟨some deadline⟩

def isExpired (ctx : Context) (now : Nat) : Bool := ctx.deadline.any (· ≤ now)

/-- Milliseconds left, when the caller gives up at all. -/
def remaining (ctx : Context) (now : Nat) : Option Nat := ctx.deadline.map (· - now)

/-- The work under the deadline: no value when the context has expired or the deadline cuts the work
    off. -/
def run (ctx : Context) (work : Task σ α) : Task σ (Option α) :=
  match ctx.deadline with
  | none => some <$> work
  | some deadline => do
    let now ← Task.now
    if deadline ≤ now then return none else work.within (deadline - now)

theorem run_expired (ctx : Context) (work : Task σ α) (t : Nat) (s : σ) (h : ctx.isExpired t = true) :
    (ctx.run work).run t s = ⟨t, s, none⟩ := by
  obtain ⟨_ | d⟩ := ctx
  · simp [isExpired] at h
  · have hd : d ≤ t := by simpa [isExpired] using h
    simp [run, Task.run_bind, Task.now, Task.act, hd]

end Context

end Passcode
