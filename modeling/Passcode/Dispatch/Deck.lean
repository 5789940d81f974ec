/-
  Passcode.Dispatch.Deck — what dispatch policies remember from one send to the next.

  A rotating list of providers has a cursor: how many sends have begun, counted in 64 bits. It says
  where the next one starts. A list that stays with one provider has a streak: which provider is in
  use, and how many timeouts in a row it has had. Only reports about the provider in use count; one
  that arrives after the provider was replaced changes nothing.
-/

import Passcode.Dispatch.Sender
import Passcode.Table

namespace Passcode

/-- The provider in use and its timeouts in a row. -/
structure Streak where
  active : Nat := 0
  timeouts : Nat := 0
  deriving DecidableEq, Repr, Inhabited

namespace Streak

/-- The provider, of `count`, that a new send goes to. -/
def pick (s : Streak) (count : Nat) : Nat := s.active % count

/-- Takes in that provider `index` succeeded. -/
def success (s : Streak) (index : Nat) : Streak :=
  if s.active = index then { s with timeouts := 0 } else s

/-- Takes in that provider `index` of `count` timed out: one timeout more, and at the `threshold`-th
    the next provider comes into use, which is told to whoever reported it. -/
def timeout (s : Streak) (index threshold count : Nat) : Option Nat × Streak :=
  if s.active ≠ index then (none, s)
  else if s.timeouts + 1 < threshold then (none, { s with timeouts := s.timeouts + 1 })
  else
    let next := (index + 1) % count
    (some next, ⟨next, 0⟩)

end Streak

/-- The memory of all policies of a chain, each in a slot of its own, around the state `σ` of the
    providers and limiters. -/
structure Deck (σ : Type) where
  cursors : Table Nat UInt64 := .empty
  streaks : Table Nat Streak := .empty
  outer : σ

namespace Deck

variable {σ α : Type}

instance [Inhabited σ] : Inhabited (Deck σ) := ⟨{ outer := default }⟩

def cursor (d : Deck σ) (slot : Nat) : UInt64 := (d.cursors.get? slot).getD 0

def streak (d : Deck σ) (slot : Nat) : Streak := (d.streaks.get? slot).getD {}

/-- Moves a cursor on; behind the last number it goes on from 0. -/
def advance (d : Deck σ) (slot : Nat) : Deck σ :=
  { d with cursors := d.cursors.insert slot (d.cursor slot + 1) }

def setStreak (d : Deck σ) (slot : Nat) (s : Streak) : Deck σ := { d with streaks := d.streaks.insert slot s }

/-- Takes in how a send through provider `index` of `count` ended, and tells which provider comes into
    use, when one does. Only success and timeouts are heeded. -/
def hear (d : Deck σ) (slot index threshold count : Nat) (result : Delivery) : Option Nat × Deck σ :=
  match result with
  | .ok () => (none, d.setStreak slot ((d.streak slot).success index))
  | .error e =>
    if e.isTimeout then
      let (next, s) := (d.streak slot).timeout index threshold count
      (next, d.setStreak slot s)
    else (none, d)

/-- Work of a provider or a limiter, which sees nothing of the policies. -/
def lift (work : Task σ α) : Task (Deck σ) α :=
  work.focus Deck.outer fun outer d => { d with outer }

theorem run_lift (work : Task σ α) (t : Nat) (d : Deck σ) : (lift work).run t d =
    let e := work.run t d.outer
    ⟨e.time, { d with outer := e.state }, e.value⟩ := by
  induction work generalizing t d with
  | done a => rfl
  | step change rest ih => exact ih t d.outer t { d with outer := change t d.outer }
  | wait delay rest ih => exact ih (t + delay) d

end Deck

end Passcode
