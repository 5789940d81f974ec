/-
  Passcode.Keyspace.Script — the operations that run on the server as one step.

  A script reads the clock once and stops at the first command that fails; what it changed before
  stays. Its reply is a number.
-/

import Passcode.Keyspace.Basic

namespace Passcode.Keyspace

/-- A script: work on the keyspace that may stop at a fault. -/
abbrev Script (α : Type) := Keyspace → Except CommandFault α × Keyspace

namespace Script

variable {α β : Type}

def pure (a : α) : Script α := fun k => (.ok a, k)

def bind (first : Script α) (next : α → Script β) : Script β := fun k =>
  match first k with
  | (.ok a, k) => next a k
  | (.error e, k) => (.error e, k)

instance : Monad Script where
  pure := pure
  bind := bind

/-- Reads the keyspace. -/
def read (f : Keyspace → α) : Script α := fun k => (.ok (f k), k)

/-- Reads the keyspace with a command that may fail. -/
def ask (f : Keyspace → Except CommandFault α) : Script α := fun k => (f k, k)

/-- Changes the keyspace. -/
def modify (f : Keyspace → Keyspace) : Script Unit := fun k => (.ok (), f k)

/-- Changes the keyspace with a command that may fail. -/
def attempt (f : Keyspace → Except CommandFault Keyspace) : Script Unit := fun k =>
  match f k with
  | .ok k' => (.ok (), k')
  | .error e => (.error e, k)

end Script

open Script

/-- Keeps a code under a key, unless one with more lifetime left than `threshold` seconds is there.
    Replies 0 for a code that was kept, -1 for one that came too soon, -2 when the key has no
    expiry. -/
def issueScript (now : Int) (key code : String) (attempts : Int) (expiry threshold : Nat) : Script Int := do
  let ttl ← read fun k => k.ttl now key
  if ttl = -1 then return -2
  else if ttl = -2 ∨ ttl ≤ threshold then
    Script.modify fun k => k.delete key
    attempt fun k => k.setFields now key [("code", code), ("attempts", toString attempts)]
    attempt fun k => k.expire now key (expiry * 1000)
    return 0
  else return -1

/-- Spends an attempt on the code under a key and compares. Replies 0 for a match, which removes the
    code, -1 when no attempt is left, -2 for a mismatch, -3 without a code, -4 when the attempts
    cannot be read. -/
def verifyScript (now : Int) (key input : String) : Script Int := do
  if (← read fun k => (k.get? now key).isNone) then return -3
  let attempts ← ask fun k => k.field? now key "attempts"
  match attempts.bind isPositive? with
  | none => return -4
  | some false => return -1
  | some true =>
    attempt fun k => k.addToField now key "attempts" (-1)
    let code ← ask fun k => k.field? now key "code"
    if code = some input then
      Script.modify fun k => k.delete key
      return 0
    else return -2

/-- Counts a call under a key, unless `threshold` calls are counted within the last `window`
    milliseconds. Replies 0 for a call that was counted, 1 for one that was refused. -/
def windowScript (now : Int) (key : String) (window threshold : Nat) (member : String) : Script Int := do
  attempt fun k => k.trim now key (now - window)
  let members ← ask fun k => k.members? now key
  if members.size ≥ threshold then return 1
  else
    attempt fun k => k.addMember now key member now
    attempt fun k => k.expire now key window
    return 0

end Passcode.Keyspace
