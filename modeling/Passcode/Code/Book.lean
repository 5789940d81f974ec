/-
  Passcode.Code.Book — codes kept in the process, at most as many as a capacity allows.

  A code lives from its issue up to, and not including, the end of its lifetime. When a new code
  needs room, codes that have expired go; if none has, the ones that would expire first.
-/

import Passcode.Code.Store
import Passcode.Settings.Code
import Passcode.Table

namespace Passcode

/-- A code in a book; times are in milliseconds. -/
structure CodeEntry where
  record : CodeRecord
  expiresAt : Nat
  deriving DecidableEq, Repr, Inhabited

/-- Codes by key. -/
structure CodeBook where
  entries : Table String CodeEntry := .empty
  deriving Inhabited

/-- The rules of a book; times are in milliseconds. -/
structure CodeBook.Policy where
  capacity : Nat
  maxAttempts : Int
  lifetime : Nat
  /-- A code with more lifetime left than this is too fresh to be replaced. -/
  reissueThreshold : Nat
  deriving DecidableEq, Repr, Inhabited

namespace CodeBook

def Policy.ofSettings (c : CodeSettings) : Policy where
  capacity := max c.memoryCapacity.toNat 1
  maxAttempts := c.maxAttempts.toInt
  lifetime := c.expirySeconds.toNat * 1000
  reissueThreshold := c.reissueThreshold * 1000

/-- How many codes are held, expired ones included. -/
def size (b : CodeBook) : Nat := b.entries.size

/-- The key of the entry that expires first. -/
def firstToExpire? : List (String × CodeEntry) → Option (String × CodeEntry)
  | [] => none
  | e :: rest =>
    match firstToExpire? rest with
    | some f => if f.2.expiresAt < e.2.expiresAt then some f else some e
    | none => some e

/-- Without the `n` entries that expire first. -/
def evict (entries : Table String CodeEntry) : Nat → Table String CodeEntry
  | 0 => entries
  | n + 1 =>
    match firstToExpire? entries.entries with
    | some e => evict (entries.erase e.1) n
    | none => entries

/-- The entries with room for one under `key`. -/
def makeRoom (policy : Policy) (now : Nat) (key : String) (entries : Table String CodeEntry) :
    Table String CodeEntry :=
  if (entries.get? key).isSome ∨ entries.size < policy.capacity then entries
  else
    let live := entries.keep fun _ e => now < e.expiresAt
    evict live (live.size + 1 - policy.capacity)

/-- Whether the code under a key was issued within the resend cooldown. -/
def isFresh (policy : Policy) (now : Nat) (b : CodeBook) (key : String) : Bool :=
  (b.entries.get? key).any fun e => policy.reissueThreshold < e.expiresAt - now

/-- Keeps a code. -/
def store (policy : Policy) (now : Nat) (key code : String) (b : CodeBook) :
    Except CodeFault Unit × CodeBook :=
  if b.isFresh policy now key then (.error .tooFrequent, b)
  else
    let entry : CodeEntry := ⟨⟨code, policy.maxAttempts⟩, now + policy.lifetime⟩
    (.ok (), ⟨(makeRoom policy now key b.entries).insert key entry⟩)

/-- Spends an attempt on the code under a key. -/
def verify (now : Nat) (key input : String) (b : CodeBook) : Except CodeFault Verdict × CodeBook :=
  match b.entries.get? key with
  | none => (.error .notFound, b)
  | some e =>
    if e.expiresAt ≤ now then (.error .notFound, ⟨b.entries.erase key⟩)
    else
      match e.record.attempt input with
      | (.error f, _) => (.error f, b)
      | (.ok .matched, _) => (.ok .matched, ⟨b.entries.erase key⟩)
      | (.ok .mismatch, record) => (.ok .mismatch, ⟨b.entries.insert key { e with record }⟩)

/-- A book as a code store. -/
def asStore (policy : Policy) : CodeStore CodeBook where
  store scope recipient code := .act fun now b => b.store policy now (codeKey scope recipient) code
  verify scope recipient input := .act fun now b => b.verify now (codeKey scope recipient) input

end CodeBook

end Passcode
