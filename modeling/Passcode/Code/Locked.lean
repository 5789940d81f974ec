/-
  Passcode.Code.Locked — a book of codes behind a lock, on a clock that ends.

  Calls take turns by the lock. A call that breaks off while it holds the lock poisons it, and all later calls are
  refused. One thing breaks a call off: the end of a code's lifetime has to be an instant that the clock can show,
  and no settings are refused for a lifetime that is too long.
-/

import Passcode.Code.Book

namespace Passcode

/-- Codes by key, behind a lock. -/
structure LockedBook where
  book : CodeBook := {}
  /-- Whether a call has broken off while it held the lock. -/
  isPoisoned : Bool := false
  deriving Inhabited

namespace LockedBook

/-- What is answered behind a poisoned lock. -/
def refusal : CodeFault := .system "code store lock poisoned"

/-- Keeps a code. The clock has the instants before `horizon`, in milliseconds: where the code's lifetime would end
    later, room has been made for it when the call breaks off, without an answer. -/
def store (policy : CodeBook.Policy) (horizon now : Nat) (key code : String) (b : LockedBook) :
    Option (Except CodeFault Unit) × LockedBook :=
  if b.isPoisoned then (some (.error refusal), b)
  else if !b.book.isFresh policy now key && horizon ≤ now + policy.lifetime then
    (none, ⟨⟨CodeBook.makeRoom policy now key b.book.entries⟩, true⟩)
  else
    let (result, book) := b.book.store policy now key code
    (some result, { b with book })

/-- Spends an attempt on the code under a key. -/
def verify (now : Nat) (key input : String) (b : LockedBook) : Except CodeFault Verdict × LockedBook :=
  if b.isPoisoned then (.error refusal, b)
  else
    let (result, book) := b.book.verify now key input
    (result, { b with book })

/-- How many codes are held, expired ones included. Behind a poisoned lock none is counted. -/
def size (b : LockedBook) : Nat := if b.isPoisoned then 0 else b.book.size

/-- What is told of a call that broke off to those who asked for it from elsewhere. -/
def brokenOff : CodeFault := .system "overflow when adding duration to instant"

/-- A locked book as a code store. -/
def asStore (policy : CodeBook.Policy) (horizon : Nat) : CodeStore LockedBook where
  store scope recipient code := .act fun now b =>
    let (result, b) := b.store policy horizon now (codeKey scope recipient) code
    (result.getD (.error brokenOff), b)
  verify scope recipient input := .act fun now b => b.verify now (codeKey scope recipient) input

end LockedBook

end Passcode
