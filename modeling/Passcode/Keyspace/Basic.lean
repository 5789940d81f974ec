/-
  Passcode.Keyspace.Basic — keys that hold values for a time, and the commands on them.

  A key holds a text, a hash of texts or a set of scored members, and may have an expiry, an instant
  in milliseconds. A key is there up to and including its expiry. Every command sees the clock, and a
  command on a value of another kind fails and changes nothing. A set without members is no key.
-/

import Passcode.Keyspace.Number
import Passcode.Table

namespace Passcode

/-- What a key holds. -/
inductive Stored where
  | text (value : String)
  | hash (fields : Table String String)
  | scored (members : Table String Int)

/-- A value and its expiry. -/
structure Holding where
  value : Stored
  expiresAt : Option Int := none

/-- Milliseconds left to a value; nothing when it has no expiry. -/
def Holding.left (now : Int) (h : Holding) : Option Int := h.expiresAt.map (· - now)

structure Keyspace where
  holdings : Table String Holding := .empty

instance : Inhabited Keyspace := ⟨{}⟩

/-- Why a command failed. -/
inductive CommandFault where
  | wrongType
  | notInteger
  | overflow
  | invalidExpiry
  deriving DecidableEq, Repr

namespace CommandFault

def text : CommandFault → String
  | wrongType => "WRONGTYPE Operation against a key holding the wrong kind of value"
  | notInteger => "ERR hash value is not an integer"
  | overflow => "ERR increment or decrement would overflow"
  | invalidExpiry => "ERR invalid expire time"

end CommandFault

namespace Keyspace

/-- Whether a value is still there. -/
def Live (now : Int) (h : Holding) : Prop := ∀ e ∈ h.expiresAt, now ≤ e

instance (now : Int) (h : Holding) : Decidable (Live now h) :=
  inferInstanceAs (Decidable (∀ e ∈ h.expiresAt, now ≤ e))

/-- What a key holds at an instant. -/
def get? (k : Keyspace) (now : Int) (key : String) : Option Holding :=
  (k.holdings.get? key).filter fun h => Live now h

/-- The keyspace with a value under a key. -/
def put (k : Keyspace) (key : String) (h : Holding) : Keyspace := ⟨k.holdings.insert key h⟩

/-- The keyspace without a key. -/
def delete (k : Keyspace) (key : String) : Keyspace := ⟨k.holdings.erase key⟩

/-- Remaining lifetime in whole seconds, rounded to the nearest; -1 without an expiry, -2 without a
    key. -/
def ttl (k : Keyspace) (now : Int) (key : String) : Int :=
  match k.get? now key with
  | none => -2
  | some h => match h.expiresAt with
    | none => -1
    | some e => (e - now + 500) / 1000

/-- The latest instant that an expiry can have. -/
def lastInstant : Int := Int64.maxValue.toInt

/-- Gives a key, if it is there, an expiry some milliseconds from now. A time that is not positive
    deletes the key. -/
def expire (k : Keyspace) (now : Int) (key : String) (ms : Int) : Except CommandFault Keyspace :=
  if lastInstant < ms.natAbs ∨ lastInstant < now + ms then .error .invalidExpiry
  else
    match k.get? now key with
    | none => .ok k
    | some h => .ok (if ms ≤ 0 then k.delete key else k.put key { h with expiresAt := some (now + ms) })

/-- Puts a text under a key for some seconds, whatever was there. -/
def setFor (k : Keyspace) (now : Int) (key value : String) (seconds : Int) : Except CommandFault Keyspace :=
  if seconds ≤ 0 ∨ lastInstant < now + seconds * 1000 then .error .invalidExpiry
  else .ok (k.put key ⟨.text value, some (now + seconds * 1000)⟩)

/-- The hash under a key, empty when there is no key. -/
def hash? (k : Keyspace) (now : Int) (key : String) : Except CommandFault (Table String String) :=
  match k.get? now key with
  | none => .ok .empty
  | some ⟨.hash fields, _⟩ => .ok fields
  | some _ => .error .wrongType

/-- A field of the hash under a key. -/
def field? (k : Keyspace) (now : Int) (key name : String) : Except CommandFault (Option String) :=
  (k.hash? now key).map (·.get? name)

/-- The expiry of a key. -/
def expiryOf (k : Keyspace) (now : Int) (key : String) : Option Int :=
  (k.get? now key).bind Holding.expiresAt

/-- Sets fields of the hash under a key. -/
def setFields (k : Keyspace) (now : Int) (key : String) (fields : List (String × String)) :
    Except CommandFault Keyspace := do
  let known ← k.hash? now key
  let all := fields.foldl (fun t f => t.insert f.1 f.2) known
  return k.put key ⟨.hash all, k.expiryOf now key⟩

/-- Adds to a field that holds a whole number; a missing field counts as zero. -/
def addToField (k : Keyspace) (now : Int) (key name : String) (amount : Int) : Except CommandFault Keyspace := do
  let known ← k.hash? now key
  let some value := (match known.get? name with
    | none => some 0
    | some s => plainInteger? s) | .error .notInteger
  let sum := value + amount
  if sum < Int64.minValue.toInt ∨ Int64.maxValue.toInt < sum then .error .overflow
  else return k.put key ⟨.hash (known.insert name (toString sum)), k.expiryOf now key⟩

/-- The scored members under a key, empty when there is no key. -/
def members? (k : Keyspace) (now : Int) (key : String) : Except CommandFault (Table String Int) :=
  match k.get? now key with
  | none => .ok .empty
  | some ⟨.scored members, _⟩ => .ok members
  | some _ => .error .wrongType

/-- Replaces the scored members under a key, which keeps its expiry. -/
def putMembers (k : Keyspace) (now : Int) (key : String) (members : Table String Int) : Keyspace :=
  if members.entries.isEmpty then k.delete key
  else k.put key ⟨.scored members, k.expiryOf now key⟩

/-- Removes the members with a score of at most `limit`. -/
def trim (k : Keyspace) (now : Int) (key : String) (limit : Int) : Except CommandFault Keyspace := do
  let members ← k.members? now key
  return k.putMembers now key (members.keep fun _ score => limit < score)

/-- Adds a member, or changes its score. -/
def addMember (k : Keyspace) (now : Int) (key member : String) (score : Int) : Except CommandFault Keyspace := do
  let members ← k.members? now key
  return k.putMembers now key (members.insert member score)

theorem get?_put (k : Keyspace) (now : Int) (key key' : String) (h : Holding) :
    (k.put key h).get? now key' =
      if key' = key then (if Live now h then some h else none) else k.get? now key' := by
  unfold get? put
  rw [Table.get?_insert]
  split <;> simp [Option.filter]

theorem get?_delete (k : Keyspace) (now : Int) (key key' : String) :
    (k.delete key).get? now key' = if key' = key then none else k.get? now key' := by
  unfold get? delete
  rw [Table.get?_erase]
  split <;> simp

end Keyspace

end Passcode
