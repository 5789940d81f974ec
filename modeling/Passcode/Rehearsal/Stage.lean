/-
  Passcode.Rehearsal.Stage — the state of a rehearsal and what its parts do to it.

  A rehearsal plays the services against scripted providers, limiters, answers and clocks. The stage
  holds what the parts keep, and the events that they notice, latest first.
-/

import Passcode.Code.Locked
import Passcode.Dispatch.Chain
import Passcode.Keyspace.Client
import Passcode.Limit.Window
import Passcode.Time.Calendar

namespace Passcode.Rehearsal

/-- What a part noticed; times are in milliseconds. -/
inductive Event where
  | sent (provider : String) (time : Nat) (message : Message)
  | consulted (key : String) (time : Nat)
  | posted (request : Http.Request)
  | revoked (session : String) (seconds : Nat)
  | looked (session : String)
  | served (request : Keyspace.Request)
  deriving Repr

/-- Whether HTTP and keyspace servers can be reached. -/
inductive Network where
  | up
  | down
  deriving DecidableEq, Repr

structure Stage where
  wall : WallTime
  network : Network
  events : List Event := []
  /-- How often each part has been called. -/
  turns : Table Nat Nat := .empty
  callLogs : Table Nat CallLog := .empty
  outboxes : Table Nat Outbox := .empty
  /-- What becomes of the next posts. -/
  exchanges : List Http.Exchange := []
  book : LockedBook := {}
  revoked : List String := []
  /-- The code that the store took in last. -/
  accepted : String := ""
  server : Keyspace.Server := {}
  /-- How many random values have been made. -/
  draws : Nat := 0

namespace Stage

/-- The clock as far as services read it: seconds since 1970. -/
def seconds (s : Stage) : Int := s.wall.seconds

def note (s : Stage) (e : Event) : Stage := { s with events := e :: s.events }

/-- Random bytes that have not been used. -/
def entropy (s : Stage) : Entropy := .ofSeed (Sha256.bigEndian 8 s.draws)

/-- Takes random bytes. -/
def draw : Task Stage Entropy := .act fun _ s => (s.entropy, { s with draws := s.draws + 1 })

/-- The number of a part's call, from zero on. -/
def turn (part : Nat) : Task Stage Nat := .act fun _ s =>
  let n := (s.turns.get? part).getD 0
  (n, { s with turns := s.turns.insert part (n + 1) })

/-- Waits, if there is anything to wait for. -/
def pause (delay : Nat) : Task Stage Unit := if delay = 0 then return () else Task.sleep delay

/-! ## Parts -/

/-- How a scripted provider answers a call. -/
structure Cue where
  /-- Milliseconds, in place of the provider's own. -/
  delay : Option Nat := none
  delivery : Delivery := .ok ()

/-- A provider that answers from a script, and in one way when that is used up. It notices each call,
    then takes its time, in which the caller may give up. -/
def scriptedProvider (part : Nat) (name : String) (delay : Nat) (cues : List Cue) (after : Cue) :
    Sender Stage := fun ctx message => do
  let n ← turn part
  let cue := (cues[n]?).getD after
  Task.act fun now s => ((), s.note (.sent name now message))
  match cue.delay.getD delay with
  | 0 => return cue.delivery
  | d + 1 =>
    match ← ctx.run (Task.sleep (d + 1)) with
    | none => return .error .cancelled
    | some () => return cue.delivery

/-- Notices that a limiter is consulted, and lets it take its time. -/
def observed (delay : Nat) (limiter : Limiter Stage) : Limiter Stage := fun key => do
  Task.act fun now s => ((), s.note (.consulted key now))
  pause delay
  limiter key

/-- A limiter that answers from a script, and in one way when that is used up. -/
def scriptedLimiter (part : Nat) (answers : List (Except LimitFault Bool)) (after : Except LimitFault Bool) :
    Limiter Stage := fun _ => do
  let n ← turn part
  return (answers[n]?).getD after

/-- A limiter with a call log of its own. -/
def windowLimiter (part : Nat) (c : RateSettings) : Limiter Stage := fun key =>
  (CallLog.asLimiter (.ofSettings c) key).focus
    (fun s => (s.callLogs.get? part).getD {})
    fun log s => { s with callLogs := s.callLogs.insert part log }

/-- Takes a post: it is answered from the list at once, or accepted when that is used up. -/
def post : Twilio.Line Stage := fun _ request s =>
  match s.network with
  | .down => ({ exchange := .dropped }, s)
  | .up =>
    let s := s.note (.posted request)
    match s.exchanges with
    | exchange :: exchanges => ({ exchange }, { s with exchanges })
    | [] => ({ exchange := .answer 201 (some "\x7b\"sid\":\"SM0\"\x7d") }, s)

/-- Keeps messages in the outbox of a part. -/
def keep (part : Nat) (_now : Nat) (messages : Outbox) (s : Stage) : Stage :=
  { s with outboxes := s.outboxes.insert part ((s.outboxes.get? part).getD [] ++ messages) }

/-- The providers of a chain; their messages are kept apart from those of the parts. -/
def carrier (part : Nat) : Carrier Stage where
  keep place := keep (part + place)
  line _ := post

/-- A connection to the keyspace server. -/
def client (settings : CacheSettings) : Keyspace.Client Stage where
  settings
  call r := .act fun _ s =>
    let heard := if s.server.isClosed then s else s.note (.served r)
    let (reply, server) := s.server.take s.wall.millis r
    (reply, { heard with server })
  member := Entropy.uuid <$> draw

/-- A store that waits before each call and remembers the code that it took in last. -/
def remembering (delay : Nat) (store : CodeStore Stage) : CodeStore Stage where
  store scope recipient code := do
    pause delay
    let result ← store.store scope recipient code
    if result.toBool then Task.modify fun s => { s with accepted := code }
    return result
  verify scope recipient input := do
    pause delay
    store.verify scope recipient input

/-- The clock of a process counts seconds in 64 bits with a sign. -/
def horizon : Nat := 9223372036854775808 * 1000

/-- The store in the process. -/
def bookStore (c : CodeSettings) : CodeStore Stage :=
  (LockedBook.asStore (.ofSettings c) horizon).focus Stage.book fun book s => { s with book }

/-- A store that always fails. -/
def failingStore : CodeStore Stage where
  store _ _ _ := return .error (.system "store down")
  verify _ _ _ := return .error (.system "store down")

/-- A repository that notices its calls and forgets nothing. -/
def memoryRepository (delay : Nat) : SessionRepository Stage where
  markRevoked session seconds := do
    pause delay
    Task.modify fun s => { s.note (.revoked session seconds) with revoked := session :: s.revoked }
    return .ok ()
  isRevoked session := do
    pause delay
    Task.act fun _ s => (.ok (s.revoked.contains session), s.note (.looked session))

/-- A repository that always fails. -/
def failingRepository (delay : Nat) : SessionRepository Stage where
  markRevoked _ _ := do
    pause delay
    return .error (.internal "repository down")
  isRevoked _ := do
    pause delay
    return .error (.internal "repository down")

end Stage

end Passcode.Rehearsal
