/-
  Passcode.Rehearsal.Cast — the parts of a rehearsal: how they are described, and how they are put
  together.

  Parts are put together from the inside out, in the order keyspace, sender, limiter, store, code
  service, sessions. The first part that cannot be had ends it.
-/

import Passcode.Code.Service
import Passcode.Keyspace.Address
import Passcode.Rehearsal.Stage
import Passcode.Session.Service

namespace Passcode.Rehearsal

inductive LimiterPart where
  | window (settings : RateSettings) (delay : Nat)
  | shared (settings : RateSettings) (delay : Nat)
  | scripted (answers : List (Except LimitFault Bool)) (after : Except LimitFault Bool) (delay : Nat)

inductive SenderPart where
  | scripted (name : String) (delay : Nat) (cues : List Stage.Cue) (after : Stage.Cue)
  | memory (name : String) (templates : Templates)
  | twilio (settings : ProviderSettings) (templates : Templates)
  | failover (inner : List SenderPart)
  | rotating (inner : List SenderPart)
  | sticky (threshold : Nat) (inner : List SenderPart)
  | retry (settings : RetrySettings) (inner : SenderPart)
  | limited (key : String) (limiter : LimiterPart) (inner : SenderPart)
  | authorized (secret : String) (inner : SenderPart)
  /-- The chain that settings describe. -/
  | chain (settings : DeliverySettings) (limiter : LimiterPart)
  deriving Inhabited

inductive StoreKind where
  | memory
  | shared
  | failing
  deriving DecidableEq, Repr

structure StorePart where
  kind : StoreKind
  settings : CodeSettings := {}
  delay : Nat := 0

structure SessionPart where
  settings : TokenSettings := {}
  kind : StoreKind := .memory
  delay : Nat := 0

/-- What a rehearsal is set up from. -/
structure Scenario where
  wall : WallTime
  network : Network
  cache : Option CacheSettings := none
  exchanges : List Http.Exchange := []
  sender : Option SenderPart := none
  limiter : Option LimiterPart := none
  store : Option StorePart := none
  service : Option CodeServiceSettings := none
  session : Option SessionPart := none

/-- Why a rehearsal cannot begin. -/
inductive SetupFault where
  | backend (fault : BackendFault)
  | refused (fault : Fault)

/-- The parts put together. -/
structure Cast where
  settings : CacheSettings := {}
  route : Option (Route Stage) := none
  limiter : Option (Limiter Stage) := none
  store : Option (CodeStore Stage) := none
  service : Option CodeServiceSettings := none
  session : Option (SessionService Stage) := none
  /-- The slots of the described senders that stay with one provider. -/
  streaks : List Nat := []
  /-- The parts that keep messages, by name. -/
  outboxes : List (String × Nat) := []

/-- What has been given out while parts are put together. -/
structure Roster where
  settings : CacheSettings := {}
  /-- The number of the next part, and of the next slot. -/
  next : Nat := 0
  streaks : List Nat := []
  outboxes : List (String × Nat) := []

/-- Putting parts together. -/
abbrev Casting (α : Type) := StateT Roster (Except SetupFault) α

namespace Casting

/-- Numbers for `count` parts; the first of them. -/
def numbers (count : Nat) : Casting Nat :=
  modifyGet fun r => (r.next, { r with next := r.next + count })

def limiter (part : LimiterPart) : Casting (Limiter Stage) := do
  let n ← numbers 1
  let settings := (← get).settings
  return match part with
    | .window c delay => Stage.observed delay (Stage.windowLimiter n c)
    | .shared c delay => Stage.observed delay ((Stage.client settings).limiter c)
    | .scripted answers after delay => Stage.observed delay (Stage.scriptedLimiter n answers after)

mutual

def sender : SenderPart → Casting (Route Stage)
  | .scripted name delay cues after => do
    return .provider name (Stage.scriptedProvider (← numbers 1) name delay cues after)
  | .memory name templates => do
    let n ← numbers 1
    modify fun r => { r with outboxes := (name, n) :: r.outboxes }
    return .provider name (Outbox.provider name templates (Stage.keep n))
  | .twilio c templates =>
    match Twilio.check c with
    | .error e => throw (.backend e)
    | .ok () => return .provider c.name (Twilio.provider c templates Stage.post)
  | .failover inner => do return .failover (← senders inner)
  | .rotating inner => do
    let inner ← senders inner
    return .rotating (← numbers 1) inner
  | .sticky threshold inner => do
    let inner ← senders inner
    let slot ← numbers 1
    modify fun r => { r with streaks := r.streaks ++ [slot] }
    return .sticky slot threshold inner
  | .retry c inner => do return .retry c.maxRetries.toNat c.backoffMs.toNat (← sender inner)
  | .limited key part inner => do
    let inner ← sender inner
    return .limited (← limiter part) key inner
  | .authorized secret inner => do return .authorized secret (← sender inner)
  | .chain c part => do
    let limiter ← limiter part
    let n ← numbers (c.providers.length + 1)
    match c.route limiter (Stage.carrier (n + 1)) n with
    | .error e => throw (.backend e)
    | .ok route => return route

def senders : List SenderPart → Casting (List (Route Stage))
  | [] => return []
  | part :: rest => do
    let first ← sender part
    return first :: (← senders rest)

end

def store (part : StorePart) : Casting (CodeStore Stage) := do
  let client := Stage.client (← get).settings
  return Stage.remembering part.delay <| match part.kind with
    | .memory => Stage.bookStore part.settings
    | .shared => client.codeStore part.settings
    | .failing => Stage.failingStore

/-- A repository on the keyspace that waits before each call. -/
def delayed (delay : Nat) (repository : SessionRepository Stage) : SessionRepository Stage where
  markRevoked session seconds := do
    Stage.pause delay
    repository.markRevoked session seconds
  isRevoked session := do
    Stage.pause delay
    repository.isRevoked session

def session (part : SessionPart) : Casting (SessionService Stage) := do
  let client := Stage.client (← get).settings
  match part.settings.check with
  | .error e => throw (.refused e)
  | .ok () =>
    let repository := match part.kind with
      | .memory => Stage.memoryRepository part.delay
      | .shared => delayed part.delay client.repository
      | .failing => Stage.failingRepository part.delay
    return ⟨repository, part.settings⟩

/-- Connects to the keyspace server, which is the one called `fake`. -/
def connect (network : Network) (c : CacheSettings) : Except SetupFault Unit :=
  match Keyspace.Address.parse? c.url with
  | none => .error (.backend (.config "<invalid url>"))
  | some address => if network = .up ∧ address = .host "fake" then .ok () else .error (.backend .cache)

/-- Puts an optional part together. -/
def whenGiven (build : α → Casting β) : Option α → Casting (Option β)
  | some part => some <$> build part
  | none => return none

def cast (s : Scenario) : Casting Cast := do
  if let some c := s.cache then
    match connect s.network c with
    | .error e => throw e
    | .ok () => modify fun r => { r with settings := c }
  let route ← whenGiven sender s.sender
  let limiter ← whenGiven limiter s.limiter
  let store ← whenGiven store s.store
  let session ← whenGiven session s.session
  let roster ← get
  return {
    settings := roster.settings
    route, limiter, store, session
    service := s.service
    streaks := roster.streaks
    outboxes := roster.outboxes }

end Casting

/-- The cast of a scenario. -/
def Scenario.cast (s : Scenario) : Except SetupFault Cast := (·.1) <$> (Casting.cast s).run {}

/-- The stage on which a scenario begins. -/
def Scenario.stage (s : Scenario) : Deck Stage :=
  { outer := { wall := s.wall, network := s.network, exchanges := s.exchanges } }

end Passcode.Rehearsal
