/-
  Passcode.Rehearsal.Play — the steps of a rehearsal and what comes of them.

  Each step runs on the stage to its end before the next one begins. Only waiting takes time; the
  wall clock moves when a step says so. Later steps may refer to values by the name that an earlier
  step gave them.
-/

import Passcode.Rehearsal.Cast

namespace Passcode.Rehearsal

/-- A text in a step: as it stands, or the value remembered under a name. -/
inductive Word where
  | literal (text : String)
  | remembered (name : String)

/-- A text put together from words. -/
abbrev Words := List Word

/-- On whose behalf a step acts. -/
inductive Caller where
  | anyone
  /-- One who gives up after some milliseconds. -/
  | patient (ms : Nat)
  /-- One who gives up at an instant. -/
  | bounded (deadline : Nat)
  /-- One known from an earlier step. -/
  | known (name : String)

/-- What a caller enters as a code. -/
inductive Entry where
  | literal (text : String)
  /-- The code that the store took in last. -/
  | sent
  /-- What that was before the latest issue. -/
  | previous
  /-- The last code with every digit replaced by the next one. -/
  | wrong
  /-- The last code and a zero. -/
  | long
  /-- The last code without its first character. -/
  | short
  /-- The last code behind a blank. -/
  | spaced

structure SendStep where
  caller : Caller
  template : Words
  arguments : List Argument
  recipients : List String

/-- A call of the keyspace client. -/
inductive ClientCall where
  | key (name : String)
  | holds (key : String)
  | ttl (key : String)
  | delete (key : String)
  | setWithExpiry (key value : String) (seconds : Nat)
  | healthCheck
  | ping

inductive Step where
  | advance (ms : Nat)
  | setWall (wall : WallTime)
  | context (as : String) (caller : Caller)
  /-- Sleeps under a caller's deadline. -/
  | sleep (caller : Caller) (ms : Nat)
  | send (send : SendStep)
  | sendMany (sends : List SendStep)
  | outbox (provider : String)
  | lastMessage (provider recipient : String)
  | signTemplate (as secret template : String) (expiresAt : Option Int)
  | limit (key : String)
  | store (scope recipient code : String)
  | issue (scope recipient : String) (length : Nat)
  | check (scope recipient : String) (entry : Entry)
  | storeSize
  | codeSend (caller : Caller) (scope recipient : String)
  | codeVerify (caller : Caller) (scope recipient : String) (entry : Entry)
  | issueSession (as : String) (user : Int) (fingerprint : String)
  | validate (token : Words) (fingerprint : String)
  | authenticate (caller : Caller) (token : Words) (fingerprint : String)
  | refresh (as : String) (caller : Caller) (token : Words) (fingerprint : String)
  | renew (as : String) (claims : AccessClaims)
  /-- Renews by the claims of a token. -/
  | renewToken (as : String) (token : Words) (fingerprint : String)
  | revoke (caller : Caller) (session : Words)
  | checkRevoked (caller : Caller) (session : Words)
  | dumpKeyspace
  | command (words : List String)
  | queueReplies (replies : List Keyspace.Reply)
  | closeConnection
  | client (call : ClientCall)

/-- What comes of a step. -/
inductive Outcome where
  | done
  | fault (code message : String)
  | span (remaining : Option Nat) (isExpired isBounded : Bool)
  /-- A sleep that came to its end. -/
  | slept
  | many (outcomes : List Outcome)
  | messages (outbox : Outbox)
  | body (text : Option String)
  | templateToken (token : String)
  | limited (isLimited : Bool)
  | code (length : Nat) (isNumeric : Bool)
  | checked (verdict : Verdict)
  | size (n : Nat)
  | receipt (receipt : CodeReceipt) (length : Nat) (isNumeric : Bool)
  | verified (verdict : Verdict)
  | pair (pair : TokenPair)
  | claims (claims : AccessClaims)
  | token (token : String)
  | renewed (token : Option String)
  | nothing
  | flag (value : Bool)
  | number (value : Int)
  | text (value : String)
  | holdings (entries : List (String × Holding)) (now : Int)
  | reply (reply : Keyspace.Reply)
  /-- The step asks for a part that the scenario does not have. -/
  | missing (part : String)

namespace Outcome

def ofFault (f : Fault) : Outcome := fault f.errorCode f.message.text

def ofBackendFault (f : BackendFault) : Outcome := fault f.errorCode f.text

def ofDelivery : Delivery → Outcome
  | .ok () => done
  | .error e => ofFault (.send e)

/-- The outcome of a value, or the fault in its place. -/
def ofExcept (outcome : α → Outcome) : Except Fault α → Outcome
  | .ok a => outcome a
  | .error e => ofFault e

/-- The outcome of a value, or the backend's fault in its place. -/
def ofBackend (outcome : α → Outcome) : Except BackendFault α → Outcome
  | .ok a => outcome a
  | .error e => ofBackendFault e

end Outcome

/-- Whether a text holds decimal digits only. -/
def isNumeric (s : String) : Bool := s.toList.all Text.isDigit

/-- How far a rehearsal has come. -/
structure Play where
  time : Nat := 0
  deck : Deck Stage
  contexts : List (String × Context) := []
  remembered : List (String × String) := []
  /-- The identifiers of sessions, with the names they go by. -/
  sessions : List (String × String) := []
  /-- The codes that were made. -/
  codes : List String := []
  /-- The code taken in last before the latest issue. -/
  previous : String := ""

namespace Play

def stage (p : Play) : Stage := p.deck.outer

/-- The text of words. -/
def resolve (p : Play) (words : Words) : String :=
  String.join <| words.map fun
    | .literal text => text
    | .remembered name => (p.remembered.lookup name).getD ""

def remember (p : Play) (name value : String) : Play :=
  { p with remembered := (name, value) :: p.remembered }

/-- The context of a caller at the present time. -/
def contextOf (p : Play) : Caller → Context
  | .anyone => .unbounded
  | .patient ms => .bounded (p.time + ms)
  | .bounded deadline => .bounded deadline
  | .known name => (p.contexts.lookup name).getD .unbounded

/-- The digit after a digit; nine is followed by zero. -/
def nextDigit (c : Char) : Char :=
  if c = '9' then '0' else if Text.isDigit c then Char.ofNat (c.toNat + 1) else c

/-- The text that is entered as a code. -/
def entered (p : Play) : Entry → String
  | .literal text => text
  | .sent => p.stage.accepted
  | .previous => p.previous
  | .wrong => p.stage.accepted.map nextDigit
  | .long => p.stage.accepted.push '0'
  | .short => String.ofList (p.stage.accepted.toList.drop 1)
  | .spaced => " " ++ p.stage.accepted

/-- Does work on the whole deck. -/
def perform (p : Play) (work : Task (Deck Stage) α) : α × Play :=
  let e := work.run p.time p.deck
  (e.value, { p with time := e.time, deck := e.state })

/-- Does work on the stage. -/
def act (p : Play) (work : Task Stage α) : α × Play := p.perform (Deck.lift work)

/-- Ends a step with the outcome of some work. -/
def conclude (outcome : α → Outcome) (r : α × Play) : Outcome × Play := (outcome r.1, r.2)

/-- The work of one send. -/
def sending (p : Play) (route : Route Stage) (s : SendStep) : Task (Deck Stage) Delivery :=
  route.send Stage.seconds (p.contextOf s.caller) ⟨p.resolve s.template, s.arguments, s.recipients⟩

/-- The code service of a cast. -/
def codeService (cast : Cast) : Option (CodeService (Deck Stage)) := do
  return {
    store := (← cast.store).focus Deck.outer fun outer d => { d with outer }
    sender := (← cast.route).send Stage.seconds
    settings := ← cast.service }

/-- Random bytes for a step; the code that they make is remembered. -/
def drawCode (p : Play) (length : Nat) : Entropy × Play :=
  let (fresh, q) := p.act Stage.draw
  (fresh, { q with codes := fresh.code length :: q.codes, previous := p.stage.accepted })

/-- A renewal that may not have been due. -/
def renewal (c : TokenSettings) (as : String) (claims : AccessClaims) (p : Play) : Outcome × Play :=
  let token := c.renew claims p.stage.seconds
  (.renewed token, token.elim p fun t => p.remember as t)

/-- A step of a part, if the cast has it. -/
def using_ (p : Play) (part : Option α) (name : String) (step : α → Outcome × Play) : Outcome × Play :=
  match part with
  | some a => step a
  | none => (.missing name, p)

/-- Changes the keyspace server. -/
def changeServer (p : Play) (f : Keyspace.Server → Keyspace.Server) : Play :=
  (p.act (Task.modify fun s => { s with server := f s.server })).2

/-- A call of the keyspace client. -/
def clientCall (p : Play) (client : Keyspace.Client Stage) : ClientCall → Outcome × Play
  | .key name => (.text (client.settings.key name), p)
  | .holds key => conclude (.ofBackend .flag) (p.act (client.holds key))
  | .ttl key => conclude (.ofBackend .number) (p.act (client.ttl key))
  | .delete key => conclude (.ofBackend .flag) (p.act (client.delete key))
  | .setWithExpiry key value seconds =>
    conclude (.ofBackend fun _ => .nothing) (p.act (client.setWithExpiry key value seconds))
  | .healthCheck => conclude (.ofBackend .flag) (p.act client.healthCheck)
  | .ping => conclude (.ofBackend .text) (p.act client.ping)

/-- Whether one key comes before another. -/
def keyPrecedes (a b : String × Holding) : Bool := decide (a.1 < b.1) || a.1 == b.1

/-- Plays a step. -/
def step (cast : Cast) (p : Play) : Step → Outcome × Play
  | .advance ms =>
    let (_, p) := p.act (do
      Task.sleep ms
      Task.modify fun s => { s with wall := s.wall.advance ms })
    (.done, p)
  | .setWall wall => (.done, (p.act (Task.modify fun s => { s with wall })).2)
  | .context as caller =>
    let ctx := p.contextOf caller
    (.span (ctx.remaining p.time) (ctx.isExpired p.time) ctx.deadline.isSome,
      { p with contexts := (as, ctx) :: p.contexts })
  | .sleep caller ms =>
    conclude (fun r : Option Unit => r.elim (.ofFault .deadlineExceeded) fun _ => .slept)
      (p.act ((p.contextOf caller).run (Stage.pause ms)))
  | .send s => p.using_ cast.route "sender" fun route =>
    conclude .ofDelivery (p.perform (p.sending route s))
  | .sendMany sends => p.using_ cast.route "sender" fun route =>
    conclude (fun r : List Delivery => .many (r.map .ofDelivery))
      (p.perform (Task.join (sends.map (p.sending route))))
  | .outbox provider => p.using_ (cast.outboxes.lookup provider) "outbox" fun part =>
    (.messages ((p.stage.outboxes.get? part).getD []), p)
  | .lastMessage provider recipient => p.using_ (cast.outboxes.lookup provider) "outbox" fun part =>
    (.body (Outbox.lastTo? ((p.stage.outboxes.get? part).getD []) recipient), p)
  | .signTemplate as secret template expiresAt =>
    let token := Dispatch.signTemplate secret template expiresAt
    (.templateToken token, p.remember as token)
  | .limit key => p.using_ cast.limiter "limiter" fun limiter =>
    conclude (fun r : Except LimitFault Bool => match r with
      | .ok b => .limited b
      | .error e => .fault e.errorCode e.message.text) (p.act (limiter key))
  | .store scope recipient code => p.using_ cast.store "store" fun store =>
    conclude (fun r : Except CodeFault Unit => .ofExcept (fun _ => .done) (r.mapError .code))
      (p.act (store.store scope recipient code))
  | .issue scope recipient length => p.using_ cast.store "store" fun store =>
    let (fresh, p) := p.drawCode length
    conclude (fun r : Except CodeFault String =>
        .ofExcept (fun code => .code code.length (isNumeric code)) (r.mapError .code))
      (p.act (store.issue fresh scope recipient length))
  | .check scope recipient entry => p.using_ cast.store "store" fun store =>
    conclude (fun r : Except CodeFault Verdict => .ofExcept .checked (r.mapError .code))
      (p.act (store.verify scope recipient (p.entered entry)))
  | .storeSize => (.size p.stage.book.size, p)
  | .codeSend caller scope recipient => p.using_ (codeService cast) "code_service" fun service =>
    let ctx := p.contextOf caller
    let (fresh, p) := p.drawCode service.settings.codeLength
    let code := fresh.code service.settings.codeLength
    conclude (.ofExcept fun receipt => .receipt receipt code.length (isNumeric code))
      (p.perform (service.send fresh ctx scope recipient))
  | .codeVerify caller scope recipient entry => p.using_ (codeService cast) "code_service" fun service =>
    conclude (.ofExcept .verified)
      (p.perform (service.verify (p.contextOf caller) scope recipient (p.entered entry)))
  | .issueSession as user fingerprint => p.using_ cast.session "session" fun service =>
    let (fresh, p) := p.act Stage.draw
    let pair := service.settings.issue fresh user fingerprint p.stage.seconds
    let p := ((p.remember (as ++ ".access") pair.accessToken).remember (as ++ ".refresh")
      pair.refreshToken).remember (as ++ ".sid") pair.session
    (.pair pair, { p with sessions := (pair.session, as) :: p.sessions })
  | .validate token fingerprint => p.using_ cast.session "session" fun service =>
    (.ofExcept .claims ((service.settings.validateAccess (p.resolve token) fingerprint
      p.stage.seconds).mapError .token), p)
  | .authenticate caller token fingerprint => p.using_ cast.session "session" fun service =>
    conclude (.ofExcept .claims)
      (p.act (service.authenticate (p.contextOf caller) (p.resolve token) fingerprint p.stage.seconds))
  | .refresh as caller token fingerprint => p.using_ cast.session "session" fun service =>
    let (result, p) :=
      p.act (service.refresh (p.contextOf caller) (p.resolve token) fingerprint p.stage.seconds)
    match result with
    | .ok token => (.token token, p.remember as token)
    | .error e => (.ofFault e, p)
  | .renew as claims => p.using_ cast.session "session" fun service =>
    renewal service.settings as claims p
  | .renewToken as token fingerprint => p.using_ cast.session "session" fun service =>
    match service.settings.validateAccess (p.resolve token) fingerprint p.stage.seconds with
    | .ok claims => renewal service.settings as claims p
    | .error e => (.ofFault (.token e), p)
  | .revoke caller session => p.using_ cast.session "session" fun service =>
    conclude (.ofExcept fun _ => .nothing)
      (p.act (service.revoke (p.contextOf caller) (p.resolve session)))
  | .checkRevoked caller session => p.using_ cast.session "session" fun service =>
    conclude (.ofExcept .flag)
      (p.act (service.checkRevoked (p.contextOf caller) (p.resolve session)))
  | .dumpKeyspace =>
    let now := p.stage.wall.millis
    let live := p.stage.server.keyspace.holdings.entries.filter fun e => Keyspace.Live now e.2
    (.holdings (live.mergeSort keyPrecedes) now, p)
  | .command words =>
    let (reply, keyspace) := p.stage.server.keyspace.command p.stage.wall.millis words
    (.reply reply, p.changeServer fun s => { s with keyspace })
  | .queueReplies replies => (.done, p.changeServer fun s => { s with queued := replies })
  | .closeConnection => (.done, p.changeServer fun s => { s with isClosing := true })
  | .client call => p.clientCall (Stage.client cast.settings) call

/-- What is reported of a step. -/
structure Report where
  outcome : Outcome
  /-- What the parts noticed, in order. -/
  events : List Event
  /-- Milliseconds. -/
  took : Nat
  /-- The provider in use and its timeouts in a row, for each described sender that stays with one. -/
  streaks : List Streak

/-- Plays a step and reports it. -/
def report (cast : Cast) (p : Play) (s : Step) : Report × Play :=
  let (outcome, q) := p.step cast s
  let events := q.stage.events.reverse
  let q := { q with deck := { q.deck with outer := { q.stage with events := [] } } }
  ({ outcome, events, took := q.time - p.time, streaks := cast.streaks.map q.deck.streak }, q)

end Play

/-- Plays all steps of a scenario; the names that values go by are known at the end. -/
def Scenario.play (s : Scenario) (cast : Cast) (steps : List Step) : List Play.Report × Play :=
  let start : Play := { deck := s.stage }
  let (reports, last) := steps.foldl (fun (reports, p) step =>
    let (report, p) := p.report cast step
    (report :: reports, p)) ([], start)
  (reports.reverse, last)

end Passcode.Rehearsal
