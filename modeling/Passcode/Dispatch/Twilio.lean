/-
  Passcode.Dispatch.Twilio — a provider that posts messages to the Twilio API.

  There is one request for each recipient, in order. A request that gets no answer in time ends the
  send, since the others would fare the same; other failures are collected and reported together.
-/

import Passcode.Dispatch.Sender
import Passcode.Http.Exchange
import Passcode.Json.Parser
import Passcode.Json.Record
import Passcode.Phone
import Passcode.Settings.Delivery

namespace Passcode.Twilio

/-- Most characters in a message. -/
def maxBodyLength : Nat := 1600

/-- Refuses settings that no message could be sent with. -/
def check (c : ProviderSettings) : Except BackendFault Unit :=
  if c.accountSid = "" ∨ c.authToken = "" then
    .error (.config ("Twilio provider " ++ c.name ++ " requires an account SID and auth token"))
  else if !Phone.isInternational c.fromNumber then
    .error (.config ("Twilio provider " ++ c.name ++ " sender number must be in E.164 format"))
  else .ok ()

/-- Where messages are posted to. -/
def messagesUrl (c : ProviderSettings) : String :=
  let base := (c.baseUrl.toList.reverse.dropWhile (· = '/')).reverse
  String.ofList base ++ "/2010-04-01/Accounts/" ++ c.accountSid ++ "/Messages.json"

/-- The request that sends a body to a number. -/
def request (c : ProviderSettings) (number body : String) : Http.Request where
  url := messagesUrl c
  user := c.accountSid
  password := c.authToken
  form := [("To", number), ("From", c.fromNumber), ("Body", body)]

/-- What a refused request is reported as: the API's own code and text where its answer gives them,
    else the status and the answer. -/
def refusalText (status : Nat) (body : String) : String :=
  let stated : Option (Int64 × String) := do
    let r ← (← Json.parse? body).asRecord? ["code", "message"]
    let code ← r.optional "code" Json.asInt64?
    let message ← r.optional "message" Json.asString?
    return (← code, ← message)
  match stated with
  | some (code, message) => toString status ++ " " ++ toString code.toInt ++ ": " ++ message
  | none => if body = "" then Http.statusText status else Http.statusText status ++ ": " ++ body

/-- Whether the body of an accepted request names the message. -/
def isReceipt (body : String) : Bool :=
  (do (← (← Json.parse? body).asRecord? ["sid"]).required "sid" Json.asString?).isSome

/-- What an answer means. -/
def judge (c : ProviderSettings) (status : Nat) (body : Option String) : Delivery :=
  if Http.isSuccess status then
    match body with
    | none => .error (.provider c.name "<transport error>")
    | some body => if isReceipt body then .ok () else .error (.provider c.name "<decode error>")
  else .error (.provider c.name (refusalText status (body.getD "")))

/-- What an answer means whose body does not come in time. -/
def judgeStalled (c : ProviderSettings) (status : Nat) : Delivery :=
  if Http.isSuccess status then .error (.providerTimeout c.name)
  else .error (.provider c.name (refusalText status ""))

/-- A way to the API: takes a request at a time and says what becomes of it. -/
abbrev Line (σ : Type) := Nat → Http.Request → σ → Http.Reply × σ

variable {σ : Type}

/-- Waits for something that takes `delay` milliseconds, less than `limit` of them; tells whether it came. -/
def await (limit delay : Nat) : Task σ Bool := do
  Task.sleep (min limit delay)
  return delay < limit

/-- Waits for what becomes of a request that may take `limit` milliseconds in all. -/
def hear (c : ProviderSettings) (limit : Nat) (reply : Http.Reply) : Task σ Delivery := do
  match reply.exchange with
  | .answer status body =>
    if !(← await limit reply.start) then return .error (.providerTimeout c.name)
    if ← await (limit - reply.start) reply.body then return judge c status body
    return judgeStalled c status
  | .dropped =>
    if ← await limit reply.start then return .error (.provider c.name "<transport error>")
    return .error (.providerTimeout c.name)
  | .silent =>
    Task.sleep limit
    return .error (.providerTimeout c.name)

/-- Posts one message. When no time at all is allowed for an answer, the request is not made. -/
def post (line : Line σ) (c : ProviderSettings) (number body : String) : Task σ Delivery := do
  let request := request c number body
  if request.path?.isNone then return .error (.provider c.name "<transport error>")
  if c.requestTimeoutSecs = 0 then return .error (.providerTimeout c.name)
  hear c (c.requestTimeoutSecs.toNat * 1000) (← Task.act fun now s => line now request s)

/-- Posts a message to one number after the other; `failures` are the reports so far. -/
def postEach (line : Line σ) (c : ProviderSettings) (ctx : Context) (body : String) :
    List String → List String → Task σ Delivery
  | [], [] => return .ok ()
  | [], failures => return .error (.provider c.name ("; ".intercalate failures))
  | number :: rest, failures => do
    match ← ctx.run (post line c number body) with
    | none => return .error .cancelled
    | some (.ok ()) => postEach line c ctx body rest failures
    | some (.error e) =>
      if e.isTimeout then return .error e
      else postEach line c ctx body rest (failures ++ [Phone.mask number ++ ": " ++ e.message.text])

/-- The numbers of recipients in international format, or the first, masked, that has none. -/
def targets : List String → Except SendFault (List String)
  | [] => .ok []
  | recipient :: rest =>
    match Phone.international? recipient with
    | some number => (targets rest).map (number :: ·)
    | none => .error (.invalidRecipient (Phone.mask recipient))

/-- The body of a message and the numbers it goes to. -/
def compose (c : ProviderSettings) (templates : Templates) (message : Message) :
    Except SendFault (String × List String) :=
  match templates.body? message.template with
  | none => .error (.provider c.name ("unknown template " ++ message.template))
  | some template =>
    let body := Message.render template message.arguments
    if body.length > maxBodyLength then
      .error (.provider c.name "message exceeds maximum length of 1600 characters")
    else (targets message.recipients).map (body, ·)

/-- The provider. -/
def provider (c : ProviderSettings) (templates : Templates) (line : Line σ) : Sender σ :=
  fun ctx message =>
    match compose c templates message with
    | .error e => return .error e
    | .ok (body, numbers) => postEach line c ctx body numbers []

end Passcode.Twilio
