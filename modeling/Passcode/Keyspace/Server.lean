/-
  Passcode.Keyspace.Server — requests to a keyspace server, and its replies.

  A server runs each request as one step. Replies may be queued, which it then gives instead of
  running requests, and it may close the connection; on a closed connection nothing is heard.
-/

import Passcode.Keyspace.Script

namespace Passcode.Keyspace

inductive Reply where
  | status (text : String)
  | number (value : Int)
  /-- A text, or nothing. -/
  | bulk (text : Option String)
  | error (text : String)
  /-- No reply: the connection is gone. -/
  | lost
  deriving DecidableEq, Repr, Inhabited

namespace Reply

/-- A queued reply as it is written: a status after a plus sign, a number after a colon, else an
    error. -/
def ofText (s : String) : Reply :=
  match s.toList with
  | '+' :: cs => status (String.ofList cs)
  | ':' :: cs => (Text.signed? Int64.minValue.toInt Int64.maxValue.toInt (String.ofList cs)).elim (error s) number
  | _ => error s

/-- The number that a reply gives, also as a text. -/
def number? : Reply → Option Int
  | number i => some i
  | status s | bulk (some s) => Text.signed? Int64.minValue.toInt Int64.maxValue.toInt s
  | _ => none

/-- The truth that a reply gives. -/
def truth? : Reply → Option Bool
  | number i => some (i != 0)
  | status "OK" | status "1" | bulk (some "1") => some true
  | status "0" | bulk (some "0") | bulk none => some false
  | _ => none

/-- The text that a reply gives. -/
def text? : Reply → Option String
  | number i => some (toString i)
  | status s | bulk (some s) => some s
  | _ => none

/-- Whether a reply is no failure. -/
def isAnswer : Reply → Bool
  | error _ | lost => false
  | _ => true

/-- Whether the same command may succeed later: the connection failed, or the server is busy
    starting or asks for another attempt. -/
def isPassing : Reply → Bool
  | lost => true
  | error text =>
    let code := String.ofList (text.toList.takeWhile (· ≠ ' '))
    code = "LOADING" || code = "TRYAGAIN"
  | _ => false

end Reply

inductive Request where
  | command (words : List String)
  | issue (key code : String) (attempts : Int) (expiry threshold : Nat)
  | verify (key input : String)
  | window (key : String) (width threshold : Nat) (member : String)
  deriving DecidableEq, Repr, Inhabited

namespace Request

/-- Whether a request runs a script. -/
def isScript : Request → Bool
  | command _ => false
  | _ => true

/-- The words of a command; the key and the arguments of a script. -/
def words : Request → List String
  | command words => words
  | issue key code attempts expiry threshold =>
    [key, code, toString attempts, toString expiry, toString threshold]
  | verify key input => [key, input]
  | window key width threshold member => [key, toString width, toString threshold, member]

end Request

/-- Pairs up names and values. -/
def pairs? : List String → Option (List (String × String))
  | [] => some []
  | name :: value :: rest => (pairs? rest).map ((name, value) :: ·)
  | [_] => none

/-- What a command that changes the keyspace replies. -/
def settle (k : Keyspace) (reply : Reply) : Except CommandFault Keyspace → Reply × Keyspace
  | .ok k' => (reply, k')
  | .error e => (.error e.text, k)

/-- A time in a command. -/
def time? (s : String) : Option Int := plainInteger? s

/-- Runs a command. -/
def command (k : Keyspace) (now : Int) (words : List String) : Reply × Keyspace :=
  let found (key : String) : Bool := (k.get? now key).isSome
  let flag (b : Bool) : Reply := .number (if b then 1 else 0)
  match (words.head?.map String.toUpper).toList ++ words.drop 1 with
  | ["PING"] => (.status "PONG", k)
  | ["EXISTS", key] => (flag (found key), k)
  | ["TTL", key] => (.number (k.ttl now key), k)
  | ["PTTL", key] =>
    let reply := match k.get? now key with
      | none => -2
      | some h => (h.left now).getD (-1)
    (.number reply, k)
  | ["DEL", key] => (flag (found key), k.delete key)
  | ["GET", key] =>
    match k.get? now key with
    | none => (.bulk none, k)
    | some ⟨.text value, _⟩ => (.bulk (some value), k)
    | some _ => (.error CommandFault.wrongType.text, k)
  | ["SET", key, value] => (.status "OK", k.put key ⟨.text value, none⟩)
  | ["SETEX", key, seconds, value] =>
    match time? seconds with
    | some s => settle k (.status "OK") (k.setFor now key value s)
    | none => (.error "ERR value is not an integer or out of range", k)
  | ["EXPIRE", key, seconds] =>
    match time? seconds with
    | some s => settle k (flag (found key)) (k.expire now key (s * 1000))
    | none => (.error "ERR value is not an integer or out of range", k)
  | ["PEXPIRE", key, ms] =>
    match time? ms with
    | some ms => settle k (flag (found key)) (k.expire now key ms)
    | none => (.error "ERR value is not an integer or out of range", k)
  | ["HGET", key, name] =>
    match k.field? now key name with
    | .ok value => (.bulk value, k)
    | .error e => (.error e.text, k)
  | "HSET" :: key :: first :: rest =>
    match pairs? (first :: rest), k.hash? now key with
    | some fields, .ok known =>
      let names := (fields.map Prod.fst).eraseDups
      let fresh := names.filter fun name => (known.get? name).isNone
      settle k (.number fresh.length) (k.setFields now key fields)
    | some _, .error e => (.error e.text, k)
    | none, _ => (.error "ERR wrong number of arguments for 'hset' command", k)
  | _ => (.error "ERR unknown command", k)

/-- What a script replies. -/
def scriptReply : Except CommandFault Int × Keyspace → Reply × Keyspace
  | (.ok i, k) => (.number i, k)
  | (.error e, k) => (.error e.text, k)

/-- Runs a request. -/
def serve (k : Keyspace) (now : Int) : Request → Reply × Keyspace
  | .command words => k.command now words
  | .issue key code attempts expiry threshold =>
    scriptReply (issueScript now key code attempts expiry threshold k)
  | .verify key input => scriptReply (verifyScript now key input k)
  | .window key width threshold member => scriptReply (windowScript now key width threshold member k)

/-- A keyspace behind a connection. -/
structure Server where
  keyspace : Keyspace := {}
  /-- Replies given instead of running the next requests. -/
  queued : List Reply := []
  /-- The next request closes the connection. -/
  isClosing : Bool := false
  isClosed : Bool := false
  deriving Inhabited

/-- Takes a request. -/
def Server.take (s : Server) (now : Int) (r : Request) : Reply × Server :=
  if s.isClosed then (.lost, s)
  else if s.isClosing then (.lost, { s with isClosed := true })
  else
    match s.queued with
    | reply :: queued => (reply, { s with queued })
    | [] =>
      let (reply, keyspace) := s.keyspace.serve now r
      (reply, { s with keyspace })

end Passcode.Keyspace
