/-
  Passcode.Keyspace.Address — where a keyspace server is.

  It is on a host, where a URL may give a database number as the path, or behind a socket on the
  same machine, where it may give the number as `db` in the query. Credentials have to be texts.
-/

import Passcode.Text.Url

namespace Passcode.Keyspace

inductive Address where
  | host (name : String)
  | socket (path : String)
  deriving DecidableEq, Repr

namespace Address

/-- Whether the path of a URL is a database number, or empty. -/
def isDatabase (path : String) : Bool :=
  let database := Text.strip (· = '/') path.toList
  database.isEmpty || (Text.int64? (String.ofList database)).isSome

/-- Whether what a query says about the database, last if it says more than once, is a number. -/
def asksDatabase (query : String) : Bool :=
  match (Text.formFields query.toList).reverse.lookup "db".toUTF8.data.toList with
  | some value => ((Text.ofBytes? value).bind Text.int64?).isSome
  | none => true

/-- The server on a URL's host. -/
def onHost? (url : Url) : Option Address := do
  let _ ← Text.percentText? url.user.toList
  let _ ← Text.percentText? url.password.toList
  if isDatabase url.path then url.host.map .host else none

/-- The server behind a URL's path on this machine. -/
def onSocket? (url : Url) : Option Address :=
  if url.path.startsWith "/" && url.host.all (· == "localhost") && asksDatabase (url.query.getD "") then
    some (.socket url.path)
  else none

/-- Reads a URL. -/
def parse? (s : String) : Option Address := do
  let url ← Url.parse? s
  if url.scheme = "redis" then onHost? url
  else if url.scheme = "unix" ∨ url.scheme = "redis+unix" then onSocket? url
  else none

end Address

end Passcode.Keyspace
