/-
  Passcode.Http.Exchange — a form posted over HTTP, and what comes back.
-/

import Passcode.Text.Url

namespace Passcode.Http

/-- A form posted with basic authentication. -/
structure Request where
  url : String
  user : String
  password : String
  form : List (String × String)
  deriving DecidableEq, Repr, Inhabited

/-- The path that a request asks for; nothing when its address is no web address. -/
def Request.path? (r : Request) : Option String :=
  ((Url.parse? r.url).filter fun url => Url.isWebScheme url.scheme).map Url.path

/-- What becomes of a request. -/
inductive Exchange where
  /-- An answer; `none` is a body that breaks off. -/
  | answer (status : Nat) (body : Option String)
  /-- The connection failed or was closed without an answer. -/
  | dropped
  /-- No answer ever comes. -/
  | silent
  deriving DecidableEq, Repr, Inhabited

/-- What becomes of a request, and when. -/
structure Reply where
  exchange : Exchange
  /-- Milliseconds until an answer begins, or the connection is closed. -/
  start : Nat := 0
  /-- Milliseconds from then on until the body of an answer is there. -/
  body : Nat := 0
  deriving DecidableEq, Repr, Inhabited

/-- Standard reason phrases. -/
def reasonPhrases : List (Nat × String) := [
  (100, "Continue"), (101, "Switching Protocols"), (102, "Processing"), (200, "OK"), (201, "Created"),
  (202, "Accepted"), (203, "Non Authoritative Information"), (204, "No Content"),
  (205, "Reset Content"), (206, "Partial Content"), (207, "Multi-Status"), (208, "Already Reported"),
  (226, "IM Used"), (300, "Multiple Choices"), (301, "Moved Permanently"), (302, "Found"),
  (303, "See Other"), (304, "Not Modified"), (305, "Use Proxy"), (307, "Temporary Redirect"),
  (308, "Permanent Redirect"), (400, "Bad Request"), (401, "Unauthorized"), (402, "Payment Required"),
  (403, "Forbidden"), (404, "Not Found"), (405, "Method Not Allowed"), (406, "Not Acceptable"),
  (407, "Proxy Authentication Required"), (408, "Request Timeout"), (409, "Conflict"), (410, "Gone"),
  (411, "Length Required"), (412, "Precondition Failed"), (413, "Payload Too Large"),
  (414, "URI Too Long"), (415, "Unsupported Media Type"), (416, "Range Not Satisfiable"),
  (417, "Expectation Failed"), (418, "I'm a teapot"), (421, "Misdirected Request"),
  (422, "Unprocessable Entity"), (423, "Locked"), (424, "Failed Dependency"),
  (426, "Upgrade Required"), (428, "Precondition Required"), (429, "Too Many Requests"),
  (431, "Request Header Fields Too Large"), (451, "Unavailable For Legal Reasons"),
  (500, "Internal Server Error"), (501, "Not Implemented"), (502, "Bad Gateway"),
  (503, "Service Unavailable"), (504, "Gateway Timeout"), (505, "HTTP Version Not Supported"),
  (506, "Variant Also Negotiates"), (507, "Insufficient Storage"), (508, "Loop Detected"),
  (510, "Not Extended"), (511, "Network Authentication Required")]

/-- A status and its reason phrase. -/
def statusText (status : Nat) : String :=
  toString status ++ " " ++ (reasonPhrases.lookup status).getD "<unknown status code>"

/-- Whether a status reports success. -/
def isSuccess (status : Nat) : Bool := 200 ≤ status && status < 300

end Passcode.Http
