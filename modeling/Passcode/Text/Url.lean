/-
  Passcode.Text.Url — addresses of servers.

  A URL names a scheme, a host, perhaps behind credentials and before a service number, a path and a
  query. Controls and blanks around it are passed over, and so are tabs and line ends within. Web
  schemes take any number of slashes before the host, either way round; others take exactly two, and
  may name no host at all.
-/

import Passcode.Text.NumericHost
import Passcode.Text.Percent

namespace Passcode

structure Url where
  /-- In lower case. -/
  scheme : String
  /-- As it was written; empty when there is none. -/
  user : String
  /-- As it was written; empty when there is none. -/
  password : String
  host : Option String
  /-- As it is asked for: dot segments resolved, and percent-encoded. One that starts without a slash
      stands behind the scheme alone, and is kept as it was written. -/
  path : String
  /-- As it was written. -/
  query : Option String
  deriving DecidableEq, Repr

namespace Url

/-- A text without what URLs pass over. -/
def clean (s : String) : List Char :=
  Text.strip (·.toNat ≤ 0x20) (s.toList.filter fun c => c ≠ '\t' ∧ c ≠ '\n' ∧ c ≠ '\r')

def isSchemeChar (c : Char) : Bool := c.isAlphanum || c == '+' || c == '-' || c == '.'

/-- Splits a text behind its scheme, which starts with a letter and ends with a colon. -/
def splitScheme? (cs : List Char) : Option (String × List Char) :=
  let scheme := cs.takeWhile isSchemeChar
  match scheme, cs.drop scheme.length with
  | first :: _, ':' :: rest =>
    if first.isAlpha then some (String.ofList (scheme.map Char.toLower), rest) else none
  | _, _ => none

def isWebScheme (scheme : String) : Bool := scheme == "http" || scheme == "https"

/-! ## Hosts -/

/-- Characters that no host holds. -/
def isForbidden (c : Char) : Bool := c.toNat = 0 || " #/:<>?@[\\]^|".toList.contains c

/-- Characters that no host of a web address holds. -/
def isWebForbidden (c : Char) : Bool := isForbidden c || c.toNat < 0x20 || c.toNat = 0x7f || c = '%'

/-- Whether a text is a version 6 address in brackets. -/
def isBracketed (cs : List Char) : Bool := cs.getLast? == some ']' && Text.isIpv6 (cs.drop 1).dropLast

/-- Whether a web address may name a host. -/
def isWebHost (cs : List Char) : Bool :=
  if cs.head? = some '[' then isBracketed cs
  else
    match Text.percentText? cs with
    | none => false
    | some name =>
      let name := name.toLower.toList
      !name.isEmpty && !name.any isWebForbidden && (!Text.endsInNumber name || Text.isIpv4 name)

/-- Whether any other URL may name a host. -/
def isHost (cs : List Char) : Bool :=
  if cs.head? = some '[' then isBracketed cs else !cs.any isForbidden

/-- Splits a text at the colon that ends its host; colons between brackets belong to the host. -/
def splitHost (bracketed : Bool) : List Char → List Char × List Char
  | [] => ([], [])
  | c :: cs =>
    if c = ':' ∧ !bracketed then ([], c :: cs)
    else
      let (host, rest) := splitHost (c == '[' || (bracketed && c != ']')) cs
      (c :: host, rest)

/-- What follows the number of a service, which may be left out. -/
def afterService? (cs : List Char) : Option (List Char) :=
  match cs with
  | ':' :: rest =>
    let digits := rest.takeWhile Text.isDigit
    let rest := rest.drop digits.length
    if Text.digitsValue digits ≤ 65535 ∧ (rest = [] ∨ rest.head? = some '\\') then some rest else none
  | cs => some cs

/-! ## Paths -/

/-- How a character stands in a path. -/
def pathChar (c : Char) : List Char :=
  if c.toNat ≤ 0x20 || c.toNat ≥ 0x7f || "\"#<>?^\x60\x7b\x7d".toList.contains c then
    Text.percentEncode c
  else [c]

/-- Whether a segment of a path is the directory itself, or, with two points, the one above. -/
def isDots (count : Nat) (segment : List Char) : Bool :=
  Text.replaceAll "%2e".toList ['.'] (segment.map Char.toLower) == List.replicate count '.'

/-- Whether a segment names a drive, which no segment leads out of. -/
def isDrive : List Char → Bool
  | letter :: mark :: rest =>
    letter.isAlpha && (mark == ':' || mark == '|') && (rest.isEmpty || rest.head? == some '\\')
  | _ => false

/-- Resolves dot segments; the segments so far are latest first. -/
def resolve : List (List Char) → List (List Char) → List (List Char)
  | kept, [] => kept.reverse
  | kept, segment :: rest =>
    let end_ := if rest.isEmpty then [[]] else []
    if isDots 2 segment then resolve (end_ ++ if kept.head?.any isDrive then kept else kept.drop 1) rest
    else if isDots 1 segment then resolve (end_ ++ kept) rest
    else resolve (segment :: kept) rest

/-- The path for what follows its first slash. -/
def pathText (cs : List Char) : String :=
  String.ofList <| (resolve [] (Text.splitFrom ['/'] 0 cs)).flatMap fun s => '/' :: s.flatMap pathChar

/-! ## Reading -/

/-- What follows the slashes before the host; nothing where there are none. -/
def afterSlashes? (web : Bool) (cs : List Char) : Option (List Char) :=
  if web then some (cs.dropWhile (· = '/'))
  else
    match cs with
    | '/' :: '/' :: rest => some rest
    | _ => none

/-- Splits credentials, which end with an at sign, off a host. -/
def splitCredentials (cs : List Char) : Option (List Char) × List Char :=
  let host := (cs.reverse.takeWhile (· ≠ '@')).reverse
  if host.length < cs.length then (some (cs.take (cs.length - host.length - 1)), host) else (none, cs)

/-- Reads the part of a URL behind the slashes, up to its query. A host may be missing, but then
    nothing but a colon and an at sign may stand in its place. -/
def located? (web : Bool) (scheme : String) (query : Option String) (cs : List Char) : Option Url := do
  let authority := cs.takeWhile (· ≠ '/')
  let (credentials, place) := splitCredentials authority
  let (host, rest) := splitHost false place
  let rest ← afterService? rest
  let path := rest ++ cs.drop authority.length
  let given := credentials.getD []
  let user := given.takeWhile (· ≠ ':')
  let named := if web then isWebHost host else isHost host
  let unnamed := !web && place.isEmpty && (credentials.isNone || credentials = some [':'])
  if if host.isEmpty then !unnamed else !named then none
  else
    return {
      scheme
      user := String.ofList user
      password := String.ofList (given.drop (user.length + 1))
      host := if host.isEmpty then none else some (String.ofList host)
      path := if path.isEmpty && !web then "" else pathText (if path.head? = some '/' then path.drop 1 else path)
      query }

/-- Reads a URL. -/
def parse? (s : String) : Option Url := do
  let (scheme, rest) ← splitScheme? (clean s)
  let web := isWebScheme scheme
  let rest := rest.takeWhile (· ≠ '#')
  let front := rest.takeWhile (· ≠ '?')
  let query := if front.length < rest.length then some (String.ofList (rest.drop (front.length + 1))) else none
  let front := if web then front.map fun c => if c = '\\' then '/' else c else front
  match afterSlashes? web front with
  | some place => located? web scheme query place
  | none =>
    let path := match front with
      | '/' :: path => pathText path
      | path => String.ofList path
    some { scheme, user := "", password := "", host := none, path, query }

end Url

end Passcode
