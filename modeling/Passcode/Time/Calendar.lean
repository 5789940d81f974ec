/-
  Passcode.Time.Calendar — instants of the wall clock and their text in RFC 3339.

  An instant is a count of seconds since the first of January 1970 and a fraction; a fraction of a
  whole second or more is a leap second. Instants are printed in UTC. The reader is lenient: blanks
  may stand before a number or a separator, fields may lack leading zeros, and any offset of less
  than a day is accepted.
-/

import Passcode.Text.Numeral
import Passcode.Text.Pattern

namespace Passcode

/-- An instant by the wall clock. -/
structure WallTime where
  /-- Whole seconds since 1970, UTC. -/
  seconds : Int
  nanos : Nat := 0
  deriving DecidableEq, Repr, Inhabited

/-- A day in the proleptic Gregorian calendar. -/
structure Date where
  year : Int
  month : Nat
  day : Nat
  deriving DecidableEq, Repr

namespace Date

/-- The day that lies `days` after the first of January 1970, counted in eras of 400 years that
    begin in March, so that a leap day ends its year. -/
def ofDays (days : Int) : Date :=
  let shifted := days + 719468
  let era := shifted / 146097
  let dayOfEra := (shifted % 146097).toNat
  let yearOfEra := (dayOfEra - dayOfEra / 1460 + dayOfEra / 36524 - dayOfEra / 146096) / 365
  let dayOfYear := dayOfEra - (365 * yearOfEra + yearOfEra / 4 - yearOfEra / 100)
  let march := (5 * dayOfYear + 2) / 153
  let month := if march < 10 then march + 3 else march - 9
  { year := yearOfEra + era * 400 + (if month ≤ 2 then 1 else 0)
    month
    day := dayOfYear - (153 * march + 2) / 5 + 1 }

/-- Days from the first of January 1970 to a date. -/
def toDays (d : Date) : Int :=
  let year := if d.month ≤ 2 then d.year - 1 else d.year
  let era := year / 400
  let yearOfEra := (year % 400).toNat
  let march := if d.month > 2 then d.month - 3 else d.month + 9
  let dayOfYear := (153 * march + 2) / 5 + d.day - 1
  let dayOfEra := yearOfEra * 365 + yearOfEra / 4 - yearOfEra / 100 + dayOfYear
  era * 146097 + dayOfEra - 719468

def isLeapYear (year : Int) : Bool := year % 4 == 0 && (year % 100 != 0 || year % 400 == 0)

def daysInMonth (year : Int) (month : Nat) : Nat :=
  if month = 2 then (if isLeapYear year then 29 else 28)
  else if month = 4 ∨ month = 6 ∨ month = 9 ∨ month = 11 then 30 else 31

/-- The years that dates are kept in. -/
def firstYear : Int := -262143
def lastYear : Int := 262142

def isValid (d : Date) : Bool :=
  firstYear ≤ d.year && d.year ≤ lastYear && 1 ≤ d.month && d.month ≤ 12 && 1 ≤ d.day &&
    d.day ≤ daysInMonth d.year d.month

end Date

namespace WallTime

/-- Nanoseconds in a second. -/
def nanosPerSecond : Nat := 1000000000

/-- The instant `ms` milliseconds later. -/
def advance (t : WallTime) (ms : Nat) : WallTime :=
  let nanos := t.nanos + ms * 1000000
  ⟨t.seconds + nanos / nanosPerSecond, nanos % nanosPerSecond⟩

/-- Whole milliseconds since 1970. -/
def millis (t : WallTime) : Int := t.seconds * 1000 + t.nanos / 1000000

/-- A year: four digits, or more and a sign outside the years 0 to 9999. -/
def yearChars (year : Int) : List Char :=
  if 0 ≤ year ∧ year ≤ 9999 then Text.padded 4 year.natAbs
  else (if year < 0 then '-' else '+') :: Text.padded 4 year.natAbs

/-- A fraction in three, six or nine digits, as few as it needs; none when it is zero. -/
def fractionChars (nanos : Nat) : List Char :=
  if nanos = 0 then []
  else if nanos % 1000000 = 0 then '.' :: Text.padded 3 (nanos / 1000000)
  else if nanos % 1000 = 0 then '.' :: Text.padded 6 (nanos / 1000)
  else '.' :: Text.padded 9 nanos

/-- An instant in UTC. -/
def text (t : WallTime) : String :=
  let date := Date.ofDays (t.seconds / 86400)
  let inDay := (t.seconds % 86400).toNat
  let second := inDay % 60 + t.nanos / nanosPerSecond
  String.ofList <|
    yearChars date.year ++ '-' :: Text.padded 2 date.month ++ '-' :: Text.padded 2 date.day ++
    'T' :: Text.padded 2 (inDay / 3600) ++ ':' :: Text.padded 2 (inDay / 60 % 60) ++
    ':' :: Text.padded 2 second ++ fractionChars (t.nanos % nanosPerSecond) ++ ['Z']

/-! ## Reading -/

def skipBlank (cs : List Char) : List Char := cs.dropWhile Text.isBlank

/-- One to `limit` digits, blanks before them passed over. -/
def digits? (limit : Nat) (cs : List Char) : Option (Nat × List Char) :=
  let start := skipBlank cs
  let word := (start.take limit).takeWhile Text.isDigit
  (Text.natural? word).map fun n => (n, start.drop word.length)

/-- A field of up to two digits, at most `limit`. -/
def field? (limit : Nat) (cs : List Char) : Option (Nat × List Char) :=
  (digits? 2 cs).filter (·.1 ≤ limit)

/-- A separator, blanks before it passed over. -/
def expect? (c : Char) (cs : List Char) : Option (List Char) :=
  match skipBlank cs with
  | d :: rest => if d = c then some rest else none
  | [] => none

/-- A year: up to four digits, or any number of them after a sign. -/
def year? (cs : List Char) : Option (Int × List Char) :=
  let signedDigits (rest : List Char) : Option (Nat × List Char) :=
    let word := rest.takeWhile Text.isDigit
    (Text.natural? word).map fun n => (n, rest.drop word.length)
  match skipBlank cs with
  | '-' :: rest => (signedDigits rest).map fun r => (-(r.1 : Int), r.2)
  | '+' :: rest => (signedDigits rest).map fun r => ((r.1 : Int), r.2)
  | rest => (digits? 4 rest).map fun r => ((r.1 : Int), r.2)

/-- A fraction, if one begins here; digits after the ninth do not count. -/
def fraction? : List Char → Option (Nat × List Char)
  | '.' :: rest =>
    let word := rest.takeWhile Text.isDigit
    let kept := word.take 9
    (Text.natural? kept).map fun n => (n * Nat.pow 10 (9 - kept.length), rest.drop word.length)
  | rest => some (0, rest)

/-- A sign, two digits of hours and two of minutes, with colons or blanks between; as seconds. -/
def signedOffset? (sign : Int) (cs : List Char) : Option (Int × List Char) :=
  match cs with
  | a :: b :: rest => do
    let hours ← Text.natural? [a, b]
    match rest.dropWhile fun c => c == ':' || Text.isBlank c with
    | c :: d :: rest =>
      let minutes ← (Text.natural? [c, d]).filter (· < 60)
      return (sign * (hours * 3600 + minutes * 60 : Nat), rest)
    | _ => none
  | _ => none

/-- Where the clock that the text gives stands from UTC, in seconds. -/
def offset? (cs : List Char) : Option (Int × List Char) :=
  match skipBlank cs with
  | 'Z' :: rest | 'z' :: rest => some (0, rest)
  | '+' :: rest => signedOffset? 1 rest
  | '-' :: rest | '\u2212' :: rest => signedOffset? (-1) rest
  | u :: t :: c :: rest =>
    if [u, t, c].map Char.toLower = ['u', 't', 'c'] then some (0, rest) else none
  | _ => none

/-- Reads an instant. -/
def parse? (s : String) : Option WallTime := do
  let (year, cs) ← year? s.toList
  let (month, cs) ← field? 12 (← expect? '-' cs)
  let (day, cs) ← field? 31 (← expect? '-' cs)
  let cs ← match cs with
    | 'T' :: rest | 't' :: rest | ' ' :: rest => some rest
    | _ => none
  let (hour, cs) ← field? 23 cs
  let (minute, cs) ← field? 59 (← expect? ':' cs)
  let (second, cs) ← field? 60 (← expect? ':' cs)
  let (fraction, cs) ← fraction? cs
  let (offset, cs) ← offset? cs
  let date : Date := ⟨year, month, day⟩
  if !date.isValid || !(cs.all Text.isBlank) || offset.natAbs ≥ 86400 then none
  else
    let leap := second / 60
    let inDay : Nat := hour * 3600 + minute * 60 + (second - leap)
    let seconds := date.toDays * 86400 + inDay - offset
    let first := (⟨Date.firstYear, 1, 1⟩ : Date).toDays * 86400
    let last := (⟨Date.lastYear + 1, 1, 1⟩ : Date).toDays * 86400
    if first ≤ seconds ∧ seconds < last then some ⟨seconds, fraction + leap * nanosPerSecond⟩ else none

end WallTime

end Passcode
