/-
  Passcode.Text.NumericHost — hosts given by number.

  An address of version 6 is eight groups of one to four hexadecimal digits between colons. Two
  colons together, once, stand for one or more groups of zeros, and the last two groups may be
  written as four decimal numbers between points.

  An address of version 4 is up to four numbers between points, in decimal, octal or hexadecimal;
  the last one takes the room of those that are left out. A name whose last part is a number has to
  be such an address.
-/

import Passcode.Text.Numeral
import Passcode.Text.Pattern

namespace Passcode.Text

/-- Whether a text is one group of version 6. -/
def isGroup (cs : List Char) : Bool :=
  1 ≤ cs.length && cs.length ≤ 4 && cs.all fun c => (hexValue? c).isSome

/-- Whether a text is a decimal number below 256 without leading zeros. -/
def isOctet (cs : List Char) : Bool :=
  (natural? cs).any (· < 256) && (cs.head? != some '0' || cs.length == 1)

/-- Whether a text is four decimal numbers between points. -/
def isQuad (cs : List Char) : Bool :=
  let parts := splitFrom ['.'] 0 cs
  parts.length == 4 && parts.all isOctet

/-- The number of groups that a list of them, as split at its colons, stands for. A quad may stand
    last where `quad` allows it. -/
def groupCount? (quad : Bool) : List (List Char) → Option Nat
  | [] => some 0
  | [last] => if isGroup last then some 1 else if quad && isQuad last then some 2 else none
  | group :: rest => if isGroup group then (groupCount? quad rest).map (· + 1) else none

/-- The number of groups in a text, which may be empty. -/
def groupsIn? (quad : Bool) (cs : List Char) : Option Nat :=
  if cs.isEmpty then some 0 else groupCount? quad (splitFrom [':'] 0 cs)

/-- The text before and after the first two colons together. -/
def atGap? : List Char → Option (List Char × List Char)
  | ':' :: ':' :: rest => some ([], rest)
  | c :: rest => (atGap? rest).map fun (before, after) => (c :: before, after)
  | [] => none

/-- Whether a text is an address of version 6. -/
def isIpv6 (cs : List Char) : Bool :=
  match atGap? cs with
  | some (before, after) =>
    match groupsIn? false before, groupsIn? true after with
    | some n, some m => n + m ≤ 7
    | _, _ => false
  | none => groupsIn? true cs == some 8

/-- The number that digits of a base stand for. -/
def numberIn? (base : Nat) (cs : List Char) : Option Nat :=
  cs.foldlM (fun n c => ((hexValue? c).filter (· < base)).map (n * base + ·)) 0

/-- A number as parts of a version 4 address are written. -/
def hostNumber? : List Char → Option Nat
  | [] => none
  | '0' :: 'x' :: digits | '0' :: 'X' :: digits => numberIn? 16 digits
  | '0' :: d :: digits => numberIn? 8 (d :: digits)
  | digits => numberIn? 10 digits

/-- The parts of a host between its points; one point may end it. -/
def hostParts (cs : List Char) : List (List Char) :=
  let parts := splitFrom ['.'] 0 cs
  if parts.length > 1 && parts.getLast? == some [] then parts.dropLast else parts

/-- Whether the last part of a host is a number. -/
def endsInNumber (cs : List Char) : Bool :=
  match (hostParts cs).getLast? with
  | some last => (!last.isEmpty && last.all isDigit) || (hostNumber? last).isSome
  | none => false

/-- Whether a text is an address of version 4. -/
def isIpv4 (cs : List Char) : Bool :=
  match (hostParts cs).mapM hostNumber? with
  | none => false
  | some numbers =>
    numbers.length ≤ 4 && numbers.dropLast.all (· ≤ 255) &&
      numbers.getLast?.any (· < Nat.pow 256 (5 - numbers.length))

end Passcode.Text
