/-
  Passcode.Settings.LogField — fields of spans that a log directive asks for.

  A field is asked for by name, perhaps with a value: a truth value, a whole number, a number of
  double precision, or else a regular expression for its text. Numbers are printed with the fewest
  digits that read back, and never with an exponent.
-/

import Passcode.Number.Shortest
import Passcode.Text.Expression

namespace Passcode

inductive LogValue where
  | bool (value : Bool)
  /-- A magnitude with a sign; `none` is infinity. -/
  | real (negative : Bool) (magnitude : Option Double)
  | notANumber
  | count (value : Nat)
  /-- Below zero, or written with a minus sign. -/
  | whole (value : Int)
  | pattern (text : String)
  deriving DecidableEq, Repr

namespace LogValue

/-- A number without its sign: digits, perhaps with a point among them or at an end, and perhaps an
    exponent of ten. What is too large is infinite. -/
def magnitude? (cs : List Char) : Option (Option Double) := do
  let whole := cs.takeWhile Text.isDigit
  let rest := cs.drop whole.length
  let pointed := rest.head? == some '.'
  let fraction := if pointed then (rest.drop 1).takeWhile Text.isDigit else []
  let rest := if pointed then rest.drop (fraction.length + 1) else rest
  if whole.isEmpty && fraction.isEmpty then none
  let exponent : Int ← match rest with
    | [] => some 0
    | e :: '-' :: digits => if e.toLower = 'e' then (Text.natural? digits).map fun n => -(n : Int) else none
    | e :: '+' :: digits => if e.toLower = 'e' then (Text.natural? digits).map Int.ofNat else none
    | e :: digits => if e.toLower = 'e' then (Text.natural? digits).map Int.ofNat else none
  return Double.ofDecimal? (Text.digitsValue (whole ++ fraction)) (exponent - fraction.length)

/-- Reads a number, infinity or the word for no number, with either sign. -/
def number? (s : String) : Option LogValue :=
  let negative := s.startsWith "-"
  let unsigned := if negative || s.startsWith "+" then s.toList.drop 1 else s.toList
  let word := String.ofList (unsigned.map Char.toLower)
  if word = "nan" then some .notANumber
  else if word = "inf" ∨ word = "infinity" then some (.real negative none)
  else (magnitude? unsigned).map (.real negative)

def bool? : String → Option LogValue
  | "true" => some (.bool true)
  | "false" => some (.bool false)
  | _ => none

/-- Reads a value; the first kind that a text is of counts. -/
def parse? (s : String) : Option LogValue :=
  bool? s
    <|> (Text.uint64? s).map (.count ·.toNat)
    <|> (Text.int64? s).map (.whole ·.toInt)
    <|> number? s
    <|> if Text.isExpression s then some (.pattern s) else none

def text : LogValue → String
  | bool value => toString value
  | real negative magnitude =>
    (if negative then "-" else "") ++ match magnitude with
      | some x => x.text
      | none => "inf"
  | notANumber => "NaN"
  | count value => toString value
  | whole value => toString value
  | pattern text => text

/-- Kinds of values, in their order. -/
def kind : LogValue → Nat
  | bool _ => 0
  | real _ _ => 1
  | notANumber => 2
  | count _ => 3
  | whole _ => 4
  | pattern _ => 5

/-- The order of magnitudes, infinity last. -/
def compareMagnitudes : Option Double → Option Double → Ordering
  | some x, some y => if x.lt y then .lt else if y.lt x then .gt else .eq
  | some _, none => .lt
  | none, some _ => .gt
  | none, none => .eq

/-- The order of numbers with a sign. Zero has none. -/
def compareReals (negative : Bool) (x : Option Double) (negative' : Bool) (y : Option Double) : Ordering :=
  match negative && x != some .zero, negative' && y != some .zero with
  | false, false => compareMagnitudes x y
  | true, true => compareMagnitudes y x
  | false, true => .gt
  | true, false => .lt

/-- The order of values: by kind, then within the kind. -/
def compare : LogValue → LogValue → Ordering
  | bool a, bool b => Ord.compare a.toNat b.toNat
  | real n x, real m y => compareReals n x m y
  | count a, count b => Ord.compare a b
  | whole a, whole b => Ord.compare a b
  | pattern a, pattern b => Ord.compare a b
  | a, b => Ord.compare a.kind b.kind

end LogValue

/-- A field that has to be there, perhaps with a value. -/
structure LogField where
  name : String
  value : Option LogValue
  deriving DecidableEq, Repr

namespace LogField

/-- Reads a field. A name, which may be empty, stands alone or before an equals sign and a value; a
    second equals sign ends the value. -/
def parse? (s : String) : Option LogField :=
  match Text.split "=" s with
  | [] => none
  | [name] => some ⟨name, none⟩
  | name :: value :: _ => (LogValue.parse? value).map (⟨name, some ·⟩)

def text (f : LogField) : String := f.name ++ f.value.elim "" fun v => "=" ++ v.text

/-- The order of fields: those without a value first, then by name, then by value. -/
def compare (a b : LogField) : Ordering :=
  (Ord.compare a.value.isSome.toNat b.value.isSome.toNat).then <|
    (Ord.compare a.name b.name).then <|
      match a.value, b.value with
      | some v, some w => v.compare w
      | _, _ => .eq

end LogField

end Passcode
