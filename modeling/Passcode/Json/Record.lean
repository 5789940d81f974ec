/-
  Passcode.Json.Record — reading typed values, and records with named fields, out of JSON values.

  A record is read from an object, whose unknown fields are ignored and whose known fields come at
  most once, or from an array that lists the fields in their declared order. A field with a default
  may be left out; `null` stands for a missing value only where the field's type has one.
-/

import Passcode.Json.Value

namespace Passcode.Json

def asString? : Json → Option String
  | .string s => s.toOption
  | _ => none

def asBool? : Json → Option Bool
  | .bool b => some b
  | _ => none

/-- A number written whole. -/
def asWhole? : Json → Option Int
  | .number (.whole i) => some i
  | _ => none

/-- A whole number between `low` and `high`. -/
def asWholeIn? (low high : Int) (v : Json) : Option Int :=
  v.asWhole?.filter fun i => decide (low ≤ i ∧ i ≤ high)

def asUInt64? (v : Json) : Option UInt64 :=
  (v.asWholeIn? 0 (UInt64.size - 1)).map fun i => UInt64.ofNat i.toNat

def asUInt32? (v : Json) : Option UInt32 :=
  (v.asWholeIn? 0 (UInt32.size - 1)).map fun i => UInt32.ofNat i.toNat

def asInt64? (v : Json) : Option Int64 := (v.asWholeIn? Int64.minValue.toInt Int64.maxValue.toInt).map Int64.ofInt

/-- A value or `null`. -/
def asOption? (decode : Json → Option α) : Json → Option (Option α)
  | .null => some none
  | v => (decode v).map some

/-- Every item of an array. -/
def asList? (decode : Json → Option α) : Json → Option (List α)
  | .array items => items.mapM decode
  | _ => none

/-- A choice among names: the name as a string, or an object that gives the name alone, with
    `null`. -/
def asName? (read : String → Option α) : Json → Option α
  | .string (.ok s) => read s
  | .object [(some s, .null)] => read s
  | _ => none

/-- Adds an entry to the ones known, in the place of an entry of the same name. -/
def addNamed? (decode : Json → Option α) (known : List (String × α)) (field : Option String × Json) :
    Option (List (String × α)) := do
  let name ← field.1
  let value ← decode field.2
  if known.any (·.1 == name) then
    return known.map fun p => if p.1 == name then (name, value) else p
  else return known ++ [(name, value)]

/-- An object whose fields are all of one kind. A name given again replaces what came before. -/
def asDictionary? (decode : Json → Option α) : Json → Option (List (String × α))
  | .object fields => fields.foldlM (addNamed? decode) []
  | _ => none

/-- The fields found for a record. -/
structure Record where
  fields : List (String × Json)
  /-- Whether the fields came in an array, by position. -/
  positional : Bool

/-- Adds a field of an object to the ones found. -/
def Record.add? (names : List String) (found : List (String × Json)) (field : Option String × Json) :
    Option (List (String × Json)) := do
  let name ← field.1
  if names.contains name then
    if found.any (·.1 == name) then none else some (found ++ [(name, field.2)])
  else some found

/-- The fields of a record that declares `names`, in this order. -/
def asRecord? (names : List String) : Json → Option Record
  | .object fields => (fields.foldlM (Record.add? names) []).map (⟨·, false⟩)
  | .array items => if items.length ≤ names.length then some ⟨names.zip items, true⟩ else none
  | _ => none

namespace Record

/-- A field that has to be there. -/
def required (r : Record) (name : String) (decode : Json → Option α) : Option α :=
  (r.fields.lookup name).bind decode

/-- A field that may be left out. -/
def withDefault (r : Record) (name : String) (decode : Json → Option α) (default : α) : Option α :=
  match r.fields.lookup name with
  | some v => decode v
  | none => some default

/-- A field that may be missing or `null`, except that an array gives every field. -/
def optional (r : Record) (name : String) (decode : Json → Option α) : Option (Option α) :=
  match r.fields.lookup name with
  | some v => v.asOption? decode
  | none => if r.positional then none else some none

end Record

end Passcode.Json
