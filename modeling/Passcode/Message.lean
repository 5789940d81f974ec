/-
  Passcode.Message — templated messages and how a template's placeholders are filled in.
-/

import Passcode.Json.Record
import Passcode.Text.Pattern

namespace Passcode

/-- A named value for a placeholder. -/
structure Argument where
  value : String
  name : String
  deriving DecidableEq, Repr, Inhabited

namespace Argument

def toJson (a : Argument) : Json := .record [("value", .str a.value), ("name", .str a.name)]

def ofJson? (v : Json) : Option Argument := do
  let r ← v.asRecord? ["value", "name"]
  return {
    value := ← r.required "value" Json.asString?
    name := ← r.required "name" Json.asString? }

end Argument

/-- What a caller asks to have sent: a template, the values for it, and to whom. -/
structure Message where
  template : String
  arguments : List Argument
  recipients : List String
  deriving DecidableEq, Repr, Inhabited

/-- Template bodies by their id. -/
abbrev Templates := List (String × String)

namespace Message

/-- The placeholder of a name: the name between braces. -/
def placeholder (name : List Char) : List Char := '\x7b' :: name ++ ['\x7d']

/-- Fills in one argument after the other, each throughout the text as it stands then. A
    placeholder that no argument names stays. -/
def renderChars (body : List Char) (arguments : List Argument) : List Char :=
  arguments.foldl (fun text a => Text.replaceAll (placeholder a.name.toList) a.value.toList text) body

/-- The body of a message: the template with its placeholders filled in. -/
def render (body : String) (arguments : List Argument) : String :=
  String.ofList (renderChars body.toList arguments)

end Message

/-- The body kept under an id. -/
def Templates.body? (templates : Templates) (id : String) : Option String := templates.lookup id

end Passcode
