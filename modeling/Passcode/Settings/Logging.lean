/-
  Passcode.Settings.Logging — what is logged and how it is written.
-/

import Passcode.Json.Record
import Passcode.Settings.Environment
import Passcode.Settings.LogFilter

namespace Passcode

inductive LogFormat where
  | json
  | pretty
  | compact
  deriving DecidableEq, Repr, Inhabited

namespace LogFormat

def name : LogFormat → String
  | json => "json"
  | pretty => "pretty"
  | compact => "compact"

def ofName? : String → Option LogFormat
  | "json" => some json
  | "pretty" => some pretty
  | "compact" => some compact
  | _ => none

end LogFormat

structure LogSettings where
  /-- A level or a whole filter. -/
  level : String := "info"
  format : LogFormat := .pretty
  colored : Bool := true
  sourceLocation : Bool := false
  deriving DecidableEq, Repr, Inhabited

namespace LogSettings

/-- What suits an environment. -/
def forEnvironment : Environment → LogSettings
  | .development => { level := "debug", sourceLocation := true }
  | .staging => { level := "info", format := .json, colored := false }
  | .production => { level := "warn", format := .json, colored := false }

/-- The filter in force under the given variables. -/
def filter (c : LogSettings) (env : Variables) : LogFilter := LogFilter.choose env c.level

def toJson (c : LogSettings) : Json := .record [
  ("level", .str c.level),
  ("format", .str c.format.name),
  ("colored", .bool c.colored),
  ("source_location", .bool c.sourceLocation)]

def ofJson? (v : Json) : Option LogSettings := do
  let r ← v.asRecord? ["level", "format", "colored", "source_location"]
  return {
    level := ← r.required "level" Json.asString?
    format := ← r.withDefault "format" (Json.asName? LogFormat.ofName?) .pretty
    colored := ← r.withDefault "colored" Json.asBool? true
    sourceLocation := ← r.withDefault "source_location" Json.asBool? false }

end LogSettings

end Passcode
