/-
  Passcode.Settings.Environment — where the program runs.
-/

import Passcode.Json.Record
import Passcode.Settings.Variables
import Passcode.Text.LetterCase

namespace Passcode

inductive Environment where
  | development
  | staging
  | production
  deriving DecidableEq, Repr, Inhabited

namespace Environment

def name : Environment → String
  | development => "development"
  | staging => "staging"
  | production => "production"

/-- Reads a name as it is written in settings. -/
def ofName? : String → Option Environment
  | "development" => some development
  | "staging" => some staging
  | "production" => some production
  | _ => none

/-- Reads a name or one of its short forms, in any case. -/
def parse (s : String) : Except String Environment :=
  let word := Text.lower s
  if word = "development" ∨ word = "dev" then .ok development
  else if word = "staging" ∨ word = "stage" ∨ word = "test" then .ok staging
  else if word = "production" ∨ word = "prod" then .ok production
  else .error ("Invalid environment: " ++ s)

def isProduction (e : Environment) : Bool := e == production

def isDevelopment (e : Environment) : Bool := e == development

/-- Whether codes may appear in logs in plain text. -/
def allowsCodeLogging (e : Environment) : Bool := !e.isProduction

/-- The first of three variables that is set names the environment. -/
def ofVariables (env : Variables) : Environment :=
  let word := env.get? "ENVIRONMENT" <|> env.get? "ENV" <|> env.get? "RUST_ENV"
  (parse (word.getD "development")).toOption.getD development

def toJson (e : Environment) : Json := .str e.name

def ofJson? (v : Json) : Option Environment := v.asName? ofName?

end Environment

end Passcode
