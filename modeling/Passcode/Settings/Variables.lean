/-
  Passcode.Settings.Variables — the variables a program is started with.
-/

import Passcode.Text.Numeral

namespace Passcode

/-- Variables by name. -/
abbrev Variables := List (String × String)

namespace Variables

/-- The value of a variable, when it is set. -/
def get? (env : Variables) (name : String) : Option String := env.lookup name

/-- What a variable says, or `default` when it is not set or cannot be read. -/
def readOr (env : Variables) (name : String) (read : String → Option α) (default : α) : α :=
  ((env.get? name).bind read).getD default

/-- A switch: the words `true` and `false`. -/
def bool? : String → Option Bool
  | "true" => some true
  | "false" => some false
  | _ => none

end Variables

end Passcode
