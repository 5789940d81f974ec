/-
  Passcode.Session.Bearer — the credential in an authorization header.
-/

import Passcode.Text.Pattern

namespace Passcode

/-- The credential of a header value `Bearer <credential>`: one word, after a word that says so in
    any case, blanks around them aside. -/
def bearerToken? (header : String) : Option String :=
  let cs := Text.strip Text.isBlank header.toList
  let scheme := cs.takeWhile (· ≠ ' ')
  let token := Text.strip Text.isBlank (cs.drop (scheme.length + 1))
  if scheme.length < cs.length ∧ scheme.map Char.toLower = "bearer".toList ∧ token ≠ [] ∧ ' ' ∉ token then
    some (String.ofList token)
  else none

end Passcode
