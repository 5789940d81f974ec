/-
  Passcode.Text.Pattern — a fixed pattern in a text: replacing it and cutting at it.

  Occurrences are taken from the left and never overlap. A text always has a first piece
  (`splitFrom_ne_nil`). Beside them, the blanks of a text and how they are trimmed.
-/

namespace Passcode.Text

/-- Copies `cs` with `value` in the place of each occurrence of `pattern`. The first argument counts
    the characters of an occurrence, already replaced, that are still to be passed over. -/
def replaceFrom (pattern value : List Char) : Nat → List Char → List Char
  | _, [] => []
  | skip + 1, _ :: cs => replaceFrom pattern value skip cs
  | 0, c :: cs =>
    if pattern.isPrefixOf (c :: cs) then value ++ replaceFrom pattern value (pattern.length - 1) cs
    else c :: replaceFrom pattern value 0 cs

/-- `cs` with every occurrence of `pattern` replaced; `pattern` holds a character. -/
def replaceAll (pattern value cs : List Char) : List Char :=
  replaceFrom pattern value 0 cs

/-- The pieces of `cs` between the occurrences of `separator`; the first argument is as in
    `replaceFrom`. -/
def splitFrom (separator : List Char) : Nat → List Char → List (List Char)
  | _, [] => [[]]
  | skip + 1, _ :: cs => splitFrom separator skip cs
  | 0, c :: cs =>
    if separator.isPrefixOf (c :: cs) then [] :: splitFrom separator (separator.length - 1) cs
    else
      match splitFrom separator 0 cs with
      | [] => [[c]]
      | piece :: rest => (c :: piece) :: rest

/-- The pieces of a text between the occurrences of `separator`, at least one. -/
def split (separator s : String) : List String :=
  (splitFrom separator.toList 0 s.toList).map String.ofList

theorem splitFrom_ne_nil (separator : List Char) (skip : Nat) (cs : List Char) :
    splitFrom separator skip cs ≠ [] := by
  fun_induction splitFrom separator skip cs <;> simp_all

@[simp] theorem replaceFrom_nil (pattern value : List Char) (skip : Nat) :
    replaceFrom pattern value skip [] = [] := by
  cases skip <;> rfl

/-- The text before the first and after the last of the characters that satisfy `p`, which stand
    outermost. -/
def strip (p : Char → Bool) (cs : List Char) : List Char :=
  ((cs.dropWhile p).reverse.dropWhile p).reverse

/-- Blank characters: the Unicode property White_Space. -/
def isBlank (c : Char) : Bool :=
  let n := c.toNat
  (9 ≤ n && n ≤ 13) || n == 0x20 || n == 0x85 || n == 0xA0 || n == 0x1680 ||
    (0x2000 ≤ n && n ≤ 0x200A) || n == 0x2028 || n == 0x2029 || n == 0x202F || n == 0x205F || n == 0x3000

/-- A text without the blanks at its two ends. -/
def trim (s : String) : String := String.ofList (strip isBlank s.toList)

/-- Whether a text holds nothing but blanks. -/
def blank (s : String) : Bool := s.toList.all isBlank

end Passcode.Text
