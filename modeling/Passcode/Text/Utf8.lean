/-
  Passcode.Text.Utf8 — texts as bytes, and bytes that are not quite a text.

  Bytes are read from the left, one character after the other; a byte with which no character begins
  is passed over alone.
-/

namespace Passcode.Text

/-- The UTF-8 bytes of a character. -/
def charBytes (c : Char) : List UInt8 := (String.singleton c).toUTF8.data.toList

/-- The text that bytes of UTF-8 are. -/
def ofBytes? (bytes : List UInt8) : Option String := String.fromUTF8? ⟨bytes.toArray⟩

/-- The character that bytes begin with; no character takes more than four. -/
def firstChar? (bytes : List UInt8) : Option Char :=
  [1, 2, 3, 4].findSome? fun n => (ofBytes? (bytes.take n)).bind (·.toList.head?)

/-- The characters in bytes, `none` for each byte that belongs to none. The first argument counts the
    bytes of a character, already read, that are still to be passed over. -/
def charsFrom : Nat → List UInt8 → List (Option Char)
  | _, [] => []
  | skip + 1, _ :: rest => charsFrom skip rest
  | 0, b :: rest =>
    match firstChar? (b :: rest) with
    | some c => some c :: charsFrom (c.utf8Size - 1) rest
    | none => none :: charsFrom 0 rest

/-- The characters of a text. -/
def chars (s : String) : List (Option Char) := s.toList.map some

/-- The characters in bytes, `none` for each byte that belongs to none. -/
def charsOf (bytes : List UInt8) : List (Option Char) :=
  match ofBytes? bytes with
  | some s => chars s
  | none => charsFrom 0 bytes

/-- The bytes of a text are that text. -/
@[simp] theorem ofBytes?_toByteArray (s : String) : ofBytes? s.toByteArray.data.toList = some s := by
  have h := s.isValidUTF8
  simp [ofBytes?, String.fromUTF8?, String.fromUTF8, h]

/-- Nothing is lost or added when a text goes through its bytes. -/
@[simp] theorem charsOf_toByteArray (s : String) : charsOf s.toByteArray.data.toList = chars s := by
  rw [charsOf, ofBytes?_toByteArray]

end Passcode.Text
