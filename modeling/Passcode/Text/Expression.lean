/-
  Passcode.Text.Expression — which texts are regular expressions.

  An expression is built with alternatives, groups, repetitions, classes and escapes. Flags in a
  group hold to its end: `u` switches between characters and bytes, and with `x` blanks and comments
  between the parts are passed over. Matching is by an automaton on texts, so there is no looking
  around and no reference back to a group, the edges of words are only known for ASCII, and where
  bytes are meant an expression must not match anything that is no text.

  Texts here hold no closing brace, so a counted repetition, or a number or name in braces, never
  comes to an end.
-/

import Passcode.Text.Alphabet
import Passcode.Text.Numeral
import Passcode.Text.Pattern

namespace Passcode.Text.Expression

/-- How an expression is read at some place. -/
structure Mode where
  /-- Whether it is about characters, not bytes. -/
  unicode : Bool := true
  /-- Whether blanks and comments are passed over. -/
  spaced : Bool := false
  deriving DecidableEq, Repr

/-- What follows blanks and comments; a comment ends with its line. -/
def skipBlanks : Bool → List Char → List Char
  | _, [] => []
  | true, c :: cs => skipBlanks (c != '\n') cs
  | false, c :: cs =>
    if isBlank c then skipBlanks false cs else if c = '#' then skipBlanks true cs else c :: cs

def Mode.skip (mode : Mode) (cs : List Char) : List Char :=
  if mode.spaced then skipBlanks false cs else cs

/-- The character that follows, seen past blanks and the sign of a comment. -/
def Mode.peek (mode : Mode) (cs : List Char) : Option Char :=
  if mode.spaced then
    let rest := cs.dropWhile isBlank
    let rest := if rest.head? = some '#' then (rest.drop 1).dropWhile isBlank else rest
    rest.head? <|> cs.head?
  else cs.head?

/-! ## Escapes -/

/-- What an escape stands for. -/
inductive Escaped where
  | char (c : Char)
  /-- A set of characters. -/
  | set
  /-- A place between characters. -/
  | edge
  deriving DecidableEq, Repr

/-- The number of `count` hexadecimal digits. -/
def hexDigits? (mode : Mode) : Nat → Nat → List Char → Option (Nat × List Char)
  | 0, n, cs => some (n, cs)
  | count + 1, n, c :: cs => (hexValue? c).bind fun d => hexDigits? mode count (n * 16 + d) (mode.skip cs)
  | _ + 1, _, [] => none

/-- A character given by `count` hexadecimal digits. Two digits give a byte where bytes are meant. -/
def hexChar? (mode : Mode) (count : Nat) (cs : List Char) : Option (Escaped × List Char) := do
  let (n, rest) ← hexDigits? mode count 0 (mode.skip cs)
  if n.isValidChar && (mode.unicode || count != 2 || n < 0x80) then some (.char (Char.ofNat n), rest)
  else none

/-- Letters that name a general category of characters. -/
def categories : List Char := "CLMNPSZclmnpsz".toList

/-- Letters that stand for a control character when they are escaped. -/
def controls : List (Char × Char) :=
  [('a', '\x07'), ('f', '\x0c'), ('n', '\n'), ('r', '\r'), ('t', '\t'), ('v', '\x0b')]

/-- Reads an escape behind its backslash. A sign of ASCII that is neither a letter nor a digit stands
    for itself. -/
def escape? (mode : Mode) : List Char → Option (Escaped × List Char)
  | [] => none
  | c :: cs =>
    if c = 'x' then hexChar? mode 2 cs
    else if c = 'u' then hexChar? mode 4 cs
    else if c = 'U' then hexChar? mode 8 cs
    else if c = 'p' ∨ c = 'P' then
      match mode.skip cs with
      | category :: rest =>
        if mode.unicode && categories.contains category then some (.set, mode.skip rest) else none
      | [] => none
    else if "dsw".toList.contains c then some (.set, cs)
    else if "DSW".toList.contains c then if mode.unicode then some (.set, cs) else none
    else if c = 'A' ∨ c = 'z' then some (.edge, cs)
    else if "bB<>".toList.contains c then if mode.unicode then none else some (.edge, cs)
    else if c.toNat < 0x80 && !c.isAlphanum then some (.char c, cs)
    else (controls.lookup c).map (.char ·, cs)

/-! ## Classes -/

/-- Names that a class may give between colons. -/
def classNames : List String :=
  ["alnum", "alpha", "ascii", "blank", "cntrl", "digit", "graph", "lower", "print", "punct", "space",
    "upper", "word", "xdigit"]

/-- Reads a name between colons, behind the bracket before it; says also whether all else is meant. -/
def named? : List Char → Option (Bool × List Char)
  | ':' :: cs =>
    let inverse := cs.head? == some '^'
    let cs := if inverse then cs.drop 1 else cs
    let name := cs.takeWhile (· ≠ ':')
    match cs.drop name.length with
    | ':' :: ']' :: rest => if classNames.contains (String.ofList name) then some (inverse, rest) else none
    | _ => none
  | _ => none

/-- What follows the hyphens at the start of a class; the first argument bounds their number. -/
def skipHyphens (mode : Mode) : Nat → List Char → List Char
  | bound + 1, '-' :: cs => skipHyphens mode bound (mode.skip cs)
  | _, cs => cs

/-- What follows the start of a class: a circumflex for all else, then hyphens or a closing bracket
    that stand for themselves. -/
def openClass? (mode : Mode) (cs : List Char) : Option (List Char) :=
  let cs := mode.skip cs
  let inverse := cs.head? == some '^'
  let cs := if inverse then mode.skip (cs.drop 1) else cs
  if inverse && !mode.unicode then none
  else
    match cs with
    | '-' :: _ => some (skipHyphens mode cs.length cs)
    | ']' :: rest => some (mode.skip rest)
    | cs => some cs

/-- Reads what may stand at an end of a range. -/
def item? (mode : Mode) : List Char → Option (Escaped × List Char)
  | '\\' :: cs => escape? mode cs
  | c :: cs => some (.char c, cs)
  | [] => none

/-- Whether something may be in a class. Where bytes are meant, it is ASCII. -/
def isMember (mode : Mode) : Escaped → Bool
  | .char c => mode.unicode || c.toNat < 0x80
  | .set => true
  | .edge => false

/-- Reads an item of a class, or a range from one character up to another. A hyphen before a bracket
    or a hyphen makes no range. -/
def range? (mode : Mode) (cs : List Char) : Option (List Char) := do
  let (first, rest) ← item? mode cs
  if !isMember mode first then none
  match mode.skip rest with
  | [] => none
  | '-' :: after =>
    if mode.peek after = some ']' ∨ mode.peek after = some '-' then some ('-' :: after)
    else
      let (last, rest) ← item? mode (mode.skip after)
      if !isMember mode last then none
      match first, last with
      | .char a, .char b => if a ≤ b then some rest else none
      | _, _ => none
  | rest => some rest

/-- What follows a class that is open `depth` brackets deep. -/
def class? (mode : Mode) : Nat → Nat → List Char → Option (List Char)
  | 0, _, _ => none
  | budget + 1, depth, cs =>
    match mode.skip cs with
    | [] => none
    | '[' :: rest =>
      match named? rest with
      | some (inverse, rest) => if inverse && !mode.unicode then none else class? mode budget depth rest
      | none => (openClass? mode rest).bind (class? mode budget (depth + 1))
    | ']' :: rest => if depth ≤ 1 then some rest else class? mode budget (depth - 1) rest
    | '&' :: '&' :: rest | '-' :: '-' :: rest | '~' :: '~' :: rest => class? mode budget depth rest
    | cs => (range? mode cs).bind (class? mode budget depth)

/-! ## Groups -/

/-- Whether a group may have a name. -/
def isGroupName : List Char → Bool
  | [] => false
  | c :: cs => (isLetter c || c == '_') && cs.all fun c => isWordChar c || "_.[]".toList.contains c

/-- Whether flags may stand together: each once, one hyphen at most, and not last. -/
def areFlags (flags : List Char) : Bool :=
  flags.all "imsUuRx-".toList.contains && flags.eraseDups.length == flags.length &&
    flags.getLast? != some '-'

/-- The state of a flag where it is mentioned: on before a hyphen, off behind it. -/
def flag? (name : Char) (flags : List Char) : Option Bool :=
  if flags.contains name then some ((flags.takeWhile (· ≠ '-')).contains name) else none

/-- A mode after flags. -/
def Mode.flagged (mode : Mode) (flags : List Char) : Mode :=
  { unicode := (flag? 'u' flags).getD mode.unicode, spaced := (flag? 'x' flags).getD mode.spaced }

/-- What an opening parenthesis begins. -/
inductive Opening where
  /-- A group, perhaps with a name. -/
  | group (mode : Mode) (name : Option (List Char))
  /-- Flags for the rest of the group around them. -/
  | flags (mode : Mode)

/-- Reads the name of a group, up to its bracket. -/
def groupName? (mode : Mode) (cs : List Char) : Option (Opening × List Char) :=
  let name := cs.takeWhile (· ≠ '>')
  match cs.drop name.length with
  | '>' :: rest => if isGroupName name then some (.group mode (some name), rest) else none
  | _ => none

/-- Reads flags. Alone between parentheses there has to be one. -/
def flags? (mode : Mode) (cs : List Char) : Option (Opening × List Char) :=
  let flags := cs.takeWhile fun c => c ≠ ':' ∧ c ≠ ')'
  if !areFlags flags then none
  else
    match cs.drop flags.length with
    | ':' :: rest => some (.group (mode.flagged flags) none, rest)
    | ')' :: rest => if flags.isEmpty then none else some (.flags (mode.flagged flags), rest)
    | _ => none

/-- Reads what follows an opening parenthesis. -/
def opening? (mode : Mode) (cs : List Char) : Option (Opening × List Char) :=
  match mode.skip cs with
  | '?' :: '=' :: _ | '?' :: '!' :: _ | '?' :: '<' :: '=' :: _ | '?' :: '<' :: '!' :: _ => none
  | '?' :: 'P' :: '<' :: rest | '?' :: '<' :: rest => groupName? mode rest
  | '?' :: rest => flags? mode rest
  | rest => some (.group mode none, rest)

/-! ## Expressions -/

/-- Where a reader is in an expression. -/
structure Place where
  mode : Mode := {}
  /-- The modes outside the open groups, innermost first. -/
  outer : List Mode := []
  /-- Names of groups so far, each given once. -/
  names : List (List Char) := []
  /-- Whether something stands before that can be repeated. -/
  repeatable : Bool := false

/-- Whether the rest of a text ends an expression well. -/
def ends : Nat → Place → List Char → Bool
  | 0, _, _ => false
  | budget + 1, p, cs =>
    match p.mode.skip cs with
    | [] => p.outer.isEmpty
    | '(' :: cs =>
      match opening? p.mode cs with
      | none => false
      | some (.flags mode, rest) => ends budget { p with mode, repeatable := false } rest
      | some (.group mode name, rest) =>
        if name.any p.names.contains then false
        else
          ends budget
            { mode, outer := p.mode :: p.outer, names := name.toList ++ p.names, repeatable := false } rest
    | ')' :: rest =>
      match p.outer with
      | [] => false
      | mode :: outer => ends budget { p with mode, outer, repeatable := true } rest
    | '|' :: rest => ends budget { p with repeatable := false } rest
    | '[' :: rest =>
      match (openClass? p.mode rest).bind (class? p.mode (rest.length + 1) 1) with
      | none => false
      | some rest => ends budget { p with repeatable := true } rest
    | '*' :: rest | '+' :: rest | '?' :: rest =>
      p.repeatable && ends budget p (if rest.head? = some '?' then rest.drop 1 else rest)
    | '\x7b' :: _ => false
    | '\\' :: rest =>
      match escape? p.mode rest with
      | none => false
      | some (_, rest) => ends budget { p with repeatable := true } rest
    | '.' :: rest => p.mode.unicode && ends budget { p with repeatable := true } rest
    | _ :: rest => ends budget { p with repeatable := true } rest

end Expression

/-- Whether a text is a regular expression. -/
def isExpression (s : String) : Bool := Expression.ends (s.toList.length + 1) {} s.toList

end Passcode.Text
