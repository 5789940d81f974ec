/-
  Passcode.Settings.LogFilter — which log records a filter text lets through.

  A filter is a comma-separated list of directives. A directive sets the least level for a target,
  for spans of a name or with a field, or, naming none of these, for everything else. What spans
  decide is kept apart from what is known beforehand; a directive that asks for a field by name only
  stands among both. Each of the two lists is kept and printed with the most specific directive
  first; of two directives for the same place the later one counts.

  A directive is read without the blanks around it, but its parts are cut out of the text with them,
  by the same positions: a blank in front moves every part by one.
-/

import Passcode.Settings.LogField
import Passcode.Settings.Variables
import Passcode.Text.Utf8

namespace Passcode

inductive LogLevel where
  | off
  | error
  | warn
  | info
  | debug
  | trace
  deriving DecidableEq, Repr, Inhabited

namespace LogLevel

def name : LogLevel → String
  | off => "off"
  | error => "error"
  | warn => "warn"
  | info => "info"
  | debug => "debug"
  | trace => "trace"

/-- In order of how much they let through. -/
def all : List LogLevel := [off, error, warn, info, debug, trace]

/-- Reads a name, in either case of its ASCII letters, or a number from zero to five. -/
def parse? (s : String) : Option LogLevel :=
  match Text.uint64? s with
  | some n => all[n.toNat]?
  | none => all.find? fun level => s.toLower == level.name

end LogLevel

/-- A least level and where it holds. -/
structure LogDirective where
  target : Option String
  span : Option String
  field : Option LogField
  level : LogLevel
  deriving DecidableEq, Repr

namespace LogDirective

/-! ## Reading -/

/-- What a reader has come to, with the part of the directive that it is in. Positions are those of
    the first byte of the part. -/
inductive Stage where
  | start
  /-- A target, or a level alone. -/
  | place (first : Nat)
  | span (first : Nat)
  | field (first : Nat)
  /-- Behind a field, before the bracket. -/
  | closing
  /-- Behind the bracket, before the level. -/
  | bracketed
  | level (first : Nat)

/-- A reader at a place of a directive, with the parts read so far. -/
structure Reader where
  /-- The bytes of the directive, blanks around it included. -/
  bytes : List UInt8
  stage : Stage := .start
  target : Option String := none
  span : Option String := none
  field : Option LogField := none

namespace Reader

/-- The text from a position up to another one. -/
def cut? (r : Reader) (first next : Nat) : Option String :=
  Text.ofBytes? ((r.bytes.take next).drop first)

/-- The characters a directive may open with. -/
def opens (c : Char) : Bool := Text.isWordChar c || c == '-' || c == ':' || c == '_'

/-- Goes on by the character at a position. -/
def step? (r : Reader) (i : Nat) (c : Char) : Option Reader :=
  match r.stage with
  | .start =>
    if c = '[' then some { r with stage := .span (i + 1) }
    else if opens c then some { r with stage := .place i }
    else none
  | .place first =>
    if c = '=' then do return { r with target := ← r.cut? first i, stage := .level (i + 1) }
    else if c = '[' then do return { r with target := ← r.cut? first i, stage := .span (i + 1) }
    else some r
  | .span first =>
    if c = ']' then do return { r with span := ← r.cut? first i, stage := .bracketed }
    else if c = '\x7b' then do
      let name ← r.cut? first i
      return { r with span := if name = "" then none else some name, stage := .field (i + 1) }
    else some r
  | .field first =>
    if c = '\x7d' then do
      let text ← r.cut? first i
      if text = "" then none else return { r with field := ← LogField.parse? text, stage := .closing }
    else some r
  | .closing => if c = ']' then some { r with stage := .bracketed } else none
  | .bracketed => if c = '=' then some { r with stage := .level (i + 1) } else none
  | .level _ => some r

/-- Goes through characters from a position on. -/
def run? (r : Reader) (i : Nat) : List Char → Option Reader
  | [] => some r
  | c :: cs => (r.step? i c).bind fun r => r.run? (i + c.utf8Size) cs

/-- The directive that has been read, at the end of the text. A lone word that is no level is a
    target; where no level is given every record passes. -/
def finish? (r : Reader) : Option LogDirective :=
  let directive (level : LogLevel) : LogDirective := ⟨r.target, r.span, r.field, level⟩
  match r.stage with
  | .place first => do
    let word ← r.cut? first r.bytes.length
    return (LogLevel.parse? word).elim ⟨some word, none, none, .trace⟩ (⟨none, none, none, ·⟩)
  | .bracketed => some (directive .trace)
  | .level first => do
    let word ← r.cut? first r.bytes.length
    if word = "" then return directive .trace else (LogLevel.parse? word).map directive
  | _ => none

end Reader

/-- Reads one directive. -/
def parse? (s : String) : Option LogDirective :=
  (Reader.run? { bytes := s.toUTF8.data.toList } 0 (Text.trim s).toList).bind Reader.finish?

/-! ## Order -/

/-- A longer name is more specific, any name more than none. -/
def weight (name : Option String) : Nat := name.elim 0 (·.utf8ByteSize + 1)

/-- The order of names, none first. -/
def compareNames : Option String → Option String → Ordering
  | none, none => .eq
  | none, some _ => .lt
  | some _, none => .gt
  | some a, some b => compare a b

/-- The order of fields, none first. -/
def compareFields : Option LogField → Option LogField → Ordering
  | none, none => .eq
  | none, some _ => .lt
  | some _, none => .gt
  | some a, some b => a.compare b

/-- Which of two directives is more specific: the one with the longer target, then the one that names
    a span, then the one that names a field. Others are told apart by their parts. -/
def specificity (a b : LogDirective) : Ordering :=
  (compare (weight a.target) (weight b.target)).then <|
    (compare a.span.isSome.toNat b.span.isSome.toNat).then <|
      (compare a.field.isSome.toNat b.field.isSome.toNat).then <|
        (compareNames a.target b.target).then <|
          (compareNames a.span b.span).then (compareFields a.field b.field)

/-- Puts a directive in its place, the most specific first, instead of one for the same place. -/
def insert (d : LogDirective) : List LogDirective → List LogDirective
  | [] => [d]
  | e :: rest =>
    match specificity d e with
    | .eq => d :: rest
    | .gt => d :: e :: rest
    | .lt => e :: insert d rest

/-- Directives, each in its place. -/
def sorted (directives : List LogDirective) : List LogDirective :=
  directives.foldl (fun kept d => d.insert kept) []

def text (d : LogDirective) : String :=
  let inner := d.span.getD "" ++ d.field.elim "" fun f => "\x7b" ++ f.text ++ "\x7d"
  let brackets := if d.span.isSome || d.field.isSome then "[" ++ inner ++ "]" else ""
  if d.target.isSome || d.span.isSome || d.field.isSome then
    d.target.getD "" ++ brackets ++ "=" ++ d.level.name
  else d.level.name

/-- Whether spans decide where a directive holds. -/
def isDynamic (d : LogDirective) : Bool := d.span.isSome || d.field.isSome

/-- Whether it is known beforehand what a directive may hold for: it names no span and no value. -/
def isStatic (d : LogDirective) : Bool := d.span.isNone && d.field.all (·.value.isNone)

end LogDirective

structure LogFilter where
  statics : List LogDirective
  dynamics : List LogDirective
  deriving DecidableEq, Repr

namespace LogFilter

/-- The filter that directives make up. Those that spans decide come last among what is known
    beforehand. -/
def ofDirectives (directives : List LogDirective) : LogFilter :=
  let (dynamics, others) := directives.partition LogDirective.isDynamic
  { statics := LogDirective.sorted (others ++ dynamics.filter LogDirective.isStatic)
    dynamics := LogDirective.sorted dynamics }

/-- Reads a filter, which may be without directives. -/
def parse? (s : String) : Option LogFilter :=
  (((Text.split "," s).filter (· ≠ "")).mapM LogDirective.parse?).map ofDirectives

def text (f : LogFilter) : String :=
  ",".intercalate ((f.statics ++ f.dynamics).map LogDirective.text)

/-- The filter that lets through a level and what is above it. -/
def ofLevel (level : LogLevel) : LogFilter := ⟨[⟨none, none, none, level⟩], []⟩

/-- The filter in force: the one that the variable `RUST_LOG` holds, else the configured one, else
    the level info; a text that cannot be read does not count. -/
def choose (env : Variables) (level : String) : LogFilter :=
  ((env.get? "RUST_LOG").bind parse? <|> parse? level).getD (ofLevel .info)

end LogFilter

end Passcode
