/-
  Passcode.Proofs.Json.RoundTrip — a value that is written reads back.

  A text says all of a value when its strings stand for texts and its numbers were written whole
  (`isPlain`). Such a value reads back whatever follows its text, as long as that does not go on with
  a number (`value?_chars`). The induction is on the budget of the reader, with items and fields
  beside values; the length of a text is budget enough.

  Proved: a plain value is what its text is read as (`parse?_text`, `parseBytes?_text`).
-/

import Passcode.Json.Parser
import Passcode.Proofs.Text.Numeral

namespace Passcode.Json

/-! ## Strings -/

/-- What the text of a character is read as. -/
def glyph (c : Char) : Glyph :=
  if c ∈ ['\n', '\r', '\t', '\x08', '\x0c'] then .char c
  else if c.toNat < 0x20 then .unit c.toNat
  else .char c

theorem hexUnit?_low {n : Nat} (h : n < 0x20) :
    hexUnit? '0' '0' (Text.hexDigit (n / 16)) (Text.hexDigit (n % 16)) = some n := by
  have all : ∀ n < 0x20, hexUnit? '0' '0' (Text.hexDigit (n / 16)) (Text.hexDigit (n % 16)) = some n := by decide
  exact all n h

theorem glyphs?_escape (c : Char) (rest : Input) :
    glyphs? ((escape c).map some ++ rest) = (glyphs? rest).map fun r => (glyph c :: r.1, r.2) := by
  by_cases h1 : c = '"'
  · subst h1
    cases h : glyphs? rest <;> simp [escape, glyphs?, shortEscape?, h, glyph]
  by_cases h2 : c = '\\'
  · subst h2
    cases h : glyphs? rest <;> simp [escape, glyphs?, shortEscape?, h, glyph]
  by_cases h3 : c ∈ ['\n', '\r', '\t', '\x08', '\x0c']
  · have hg : glyph c = .char c := if_pos h3
    rw [hg]
    simp only [List.mem_cons, List.not_mem_nil, or_false] at h3
    rcases h3 with rfl | rfl | rfl | rfl | rfl <;>
      cases h : glyphs? rest <;> simp [escape, glyphs?, shortEscape?, h]
  · simp only [List.mem_cons, List.not_mem_nil, or_false, not_or] at h3
    obtain ⟨hn, hr, ht, hb, hf⟩ := h3
    by_cases h4 : c.toNat < 0x20
    · have hx := hexUnit?_low h4
      cases h : glyphs? rest <;>
        simp [escape, h1, h2, hn, hr, ht, hb, hf, h4, glyphs?, hx, h, glyph]
    · cases h : glyphs? rest <;>
        simp [escape, h1, h2, hn, hr, ht, hb, hf, h4, glyphs?, h, glyph]

theorem glyphs?_escapes (cs : List Char) (rest : Input) :
    glyphs? ((cs.flatMap escape).map some ++ some '"' :: rest) = some (cs.map glyph, rest) := by
  induction cs with
  | nil => simp [glyphs?]
  | cons c cs ih =>
    rw [List.flatMap_cons, List.map_append, List.append_assoc, glyphs?_escape, ih]
    rfl

/-- A code unit below the surrogates is a character. -/
theorem assemble_low {n : Nat} (h : n < 0x20) (gs : List Glyph) :
    assemble (.unit n :: gs) = (Char.ofNat n :: ·) <$> assemble gs := by
  have h1 : ¬ (0xD800 ≤ n ∧ n < 0xDC00) := by omega
  have h2 : ¬ (0xDC00 ≤ n ∧ n < 0xE000) := by omega
  have h3 : ¬ (0xD800 ≤ n ∧ n < 0xE000) := by omega
  cases gs with
  | nil => simp only [assemble, h3, if_false]
  | cons g gs =>
    cases g with
    | unit m => simp only [assemble, h1, h2, if_false]
    | char c => simp only [assemble, h3, if_false]
    | stray => simp only [assemble, h3, if_false]

theorem assemble_glyph (cs : List Char) : assemble (cs.map glyph) = .ok cs := by
  induction cs with
  | nil => rfl
  | cons c cs ih =>
    rw [List.map_cons, glyph]
    split
    · rw [assemble, ih]
      rfl
    · split
      · rename_i hlow
        rw [assemble_low hlow, ih, Char.ofNat_toNat]
        rfl
      · rw [assemble, ih]
        rfl

theorem stringAfterQuote?_text (s : String) (rest : Input) :
    stringAfterQuote? ((s.toList.flatMap escape).map some ++ some '"' :: rest) = some (.ok s, rest) := by
  rw [stringAfterQuote?, glyphs?_escapes, Option.map_some]
  simp only [assemble_glyph]
  exact congrArg (fun x => some (Except.ok x, rest)) String.ofList_toList

/-! ## Numbers -/

/-- A text that does not go on with a number. -/
def EndsNumber (rest : Input) : Prop :=
  ∀ c, rest.head? = some (some c) → Text.isDigit c = false ∧ c ≠ '.' ∧ c ≠ 'e' ∧ c ≠ 'E'

theorem digits?_append {ds : List Char} (hne : ds ≠ []) (hd : ∀ c ∈ ds, Text.isDigit c = true) {rest : Input}
    (hr : EndsNumber rest) : digits? (ds.map some ++ rest) = some (ds, rest) := by
  have hall : ∀ x ∈ ds.map some, (x.any Text.isDigit) = true := by
    intro x hx
    obtain ⟨c, hc, rfl⟩ := List.mem_map.mp hx
    exact hd c hc
  have htake : rest.takeWhile (·.any Text.isDigit) = [] ∧ rest.dropWhile (·.any Text.isDigit) = rest := by
    cases rest with
    | nil => exact ⟨rfl, rfl⟩
    | cons x rest =>
      have hx : x.any Text.isDigit = false := by
        cases x with
        | none => rfl
        | some c => exact (hr c rfl).1
      simp [hx]
  unfold digits?
  rw [List.takeWhile_append_of_pos hall, List.dropWhile_append_of_pos hall, htake.1, htake.2, List.append_nil]
  cases ds with
  | nil => exact absurd rfl hne
  | cons c ds => simp [List.filterMap_map]

theorem wholePart?_toDigits (n : Nat) {rest : Input} (hr : EndsNumber rest) :
    wholePart? ((Nat.toDigits 10 n).map some ++ rest) = some (Nat.toDigits 10 n, rest) := by
  have hd : digits? ((Nat.toDigits 10 n).map some ++ rest) = some (Nat.toDigits 10 n, rest) :=
    digits?_append Nat.toDigits_ne_nil (fun _ hc => Text.isDigit_of_mem_toDigits hc) hr
  unfold wholePart?
  rw [hd]
  by_cases hn : n = 0
  · subst hn
    rfl
  · obtain ⟨c, cs, hcs, hc⟩ := Text.head_toDigits_ne_zero hn
    rw [hcs]
    split
    · rename_i heq
      simp only [Option.some.injEq, Prod.mk.injEq, List.cons.injEq] at heq
      exact absurd heq.1.1 hc
    · rename_i heq
      simp only [Option.some.injEq, Prod.mk.injEq, List.cons.injEq] at heq
      exact absurd heq.1.1 hc
    · rfl

theorem fraction?_none {rest : Input} (hr : EndsNumber rest) : fraction? rest = some ([], rest) := by
  unfold fraction?
  split
  · rename_i rest
    exact absurd rfl (hr '.' rfl).2.1
  · rfl

theorem exponent?_none {rest : Input} (hr : EndsNumber rest) : exponent? rest = some ([], rest) := by
  unfold exponent?
  split
  · rename_i e rest
    obtain ⟨-, -, h1, h2⟩ := hr e rfl
    rw [if_neg (by simp [h1, h2])]
  · rfl

theorem magnitude?_toDigits (negative : Bool) {n : Nat} (hn : negative = true → n ≠ 0) {rest : Input}
    (hr : EndsNumber rest) : magnitude? negative ((Nat.toDigits 10 n).map some ++ rest) =
      some (.whole (if negative then -n else n), rest) := by
  have hz : (!(negative && n == 0)) = true := by
    cases negative with
    | false => rfl
    | true => simpa using hn rfl
  simp only [magnitude?, wholePart?_toDigits n hr, fraction?_none hr, exponent?_none hr, bind, Option.bind,
    Text.digitsValue_toDigits, List.isEmpty_nil, hz, Bool.and_self, if_true]
  rfl

theorem number?_intChars (i : Int) {rest : Input} (hr : EndsNumber rest) :
    number? ((intChars i).map some ++ rest) = some (.whole i, rest) := by
  unfold intChars
  by_cases h : i < 0
  · rw [if_pos h, List.map_cons, List.cons_append, number?, magnitude?_toDigits true (by omega) hr]
    have hi : (-(i.natAbs : Int)) = i := by omega
    simp only [if_true, hi]
  · rw [if_neg h]
    obtain ⟨c, cs, hcs, hc⟩ := Text.toDigits_eq_cons i.natAbs
    have hm := magnitude?_toDigits false (n := i.natAbs) (by simp) hr
    have hi : (i.natAbs : Int) = i := by omega
    rw [hcs, List.map_cons, List.cons_append] at hm ⊢
    unfold number?
    split
    · rename_i heq
      simp only [List.cons.injEq, Option.some.injEq] at heq
      exact absurd heq.1 (Text.isDigit_ne hc rfl)
    · rw [hm]
      simp only [Bool.false_eq_true, if_false, hi]

/-! ## Values -/

mutual

/-- Whether the text of a value says all of it. -/
def isPlain : Json → Bool
  | .null | .bool _ => true
  | .number (.whole _) => true
  | .number (.other _) => false
  | .string (.ok _) => true
  | .string (.error _) => false
  | .array items => itemsPlain items
  | .object fields => fieldsPlain fields

def itemsPlain : List Json → Bool
  | [] => true
  | v :: rest => isPlain v && itemsPlain rest

def fieldsPlain : List (Option String × Json) → Bool
  | [] => true
  | (k, v) :: rest => k.isSome && isPlain v && fieldsPlain rest

end

@[simp] theorem isPlain_str (s : String) : (str s).isPlain = true := rfl

@[simp] theorem isPlain_bool (b : Bool) : (bool b).isPlain = true := by cases b <;> rfl

@[simp] theorem isPlain_int (i : Int) : (int i).isPlain = true := rfl

@[simp] theorem isPlain_nat (n : Nat) : (nat n).isPlain = true := rfl

@[simp] theorem isPlain_ofOption (o : Option String) : (ofOption str o).isPlain = true := by cases o <;> rfl

@[simp] theorem isPlain_array (items : List Json) : (array items).isPlain = items.all isPlain := by
  rw [isPlain]
  induction items with
  | nil => rfl
  | cons v items ih => rw [itemsPlain, ih, List.all_cons]

@[simp] theorem isPlain_record (fields : List (String × Json)) :
    (record fields).isPlain = fields.all fun f => f.2.isPlain := by
  rw [record, isPlain]
  induction fields with
  | nil => rfl
  | cons f fields ih => rw [List.map_cons, fieldsPlain, ih, List.all_cons, Option.isSome_some, Bool.true_and]

theorem skipSpace_cons {c : Char} (h : isSpace c = false) (rest : Input) :
    skipSpace (some c :: rest) = some c :: rest := by
  simp [skipSpace, h]

/-- The text of a plain value begins with a character that is neither blank nor a bracket that closes. -/
theorem chars_eq_cons {v : Json} (h : v.isPlain = true) :
    ∃ c cs, v.chars = c :: cs ∧ isSpace c = false ∧ c ≠ ']' := by
  cases v with
  | null => exact ⟨'n', "ull".toList, rfl, rfl, by decide⟩
  | bool b =>
    cases b with
    | true => exact ⟨'t', "rue".toList, rfl, rfl, by decide⟩
    | false => exact ⟨'f', "alse".toList, rfl, rfl, by decide⟩
  | number n =>
    cases n with
    | whole i =>
      obtain ⟨c, cs, hd, hc⟩ := Text.toDigits_eq_cons i.natAbs
      simp only [chars, numberChars, intChars]
      split
      · exact ⟨'-', _, rfl, rfl, by decide⟩
      · refine ⟨c, cs, hd, ?_, Text.isDigit_ne hc rfl⟩
        have h1 : c ≠ ' ' := Text.isDigit_ne hc rfl
        have h2 : c ≠ '\n' := Text.isDigit_ne hc rfl
        have h3 : c ≠ '\t' := Text.isDigit_ne hc rfl
        have h4 : c ≠ '\r' := Text.isDigit_ne hc rfl
        simp [isSpace, h1, h2, h3, h4]
    | other literal => cases h
  | string s => exact ⟨'"', _, by rw [chars, stringChars]; rfl, rfl, by decide⟩
  | array items => exact ⟨'[', _, by rw [chars]; rfl, rfl, by decide⟩
  | object fields => exact ⟨'\x7b', _, by rw [chars]; rfl, rfl, by decide⟩

theorem value?_number (budget : Nat) (i : Int) (rest : Input) (hr : EndsNumber rest) :
    value? (budget + 1) ((intChars i).map some ++ rest) = some (.number (.whole i), rest) := by
  have hn := number?_intChars i hr
  obtain ⟨c, cs, hcs, hs, -⟩ := chars_eq_cons (v := .number (.whole i)) rfl
  rw [show chars (.number (.whole i)) = intChars i from rfl] at hcs
  have hc : c = '-' ∨ Text.isDigit c = true := by
    obtain ⟨d, ds, hd, hdig⟩ := Text.toDigits_eq_cons i.natAbs
    unfold intChars at hcs
    split at hcs
    · exact Or.inl (List.cons.inj hcs).1.symm
    · rw [hd] at hcs
      exact Or.inr ((List.cons.inj hcs).1 ▸ hdig)
  -- No other kind of value begins like a number.
  have hne : ∀ d, d ≠ '-' → Text.isDigit d = false → c ≠ d := by
    rintro d h1 h2 rfl
    rcases hc with rfl | hc
    · exact h1 rfl
    · rw [hc] at h2
      cases h2
  rw [hcs, List.map_cons, List.cons_append] at hn ⊢
  rw [value?, skipSpace_cons hs]
  split
  · rename_i heq
    exact absurd (Option.some.inj (List.cons.inj heq).1) (hne 'n' (by decide) rfl)
  · rename_i heq
    exact absurd (Option.some.inj (List.cons.inj heq).1) (hne 't' (by decide) rfl)
  · rename_i heq
    exact absurd (Option.some.inj (List.cons.inj heq).1) (hne 'f' (by decide) rfl)
  · rename_i heq
    exact absurd (Option.some.inj (List.cons.inj heq).1) (hne '"' (by decide) rfl)
  · rename_i heq
    exact absurd (Option.some.inj (List.cons.inj heq).1) (hne '[' (by decide) rfl)
  · rename_i heq
    exact absurd (Option.some.inj (List.cons.inj heq).1) (hne '\x7b' (by decide) rfl)
  · rw [hn]
    rfl

theorem value?_string (budget : Nat) (s : String) (rest : Input) :
    value? (budget + 1) ((stringChars (some s)).map some ++ rest) = some (.string (.ok s), rest) := by
  simp only [stringChars, Option.getD_some, List.cons_append, List.map_cons, List.map_append, List.append_assoc,
    List.map_nil, List.nil_append]
  rw [value?, skipSpace_cons rfl]
  simp only [stringAfterQuote?_text, Option.map_some]

theorem endsNumber_cons {c : Char} (h : Text.isDigit c = false ∧ c ≠ '.' ∧ c ≠ 'e' ∧ c ≠ 'E') (rest : Input) :
    EndsNumber (some c :: rest) := by
  intro d hd
  cases hd
  exact h

/-- The readers with a budget above the length of the text read a plain value, plain items and plain
    fields. -/
def Reads (budget : Nat) : Prop :=
  (∀ v rest, isPlain v = true → v.chars.length < budget → EndsNumber rest →
    value? budget (v.chars.map some ++ rest) = some (v, rest)) ∧
  (∀ v vs rest, itemsPlain (v :: vs) = true → (itemsChars (v :: vs)).length + 1 < budget →
    items? budget ((itemsChars (v :: vs)).map some ++ some ']' :: rest) = some (v :: vs, rest)) ∧
  (∀ f fs rest, fieldsPlain (f :: fs) = true → (fieldsChars (f :: fs)).length + 1 < budget →
    fields? budget ((fieldsChars (f :: fs)).map some ++ some '\x7d' :: rest) = some (f :: fs, rest))

section Step

variable {budget : Nat} (ih : Reads budget)
include ih

theorem reads_array (v : Json) (vs : List Json) (rest : Input) (hp : itemsPlain (v :: vs) = true)
    (hl : (itemsChars (v :: vs)).length + 1 < budget) :
    value? (budget + 1) ((chars (.array (v :: vs))).map some ++ rest) = some (.array (v :: vs), rest) := by
  have h := ih.2.1 v vs rest hp hl
  -- The first item does not look like the end of the array.
  obtain ⟨c, cs, hc, hs, hne⟩ : ∃ c cs, itemsChars (v :: vs) = c :: cs ∧ isSpace c = false ∧ c ≠ ']' := by
    simp only [itemsPlain, Bool.and_eq_true] at hp
    obtain ⟨c, cs, hc, hs, hne⟩ := chars_eq_cons hp.1
    cases vs with
    | nil => exact ⟨c, cs, hc, hs, hne⟩
    | cons w vs => exact ⟨c, cs ++ ',' :: itemsChars (w :: vs), by rw [itemsChars, hc]; rfl, hs, hne⟩
  simp only [chars, List.map_append, List.map_cons, List.map_nil, List.cons_append, List.append_assoc,
    List.nil_append]
  rw [value?, skipSpace_cons rfl]
  rw [hc, List.map_cons, List.cons_append] at h ⊢
  simp only [skipSpace_cons hs]
  split
  · rename_i heq
    exact absurd (Option.some.inj (List.cons.inj heq).1) hne
  · rw [h]
    rfl

theorem reads_object (f : Option String × Json) (fs : List (Option String × Json)) (rest : Input)
    (hp : fieldsPlain (f :: fs) = true) (hl : (fieldsChars (f :: fs)).length + 1 < budget) :
    value? (budget + 1) ((chars (.object (f :: fs))).map some ++ rest) = some (.object (f :: fs), rest) := by
  have h := ih.2.2 f fs rest hp hl
  obtain ⟨cs, hc⟩ : ∃ cs, fieldsChars (f :: fs) = '"' :: cs := by
    obtain ⟨k, v⟩ := f
    cases fs with
    | nil => exact ⟨_, rfl⟩
    | cons g fs => exact ⟨_, rfl⟩
  simp only [chars, List.map_append, List.map_cons, List.map_nil, List.cons_append, List.append_assoc,
    List.nil_append]
  rw [value?, skipSpace_cons rfl]
  rw [hc, List.map_cons, List.cons_append] at h ⊢
  show (fields? budget (some '"' :: (cs.map some ++ some '\x7d' :: rest))).map _ = _
  rw [h]
  rfl

theorem reads_value (v : Json) (rest : Input) (hp : isPlain v = true) (hl : v.chars.length < budget + 1)
    (hr : EndsNumber rest) : value? (budget + 1) (v.chars.map some ++ rest) = some (v, rest) := by
  cases v with
  | null => rfl
  | bool b => cases b <;> rfl
  | number n =>
    cases n with
    | whole i => exact value?_number budget i rest hr
    | other literal => cases hp
  | string s =>
    cases s with
    | ok s => exact value?_string budget s rest
    | error d => cases hp
  | array vs =>
    cases vs with
    | nil => rfl
    | cons v vs =>
      refine reads_array ih v vs rest hp ?_
      simp only [chars, List.length_append, List.length_cons, List.length_nil] at hl
      omega
  | object fs =>
    cases fs with
    | nil => rfl
    | cons f fs =>
      refine reads_object ih f fs rest hp ?_
      simp only [chars, List.length_append, List.length_cons, List.length_nil] at hl
      omega

theorem reads_items (v : Json) (vs : List Json) (rest : Input) (hp : itemsPlain (v :: vs) = true)
    (hl : (itemsChars (v :: vs)).length + 1 < budget + 1) :
    items? (budget + 1) ((itemsChars (v :: vs)).map some ++ some ']' :: rest) = some (v :: vs, rest) := by
  obtain ⟨values, items, -⟩ := ih
  simp only [itemsPlain, Bool.and_eq_true] at hp
  cases vs with
  | nil =>
    simp only [itemsChars] at hl ⊢
    rw [items?, values v _ hp.1 (by omega) (endsNumber_cons (by decide) rest)]
    rfl
  | cons w vs =>
    simp only [itemsChars, List.length_append, List.length_cons] at hl ⊢
    rw [List.map_append, List.map_cons, List.append_assoc, List.cons_append, items?,
      values v _ hp.1 (by omega) (endsNumber_cons (by decide) _)]
    have h := items w vs rest (by simpa [itemsPlain] using hp.2) (by omega)
    simp only [bind, Option.bind, skipSpace_cons (show isSpace ',' = false from rfl), h]
    rfl

theorem reads_fields (f : Option String × Json) (fs : List (Option String × Json)) (rest : Input)
    (hp : fieldsPlain (f :: fs) = true) (hl : (fieldsChars (f :: fs)).length + 1 < budget + 1) :
    fields? (budget + 1) ((fieldsChars (f :: fs)).map some ++ some '\x7d' :: rest) = some (f :: fs, rest) := by
  obtain ⟨values, -, fields⟩ := ih
  obtain ⟨k, v⟩ := f
  simp only [fieldsPlain, Bool.and_eq_true] at hp
  obtain ⟨⟨hk, hv⟩, hfs⟩ := hp
  obtain ⟨k, rfl⟩ := Option.isSome_iff_exists.mp hk
  cases fs with
  | nil =>
    simp only [fieldsChars, List.length_append, List.length_cons] at hl
    simp only [fieldsChars, stringChars, Option.getD_some, List.cons_append, List.map_cons, List.map_append,
      List.append_assoc, List.nil_append]
    rw [fields?, skipSpace_cons rfl]
    simp only [stringAfterQuote?_text, bind, Option.bind, skipSpace_cons (show isSpace ':' = false from rfl),
      values v _ hv (by omega) (endsNumber_cons (c := '\x7d') (by decide) rest)]
    rfl
  | cons g fs =>
    simp only [fieldsChars, List.length_append, List.length_cons] at hl
    have h := fields g fs rest hfs (by omega)
    simp only [fieldsChars, stringChars, Option.getD_some, List.cons_append, List.map_cons, List.map_append,
      List.append_assoc, List.nil_append]
    rw [fields?, skipSpace_cons rfl]
    simp only [stringAfterQuote?_text, bind, Option.bind, skipSpace_cons (show isSpace ':' = false from rfl),
      values v _ hv (by omega) (endsNumber_cons (c := ',') (by decide) _),
      skipSpace_cons (show isSpace ',' = false from rfl), h]
    rfl

end Step

theorem reads (budget : Nat) : Reads budget := by
  induction budget with
  | zero => exact ⟨fun _ _ _ h => by omega, fun _ _ _ _ h => by omega, fun _ _ _ _ h => by omega⟩
  | succ budget ih => exact ⟨reads_value ih, reads_items ih, reads_fields ih⟩

/-- A plain value is what its text is read as. -/
theorem parse?_text {v : Json} (h : v.isPlain = true) : parse? v.text = some v := by
  have hv := (reads (v.chars.length + 1)).1 v [] h (by omega) fun c hc => by cases hc
  rw [List.append_nil] at hv
  simp only [parse?, parseInput?, Text.chars, text, String.toList_ofList, List.length_map, hv]
  rfl

theorem parseBytes?_text {v : Json} (h : v.isPlain = true) : parseBytes? v.text.toUTF8.data.toList = some v :=
  (parseBytes?_toByteArray v.text).trans (parse?_text h)

end Passcode.Json
