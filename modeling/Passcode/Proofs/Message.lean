/-
  Passcode.Proofs.Message — what becomes of the placeholders of a template.

  Read once from left to right, a template is a row of pieces: characters, and placeholders that have an
  argument. To fill in all placeholders at once is to write the value of each in its place, and to look at
  no value again. Rendering goes through the template once for every argument instead, and through the
  values that are there by then: a value that holds the placeholder of a later argument is changed
  (`value_filled_again`), and so is the brace before a placeholder when its value and the brace after it
  complete another one (`braces_filled_again`).

  Proved: when the values that come before another argument hold no braces, and stand between no two braces
  that are left, rendering is filling in at once; and when all do, the order of the arguments is of no
  account (`placeholders_filled_at_once`). A single argument is always filled in at once.
-/

import Mathlib.Data.List.Infix
import Mathlib.Data.List.Nodup
import Passcode.Message
import Passcode.Proofs.Text.Pattern

namespace Passcode.Message

/-! ## Templates as pieces -/

/-- A part of a template: a character to be copied, or the placeholder of an argument. -/
inductive Piece where
  | text (c : Char)
  | slot (a : Argument)
  deriving DecidableEq

namespace Piece

/-- A piece as it stands in the template. -/
def written : Piece → List Char
  | text c => [c]
  | slot a => placeholder a.name.toList

/-- What a piece becomes. -/
def filled : Piece → List Char
  | text c => [c]
  | slot a => a.value.toList

/-- A piece when some of the arguments have had their turn. -/
def during (done : List Argument) : Piece → List Char
  | text c => [c]
  | slot a => if a ∈ done then a.value.toList else placeholder a.name.toList

end Piece

/-- The argument with whose placeholder a text begins. -/
def slotAt? (arguments : List Argument) (cs : List Char) : Option Argument :=
  arguments.find? fun a => (placeholder a.name.toList).isPrefixOf cs

/-- The pieces of a template. The number counts the characters of a placeholder, already taken in, that are
    still to be passed over. -/
def piecesFrom (arguments : List Argument) : Nat → List Char → List Piece
  | _, [] => []
  | skip + 1, _ :: cs => piecesFrom arguments skip cs
  | 0, c :: cs =>
    match slotAt? arguments (c :: cs) with
    | some a => .slot a :: piecesFrom arguments (a.name.toList.length + 1) cs
    | none => .text c :: piecesFrom arguments 0 cs

/-- The pieces of a template, read once from left to right. -/
def pieces (arguments : List Argument) (body : String) : List Piece := piecesFrom arguments 0 body.toList

/-- A template with all its placeholders filled in at once. -/
def fillIn (body : String) (arguments : List Argument) : String :=
  String.ofList ((pieces arguments body).flatMap Piece.filled)

/-- A text without braces. -/
def Unbraced (s : String) : Prop := '\x7b' ∉ s.toList ∧ '\x7d' ∉ s.toList

instance (s : String) : Decidable (Unbraced s) := inferInstanceAs (Decidable (_ ∧ _))

/-- The placeholder of an argument stands somewhere between an opening and a closing brace that belong to no
    placeholder, and no other such brace stands between the two. -/
def Enclosed (parts : List Piece) (a : Argument) : Prop :=
  ∃ before between after, parts = before ++ .text '\x7b' :: (between ++ .text '\x7d' :: after) ∧
    .slot a ∈ between ∧ .text '\x7b' ∉ between ∧ .text '\x7d' ∉ between

/-- The value of an argument makes no new placeholder where it is filled in. -/
def Settles (parts : List Piece) (a : Argument) : Prop := .slot a ∈ parts → Unbraced a.value ∧ ¬ Enclosed parts a

/-- In a template whose opening braces all belong to placeholders nothing is enclosed. -/
theorem not_enclosed {parts : List Piece} (h : .text '\x7b' ∉ parts) (a : Argument) : ¬ Enclosed parts a := by
  rintro ⟨before, between, after, rfl, -⟩
  simp at h

theorem Enclosed.cons {parts : List Piece} {a : Argument} (h : Enclosed parts a) (piece : Piece) :
    Enclosed (piece :: parts) a := by
  obtain ⟨before, between, after, rfl, hbetween⟩ := h
  exact ⟨piece :: before, between, after, rfl, hbetween⟩

theorem Settles.tail {piece : Piece} {parts : List Piece} {a : Argument} (h : Settles (piece :: parts) a) :
    Settles parts a := by
  intro ha
  obtain ⟨hvalue, hfree⟩ := h (List.mem_cons_of_mem _ ha)
  exact ⟨hvalue, fun hin => hfree (hin.cons piece)⟩

theorem placeholder_eq (name : List Char) : placeholder name = '\x7b' :: (name ++ ['\x7d']) := rfl

/-- A text begins with at most one placeholder, when names hold no braces. -/
theorem placeholder_append_inj {a b : String} (ha : Unbraced a) (hb : Unbraced b) {cs ds : List Char}
    (h : placeholder a.toList ++ cs = placeholder b.toList ++ ds) : a = b := by
  simp only [placeholder_eq, List.cons_append, List.append_assoc, List.nil_append, List.cons.injEq, true_and] at h
  exact String.ext (Text.append_cons_inj ha.2 hb.2 h).1

/-- Pieces are taken from left to right: no placeholder begins where a character is copied. -/
def Proper (arguments : List Argument) : List Piece → Prop
  | [] => True
  | .text c :: parts =>
    (∀ b ∈ arguments, ¬ placeholder b.name.toList <+: c :: parts.flatMap Piece.written) ∧ Proper arguments parts
  | .slot a :: parts => a ∈ arguments ∧ Proper arguments parts

theorem Proper.mem {arguments : List Argument} {parts : List Piece} (h : Proper arguments parts) {a : Argument}
    (ha : .slot a ∈ parts) : a ∈ arguments := by
  induction parts with
  | nil => cases ha
  | cons piece parts ih =>
    cases piece with
    | text c => exact ih h.2 (by simpa using ha)
    | slot b =>
      rcases List.mem_cons.mp ha with hhere | hlater
      · cases hhere
        exact h.1
      · exact ih h.2 hlater

/-- The pieces of a template make it up. -/
theorem piecesFrom_proper (arguments : List Argument) (skip : Nat) (cs : List Char) :
    (piecesFrom arguments skip cs).flatMap Piece.written = cs.drop skip ∧
      Proper arguments (piecesFrom arguments skip cs) := by
  fun_induction piecesFrom arguments skip cs with
  | case1 skip => simp [Proper]
  | case2 skip c cs ih => simpa using ih
  | case3 c cs a hslot ih =>
    have hmem : a ∈ arguments := List.mem_of_find?_eq_some hslot
    have hbegins : placeholder a.name.toList <+: c :: cs := by
      simpa [List.isPrefixOf_iff_prefix] using List.find?_some hslot
    obtain ⟨rest, hrest⟩ := hbegins
    simp only [placeholder_eq, List.cons_append, List.cons.injEq] at hrest
    obtain ⟨rfl, rfl⟩ := hrest
    refine ⟨?_, hmem, ih.2⟩
    rw [List.flatMap_cons, ih.1, Piece.written, placeholder_eq]
    simp
  | case4 c cs hslot ih =>
    have hwritten : (piecesFrom arguments 0 cs).flatMap Piece.written = cs := ih.1
    refine ⟨by simp [Piece.written, hwritten], ?_, ih.2⟩
    intro b hb hbegins
    rw [hwritten] at hbegins
    have hnone := List.find?_eq_none.mp hslot b hb
    simp [List.isPrefixOf_iff_prefix, hbegins] at hnone

/-! ## One argument after the other -/

section
variable {arguments done : List Argument} {parts : List Piece}

/-- Where text up to a closing brace can be read once some arguments are filled in, the template has a closing
    brace of its own, and no other brace before it. -/
theorem closing_brace {name : List Char} (hname : '\x7b' ∉ name ∧ '\x7d' ∉ name)
    (hvalues : ∀ a ∈ done, .slot a ∈ parts → Unbraced a.value)
    (h : name ++ ['\x7d'] <+: parts.flatMap (Piece.during done)) :
    ∃ between after, parts = between ++ .text '\x7d' :: after ∧ .text '\x7b' ∉ between ∧ .text '\x7d' ∉ between ∧
      between.flatMap (Piece.during done) = name ∧ ∀ a, .slot a ∈ between → a ∈ done := by
  induction parts generalizing name with
  | nil => simp at h
  | cons piece parts ih =>
    have hlater : ∀ a ∈ done, .slot a ∈ parts → Unbraced a.value := by
      intro a hdone ha
      exact hvalues a hdone (List.mem_cons_of_mem _ ha)
    rw [List.flatMap_cons] at h
    cases piece with
    | text c =>
      simp only [Piece.during, List.cons_append, List.nil_append] at h
      cases name with
      | nil =>
        have hc : '\x7d' = c := (List.cons_prefix_cons.mp h).1
        subst hc
        exact ⟨[], parts, rfl, by simp⟩
      | cons x name =>
        obtain ⟨rfl, hrest⟩ := List.cons_prefix_cons.mp h
        simp only [List.mem_cons, not_or] at hname
        obtain ⟨between, after, rfl, hopen, hclose, hbetween, hdone⟩ := ih ⟨hname.1.2, hname.2.2⟩ hlater hrest
        refine ⟨.text x :: between, after, rfl, ?_, ?_, ?_, ?_⟩
        · simp [hopen, hname.1.1]
        · simp [hclose, hname.2.1]
        · simp [Piece.during, hbetween]
        · intro a ha
          exact hdone a (by simpa using ha)
    | slot a =>
      by_cases ha : a ∈ done
      · have hvalue : Unbraced a.value := hvalues a ha List.mem_cons_self
        simp only [Piece.during, ha, if_true] at h
        obtain ⟨rest, rfl, hrest⟩ := Text.split_of_prefix_append hvalue.2 h
        simp only [List.mem_append, not_or] at hname
        obtain ⟨between, after, rfl, hopen, hclose, hbetween, hdone⟩ := ih ⟨hname.1.2, hname.2.2⟩ hlater hrest
        refine ⟨.slot a :: between, after, rfl, by simp [hopen], by simp [hclose], ?_, ?_⟩
        · simp [Piece.during, ha, hbetween]
        · intro b hb
          rcases List.mem_cons.mp hb with hhere | hlater
          · cases hhere
            exact ha
          · exact hdone b hlater
      · -- a placeholder still to be filled in begins with a brace that `name` does not hold
        simp only [Piece.during, ha, if_false, placeholder_eq, List.cons_append] at h
        cases name with
        | nil => simp at h
        | cons x name =>
          obtain ⟨rfl, -⟩ := List.cons_prefix_cons.mp h
          simp at hname

/-- Filling in makes no new placeholder. -/
theorem no_new_placeholder {b : Argument} (hb : b ∈ arguments) (hname : Unbraced b.name) {c : Char}
    (hp : Proper arguments (.text c :: parts)) (hs : ∀ a ∈ done, Settles (.text c :: parts) a) :
    ¬ placeholder b.name.toList <+: c :: parts.flatMap (Piece.during done) := by
  intro h
  obtain ⟨rfl, hrest⟩ := List.cons_prefix_cons.mp h
  have hvalues : ∀ a ∈ done, .slot a ∈ parts → Unbraced a.value := by
    intro a hdone ha
    exact (hs a hdone (List.mem_cons_of_mem _ ha)).1
  obtain ⟨between, after, rfl, hopen, hclose, hbetween, hdone⟩ := closing_brace hname hvalues hrest
  -- nothing between the two braces was filled in, or it would be enclosed by them
  have hnone : ∀ a, .slot a ∉ between := by
    intro a ha
    exact (hs a (hdone a ha) (by simp [ha])).2 ⟨[], between, after, rfl, ha, hopen, hclose⟩
  have hsame : between.flatMap Piece.written = b.name.toList := by
    rw [← hbetween]
    refine List.flatMap_congr fun piece hpiece => ?_
    cases piece with
    | text d => rfl
    | slot a => exact absurd hpiece (hnone a)
  apply hp.1 b hb
  rw [List.flatMap_append, hsame, placeholder_eq, List.flatMap_cons]
  simp [Piece.written]

/-- An argument has its turn. -/
theorem replaceAll_during {b : Argument} (hb : b ∈ arguments) (hnew : b ∉ done)
    (names : ∀ a ∈ arguments, Unbraced a.name) (distinct : ∀ a ∈ arguments, a.name = b.name → a = b)
    (hp : Proper arguments parts) (hs : ∀ a ∈ done, Settles parts a) :
    Text.replaceAll (placeholder b.name.toList) b.value.toList (parts.flatMap (Piece.during done)) =
      parts.flatMap (Piece.during (done ++ [b])) := by
  induction parts with
  | nil => rfl
  | cons piece parts ih =>
    have hlater : ∀ a ∈ done, Settles parts a := fun a ha => (hs a ha).tail
    rw [List.flatMap_cons, List.flatMap_cons]
    cases piece with
    | text c =>
      have hcopied := no_new_placeholder hb (names b hb) hp hs
      simp only [Piece.during, List.cons_append, List.nil_append]
      rw [Text.replaceAll_cons hcopied, ih hp.2 hlater]
    | slot a =>
      by_cases hab : a = b
      · subst hab
        have hne : placeholder a.name.toList ≠ [] := by simp [placeholder]
        simp only [Piece.during, hnew, if_false, List.mem_append, List.mem_singleton, or_true, if_true]
        rw [Text.replaceAll_occurrence hne, ih hp.2 hlater]
      · have hstays : Piece.during (done ++ [b]) (.slot a) = Piece.during done (.slot a) := by
          simp [Piece.during, hab]
        rw [hstays, ← ih hp.2 hlater]
        by_cases ha : a ∈ done
        · have hvalue := (hs a ha List.mem_cons_self).1
          simp only [Piece.during, ha, if_true]
          rw [placeholder_eq, Text.replaceAll_append hvalue.1]
        · -- the other placeholder is passed over: it begins another way, and then holds no opening brace
          have hother : ¬ placeholder b.name.toList <+: placeholder a.name.toList ++ parts.flatMap (Piece.during done) := by
            rintro ⟨rest, hrest⟩
            exact hab (distinct a hp.1 (placeholder_append_inj (names b hb) (names a hp.1) hrest).symm)
          have hplain : '\x7b' ∉ a.name.toList ++ ['\x7d'] := by
            have := (names a hp.1).1
            simp [this]
          simp only [Piece.during, ha, if_false]
          rw [placeholder_eq a.name.toList, List.cons_append] at hother ⊢
          rw [Text.replaceAll_cons hother]
          exact congrArg _ (Text.replaceAll_append hplain _)

end

section
variable {arguments : List Argument} (distinct : (arguments.map Argument.name).Nodup)
  (names : ∀ a ∈ arguments, Unbraced a.name)
include distinct

theorem eq_of_name_eq {a b : Argument} (ha : a ∈ arguments) (hb : b ∈ arguments) (h : a.name = b.name) : a = b :=
  List.inj_on_of_nodup_map distinct ha hb h

include names

/-- Arguments have their turns one after the other. -/
theorem renderChars_during {parts : List Piece} (hp : Proper arguments parts) (todo done : List Argument)
    (hsplit : arguments = done ++ todo) (hs : ∀ a ∈ arguments.dropLast, Settles parts a) :
    renderChars (parts.flatMap (Piece.during done)) todo = parts.flatMap (Piece.during arguments) := by
  induction todo generalizing done with
  | nil => simp [renderChars, hsplit]
  | cons b todo ih =>
    have hb : b ∈ arguments := by simp [hsplit]
    have hnew : b ∉ done := by
      intro hdone
      rw [hsplit, List.map_append, List.nodup_append] at distinct
      exact distinct.2.2 _ (List.mem_map_of_mem hdone) b.name (by simp) rfl
    have hearlier : ∀ a ∈ done, Settles parts a := by
      intro a ha
      apply hs
      rw [hsplit, List.dropLast_append_of_ne_nil (by simp)]
      exact List.mem_append_left _ ha
    have hname : ∀ a ∈ arguments, a.name = b.name → a = b := fun a ha h => eq_of_name_eq distinct ha hb h
    have hturn := replaceAll_during hb hnew names hname hp hearlier
    rw [renderChars, List.foldl_cons, hturn, ← renderChars]
    exact ih (done ++ [b]) (by simp [hsplit])

theorem slotAt?_eq_some {cs : List Char} {a : Argument} :
    slotAt? arguments cs = some a ↔ a ∈ arguments ∧ placeholder a.name.toList <+: cs := by
  constructor
  · intro h
    refine ⟨List.mem_of_find?_eq_some h, ?_⟩
    simpa [List.isPrefixOf_iff_prefix] using List.find?_some h
  · rintro ⟨ha, hbegins⟩
    cases hfound : slotAt? arguments cs with
    | none =>
      have hnone := List.find?_eq_none.mp hfound a ha
      simp [List.isPrefixOf_iff_prefix, hbegins] at hnone
    | some b =>
      have hb : b ∈ arguments := List.mem_of_find?_eq_some hfound
      have hb' : placeholder b.name.toList <+: cs := by
        simpa [List.isPrefixOf_iff_prefix] using List.find?_some hfound
      obtain ⟨rest, rfl⟩ := hbegins
      obtain ⟨rest', hrest'⟩ := hb'
      rw [eq_of_name_eq distinct hb ha (placeholder_append_inj (names b hb) (names a ha) hrest')]

/-- The order of the arguments does not change what the placeholders of a template are. -/
theorem pieces_perm {order : List Argument} (h : order.Perm arguments) (body : String) :
    pieces order body = pieces arguments body := by
  have hslot : slotAt? order = slotAt? arguments := by
    funext cs
    have distinct' : (order.map Argument.name).Nodup := (h.map _).nodup_iff.mpr distinct
    have names' : ∀ a ∈ order, Unbraced a.name := fun a ha => names a (h.mem_iff.mp ha)
    ext a
    rw [slotAt?_eq_some distinct names, slotAt?_eq_some distinct' names', h.mem_iff]
  have hfrom : ∀ skip cs, piecesFrom order skip cs = piecesFrom arguments skip cs := by
    intro skip cs
    fun_induction piecesFrom arguments skip cs with
    | case1 skip => rw [piecesFrom]
    | case2 skip c cs ih => rw [piecesFrom, ih]
    | case3 c cs a ha ih =>
      rw [piecesFrom, hslot, ha]
      exact congrArg _ ih
    | case4 c cs ha ih =>
      rw [piecesFrom, hslot, ha]
      exact congrArg _ ih
  exact hfrom 0 body.toList

/-- When the arguments that others follow settle, rendering is filling in at once. -/
theorem render_eq_fillIn {body : String} (hs : ∀ a ∈ arguments.dropLast, Settles (pieces arguments body) a) :
    render body arguments = fillIn body arguments := by
  obtain ⟨hwritten, hp⟩ := piecesFrom_proper arguments 0 body.toList
  have hstart : (pieces arguments body).flatMap (Piece.during []) = body.toList := by
    have hsame : Piece.during [] = Piece.written := by
      funext piece
      cases piece <;> simp [Piece.during, Piece.written]
    rw [hsame]
    exact hwritten
  have hend : (pieces arguments body).flatMap (Piece.during arguments) =
      (pieces arguments body).flatMap Piece.filled := by
    refine List.flatMap_congr fun piece hpiece => ?_
    cases piece with
    | text c => rfl
    | slot a => simp [Piece.during, Piece.filled, hp.mem hpiece]
  have hrender := renderChars_during distinct names hp arguments [] rfl hs
  rw [← pieces, hstart, hend] at hrender
  rw [render, hrender, fillIn]

/-- For every template and all arguments with distinct names without braces: when every argument but the last
    has a value without braces, wherever its placeholder stands, and not between two braces that are left, the
    template is rendered with all placeholders filled in at once. When the last argument has as well, it is
    so in whatever order the arguments are given. -/
theorem placeholders_filled_at_once (body : String) :
    ((∀ a ∈ arguments.dropLast, Settles (pieces arguments body) a) → render body arguments = fillIn body arguments) ∧
    ((∀ a ∈ arguments, Settles (pieces arguments body) a) →
      ∀ order : List Argument, order.Perm arguments → render body order = fillIn body arguments) := by
  refine ⟨render_eq_fillIn distinct names, ?_⟩
  intro hs order horder
  have hpieces := pieces_perm distinct names horder body
  have distinct' : (order.map Argument.name).Nodup := (horder.map _).nodup_iff.mpr distinct
  have names' : ∀ a ∈ order, Unbraced a.name := fun a ha => names a (horder.mem_iff.mp ha)
  rw [render_eq_fillIn distinct' names', fillIn, hpieces, fillIn]
  intro a ha
  rw [hpieces]
  exact hs a (horder.mem_iff.mp (List.mem_of_mem_dropLast ha))

end

theorem placeholders_filled_at_once_sample :
    let body := "Code \x7bcode\x7d, valid \x7bminutes\x7d min"
    let arguments : List Argument := [⟨"123456", "code"⟩, ⟨"10", "minutes"⟩]
    (arguments.map Argument.name).Nodup ∧ (∀ a ∈ arguments, Unbraced a.name) ∧
    (∀ a ∈ arguments, Settles (pieces arguments body) a) ∧
    render body arguments.reverse = fillIn body arguments ∧ fillIn body arguments = "Code 123456, valid 10 min" := by
  intro body arguments
  have distinct : (arguments.map Argument.name).Nodup := by decide
  have names : ∀ a ∈ arguments, Unbraced a.name := by decide
  have hvalues : ∀ a ∈ arguments, Unbraced a.value := by decide
  have hopen : .text '\x7b' ∉ pieces arguments body := by decide +kernel
  have hs : ∀ a ∈ arguments, Settles (pieces arguments body) a := by
    intro a ha _
    exact ⟨hvalues a ha, not_enclosed hopen a⟩
  have hrender := (placeholders_filled_at_once distinct names body).2 hs arguments.reverse (List.reverse_perm _)
  exact ⟨distinct, names, hs, hrender, by decide +kernel⟩

/-! ## Placeholders that are made by filling in -/

/-- The value of one argument holds the placeholder of the next one. What the message says depends on which of
    the two comes first. -/
theorem value_filled_again :
    let body := "\x7ba\x7d"
    let arguments : List Argument := [⟨"\x7bb\x7d", "a"⟩, ⟨"x", "b"⟩]
    (arguments.map Argument.name).Nodup ∧ (∀ a ∈ arguments, Unbraced a.name) ∧
    fillIn body arguments = "\x7bb\x7d" ∧ render body arguments = "x" ∧
    render body arguments.reverse = "\x7bb\x7d" := by
  decide +kernel

/-- No value holds a brace, but the first one comes to stand between two. -/
theorem braces_filled_again :
    let body := "\x7b\x7bb\x7d\x7d"
    let arguments : List Argument := [⟨"a", "b"⟩, ⟨"y", "a"⟩]
    (∀ a ∈ arguments, Unbraced a.value) ∧ fillIn body arguments = "\x7ba\x7d" ∧ render body arguments = "y" := by
  decide +kernel

end Passcode.Message
