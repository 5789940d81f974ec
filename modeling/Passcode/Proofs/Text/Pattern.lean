/-
  Passcode.Proofs.Text.Pattern — cutting a text at a separator, and replacing a pattern.

  Proved: what stands before a separator that it does not hold is what `takeWhile` takes
  (`takeWhile_append_cons`), so a text has one such cut (`append_cons_inj`); how a pattern is replaced,
  from occurrence to occurrence (`replaceAll_occurrence`, `replaceAll_cons`): text in which it cannot begin
  is passed over (`replaceAll_append`); and where a text is cut at a separator of several characters: in front
  of the first one, if it holds any (`exists_cut`, `splitFrom_append`, `splitFrom_of_not_infix`).
-/

import Mathlib.Data.List.Infix
import Mathlib.Data.List.TakeWhile
import Passcode.Text.Pattern

namespace Passcode.Text

variable {α : Type}

section
variable [DecidableEq α]

theorem takeWhile_append_cons {a : List α} {x : α} (h : x ∉ a) (c : List α) :
    (a ++ x :: c).takeWhile (fun y => decide (y ≠ x)) = a := by
  have ha : ∀ y ∈ a, decide (y ≠ x) = true := by
    intro y hy
    simp only [decide_eq_true_eq]
    rintro rfl
    exact h hy
  rw [List.takeWhile_append_of_pos ha, List.takeWhile_cons_of_neg (by simp), List.append_nil]

theorem append_cons_inj {a b c d : List α} {x : α} (ha : x ∉ a) (hb : x ∉ b) (h : a ++ x :: c = b ++ x :: d) :
    a = b ∧ c = d := by
  have hab : a = b := by rw [← takeWhile_append_cons ha c, h, takeWhile_append_cons hb d]
  subst hab
  exact ⟨rfl, by simpa using h⟩

end

/-- The piece before the first separator of a longer text begins with the text in front of that. -/
theorem split_of_prefix_append {a b c : List α} {x : α} (hb : x ∉ b) (h : a ++ [x] <+: b ++ c) :
    ∃ d, a = b ++ d ∧ d ++ [x] <+: c := by
  induction b generalizing a with
  | nil => exact ⟨a, rfl, h⟩
  | cons y b ih =>
    simp only [List.mem_cons, not_or] at hb
    cases a with
    | nil => exact absurd (List.cons_prefix_cons.mp h).1 hb.1
    | cons z a =>
      obtain ⟨rfl, hrest⟩ := List.cons_prefix_cons.mp h
      obtain ⟨d, rfl, hd⟩ := ih hb.2 hrest
      exact ⟨d, rfl, hd⟩

/-! ## Replacing -/

section
variable {pattern value : List Char}

theorem replaceFrom_skip (n : Nat) (cs : List Char) :
    replaceFrom pattern value n cs = replaceAll pattern value (cs.drop n) := by
  induction n generalizing cs with
  | zero => rfl
  | succ n ih =>
    cases cs with
    | nil => simp [replaceAll]
    | cons c cs => simp [replaceFrom, ih]

theorem replaceAll_occurrence (h : pattern ≠ []) (cs : List Char) :
    replaceAll pattern value (pattern ++ cs) = value ++ replaceAll pattern value cs := by
  obtain ⟨x, rest, rfl⟩ := List.exists_cons_of_ne_nil h
  have hhere : (x :: rest).isPrefixOf (x :: (rest ++ cs)) = true := by simp [List.isPrefixOf_iff_prefix]
  rw [List.cons_append, replaceAll, replaceFrom, if_pos hhere, replaceFrom_skip]
  simp

theorem replaceAll_cons {c : Char} {cs : List Char} (h : ¬ pattern <+: c :: cs) :
    replaceAll pattern value (c :: cs) = c :: replaceAll pattern value cs := by
  rw [replaceAll, replaceFrom, if_neg (by simpa [List.isPrefixOf_iff_prefix] using h), replaceAll]

/-- A text without the first character of the pattern is copied. -/
theorem replaceAll_append {x : Char} {a : List Char} (h : x ∉ a) (cs : List Char) :
    replaceAll (x :: pattern) value (a ++ cs) = a ++ replaceAll (x :: pattern) value cs := by
  induction a with
  | nil => rfl
  | cons c a ih =>
    simp only [List.mem_cons, not_or] at h
    rw [List.cons_append, replaceAll_cons, ih h.2, List.cons_append]
    intro hpre
    exact h.1 (List.cons_prefix_cons.mp hpre).1

end

/-! ## Cutting -/

section
variable {separator a b cs ds : List Char}

theorem splitFrom_skip (n : Nat) (cs : List Char) :
    splitFrom separator n cs = splitFrom separator 0 (cs.drop n) := by
  induction n generalizing cs with
  | zero => rfl
  | succ n ih =>
    cases cs with
    | nil => rfl
    | cons c cs => rw [splitFrom, ih, List.drop_succ_cons]

theorem splitFrom_occurrence (h : separator ≠ []) (cs : List Char) :
    splitFrom separator 0 (separator ++ cs) = [] :: splitFrom separator 0 cs := by
  obtain ⟨x, rest, rfl⟩ := List.exists_cons_of_ne_nil h
  have hhere : (x :: rest).isPrefixOf (x :: (rest ++ cs)) = true := by simp [List.isPrefixOf_iff_prefix]
  rw [List.cons_append, splitFrom, if_pos hhere, splitFrom_skip]
  simp

theorem splitFrom_cons {c : Char} {piece : List Char} {pieces : List (List Char)} (h : ¬ separator <+: c :: cs)
    (hrest : splitFrom separator 0 cs = piece :: pieces) :
    splitFrom separator 0 (c :: cs) = (c :: piece) :: pieces := by
  rw [splitFrom, if_neg (by simpa [List.isPrefixOf_iff_prefix] using h), hrest]

/-- No separator begins in a text that one follows. -/
def Clear (separator cs : List Char) : Prop := ¬ separator <:+: cs ++ separator.dropLast

instance (separator cs : List Char) : Decidable (Clear separator cs) := inferInstanceAs (Decidable (¬ _))

theorem Clear.tail {c : Char} (h : Clear separator (c :: cs)) : Clear separator cs := by
  intro hoccurs
  exact h (List.infix_cons hoccurs)

theorem clear_nil (h : separator ≠ []) : Clear separator [] := by
  intro hoccurs
  have hlength := hoccurs.length_le
  have hpos := List.length_pos_of_ne_nil h
  rw [List.nil_append, List.length_dropLast] at hlength
  omega

/-- What `Clear` looks at is how the text goes on that a separator follows. -/
theorem append_dropLast_prefix_append (a separator cs : List Char) : a ++ separator.dropLast <+: a ++ (separator ++ cs) :=
  (List.prefix_append_right_inj a).mpr ((List.dropLast_prefix separator).trans (List.prefix_append separator cs))

theorem Clear.not_prefix {c : Char} (h : Clear separator (c :: a)) (cs : List Char) :
    ¬ separator <+: c :: a ++ (separator ++ cs) := by
  intro hbegins
  apply h
  refine (List.prefix_of_prefix_length_le hbegins (append_dropLast_prefix_append (c :: a) separator cs) ?_).isInfix
  rw [List.length_append, List.length_dropLast, List.length_cons]
  omega

/-- A text is cut in front of its first separator. -/
theorem splitFrom_append (hne : separator ≠ []) (h : Clear separator a) (cs : List Char) :
    splitFrom separator 0 (a ++ (separator ++ cs)) = a :: splitFrom separator 0 cs := by
  induction a with
  | nil => exact splitFrom_occurrence hne cs
  | cons c a ih => exact splitFrom_cons (h.not_prefix cs) (ih h.tail)

theorem splitFrom_of_not_infix (h : ¬ separator <:+: cs) : splitFrom separator 0 cs = [cs] := by
  induction cs with
  | nil => rfl
  | cons c cs ih =>
    rw [List.infix_cons_iff, not_or] at h
    exact splitFrom_cons h.1 (ih h.2)

/-- A text with a separator has a first one. -/
theorem exists_cut (hne : separator ≠ []) (h : separator <:+: cs) :
    ∃ a rest, cs = a ++ (separator ++ rest) ∧ Clear separator a := by
  induction cs with
  | nil => exact absurd (List.infix_nil.mp h) hne
  | cons c cs ih =>
    by_cases hhere : separator <+: c :: cs
    · obtain ⟨rest, hrest⟩ := hhere
      exact ⟨[], rest, hrest.symm, clear_nil hne⟩
    · obtain ⟨a, rest, rfl, hclear⟩ := ih ((List.infix_cons_iff.mp h).resolve_left hhere)
      refine ⟨c :: a, rest, rfl, ?_⟩
      intro hoccurs
      rcases List.infix_cons_iff.mp hoccurs with hbegins | hlater
      · exact hhere (hbegins.trans (append_dropLast_prefix_append (c :: a) separator rest))
      · exact hclear hlater

/-- No separator comes before the first one. -/
theorem Clear.length_le (ha : Clear separator a) (h : a ++ (separator ++ cs) = b ++ (separator ++ ds)) :
    a.length ≤ b.length := by
  by_contra hlonger
  apply ha
  have hb : b ++ separator <+: a ++ (separator ++ cs) := by
    rw [h, ← List.append_assoc]
    exact List.prefix_append _ ds
  have hbegins : b ++ separator <+: a ++ separator.dropLast := by
    refine List.prefix_of_prefix_length_le hb (append_dropLast_prefix_append a separator cs) ?_
    rw [List.length_append, List.length_append, List.length_dropLast]
    omega
  exact (List.infix_append' b separator []).trans (by simpa using hbegins.isInfix)

/-- The first piece of a text with a separator is no longer than what stands before any of them. -/
theorem splitFrom_head (hne : separator ≠ []) (b ds : List Char) :
    ∃ a cs, a ++ (separator ++ cs) = b ++ (separator ++ ds) ∧ Clear separator a ∧ a.length ≤ b.length ∧
      splitFrom separator 0 (b ++ (separator ++ ds)) = a :: splitFrom separator 0 cs := by
  obtain ⟨a, cs, h, hclear⟩ := exists_cut hne (List.infix_append' b separator ds)
  exact ⟨a, cs, h.symm, hclear, hclear.length_le h.symm, by rw [h, splitFrom_append hne hclear]⟩

/-- The first piece of a text is how the text begins. -/
theorem splitFrom_prefix (hne : separator ≠ []) (cs : List Char) :
    ∃ piece pieces, splitFrom separator 0 cs = piece :: pieces ∧ piece <+: cs := by
  by_cases h : separator <:+: cs
  · obtain ⟨a, rest, rfl, hclear⟩ := exists_cut hne h
    exact ⟨a, _, splitFrom_append hne hclear rest, List.prefix_append a _⟩
  · exact ⟨cs, [], splitFrom_of_not_infix h, List.prefix_rfl⟩

/-- Where an occurrence of three characters cannot have its middle, it lies on one side. -/
theorem triple_infix {x y z d : Char} (h : y ≠ d) (a b : List Char) :
    [x, y, z] <:+: a ++ d :: b ↔ [x, y, z] <:+: a ++ [d] ∨ [x, y, z] <:+: d :: b := by
  induction a with
  | nil =>
    have hshort : ¬ [x, y, z] <:+: [d] := fun hoccurs => absurd hoccurs.length_le (by simp)
    simp [hshort]
  | cons c a ih =>
    have hhere : [x, y, z] <+: c :: (a ++ d :: b) ↔ [x, y, z] <+: c :: (a ++ [d]) := by
      match a with
      | [] => simp [List.cons_prefix_cons, h]
      | [e] => simp [List.cons_prefix_cons]
      | e :: f :: a => simp [List.cons_prefix_cons]
    rw [List.cons_append, List.cons_append, List.infix_cons_iff, List.infix_cons_iff, ih, hhere, or_assoc]

end

end Passcode.Text
