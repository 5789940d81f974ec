/-
  Passcode.Table — finite tables: at most one value for each key.

  What an operation does is said by `get?`: `get?_insert`, `get?_erase` and `get?_keep`. Of two operations on
  one key only the second counts. A key takes the room of one entry (`size_insert`, `size_erase_lt`).
-/

namespace Passcode

structure Table (κ α : Type) where
  entries : List (κ × α)
  nodup : (entries.map Prod.fst).Nodup

namespace Table

variable {κ α : Type} [DecidableEq κ]

def empty : Table κ α := ⟨[], List.nodup_nil⟩

instance : Inhabited (Table κ α) := ⟨empty⟩

/-- The value of a key. -/
def get? (t : Table κ α) (k : κ) : Option α := (t.entries.find? fun e => e.1 = k).map Prod.snd

/-- How many keys have a value. -/
def size (t : Table κ α) : Nat := t.entries.length

/-- The entries that satisfy `p`. -/
def keep (t : Table κ α) (p : κ → α → Bool) : Table κ α :=
  ⟨t.entries.filter fun e => p e.1 e.2, t.nodup.sublist (List.filter_sublist.map Prod.fst)⟩

/-- The table without a key. -/
def erase (t : Table κ α) (k : κ) : Table κ α := t.keep fun k' _ => k' ≠ k

theorem not_mem_erase (t : Table κ α) (k : κ) : k ∉ (t.erase k).entries.map Prod.fst := by
  simp [erase, keep]

/-- The table with a value for a key, in place of one it had. -/
def insert (t : Table κ α) (k : κ) (a : α) : Table κ α where
  entries := (t.erase k).entries ++ [(k, a)]
  nodup := by
    have := t.not_mem_erase k
    rw [List.map_append, List.nodup_append]
    exact ⟨(t.erase k).nodup, by simp, by intro x hx y hy; simp at hy; rintro rfl; exact this (hy ▸ hx)⟩

@[simp] theorem get?_empty (k : κ) : (empty : Table κ α).get? k = none := rfl

theorem find?_filter_ne (l : List (κ × α)) (k k' : κ) :
    (l.filter fun e => decide (e.1 ≠ k)).find? (fun e => decide (e.1 = k')) =
      if k' = k then none else l.find? fun e => decide (e.1 = k') := by
  induction l with
  | nil => simp
  | cons e l ih =>
    by_cases h : e.1 = k <;> by_cases h' : e.1 = k' <;> by_cases h'' : k' = k <;> simp_all

theorem get?_erase (t : Table κ α) (k k' : κ) :
    (t.erase k).get? k' = if k' = k then none else t.get? k' := by
  have := find?_filter_ne t.entries k k'
  simp only [get?, erase, keep]
  rw [this]
  split <;> simp

theorem get?_insert (t : Table κ α) (k k' : κ) (a : α) :
    (t.insert k a).get? k' = if k' = k then some a else t.get? k' := by
  have := find?_filter_ne t.entries k k'
  simp only [get?, insert, erase, keep, List.find?_append, this]
  by_cases h : k' = k
  · simp [h]
  · simp [h, Ne.symm h]

@[simp] theorem get?_insert_self (t : Table κ α) (k : κ) (a : α) : (t.insert k a).get? k = some a := by
  simp [get?_insert]

omit [DecidableEq κ] in
theorem ext_entries {t t' : Table κ α} (h : t.entries = t'.entries) : t = t' := by
  cases t
  cases t'
  cases h
  rfl

@[simp] theorem erase_erase (t : Table κ α) (k : κ) : (t.erase k).erase k = t.erase k :=
  ext_entries (by simp [erase, keep, List.filter_filter])

/-- To put a value under a key and take it out again takes out what was there. -/
@[simp] theorem erase_insert (t : Table κ α) (k : κ) (a : α) : (t.insert k a).erase k = t.erase k := by
  have hnew : (t.insert k a).erase k = (t.erase k).erase k :=
    ext_entries (by simp [insert, erase, keep, List.filter_append])
  rw [hnew, erase_erase]

@[simp] theorem insert_erase (t : Table κ α) (k : κ) (a : α) : (t.erase k).insert k a = t.insert k a :=
  ext_entries (congrArg (fun r : Table κ α => r.entries ++ [(k, a)]) (t.erase_erase k))

@[simp] theorem insert_insert (t : Table κ α) (k : κ) (a b : α) : (t.insert k a).insert k b = t.insert k b :=
  ext_entries (congrArg (fun r : Table κ α => r.entries ++ [(k, b)]) (t.erase_insert k a))

theorem find?_filter_of_nodup (l : List (κ × α)) (hl : (l.map Prod.fst).Nodup) (p : κ → α → Bool) (k : κ) :
    (l.filter fun e => p e.1 e.2).find? (fun e => decide (e.1 = k)) =
      (l.find? fun e => decide (e.1 = k)).filter fun e => p e.1 e.2 := by
  induction l with
  | nil => simp
  | cons e l ih =>
    simp only [List.map_cons, List.nodup_cons] at hl
    by_cases hk : e.1 = k
    · subst hk
      have absent : (l.find? fun x => decide (x.1 = e.1)) = none := by
        rw [List.find?_eq_none]
        intro x hx hxk
        exact hl.1 (List.mem_map.2 ⟨x, hx, by simpa using hxk⟩)
      by_cases hp : p e.1 e.2 = true
      · simp [hp, Option.filter]
      · simp [hp, ih hl.2, absent, Option.filter]
    · by_cases hp : p e.1 e.2 = true <;> simp [hk, hp, ih hl.2]

theorem get?_keep (t : Table κ α) (p : κ → α → Bool) (k : κ) :
    (t.keep p).get? k = (t.get? k).filter (p k) := by
  simp only [get?, keep, find?_filter_of_nodup t.entries t.nodup p k]
  cases h : t.entries.find? fun e => decide (e.1 = k) with
  | none => rfl
  | some e =>
    have hk : e.1 = k := by simpa using List.find?_some h
    subst hk
    by_cases hp : p e.1 e.2 = true <;> simp [Option.filter, hp]

/-- What is kept is kept as it is. -/
theorem get?_keep_or (t : Table κ α) (p : κ → α → Bool) (k : κ) :
    (t.keep p).get? k = none ∨ (t.keep p).get? k = t.get? k := by
  rw [get?_keep]
  cases t.get? k with
  | none => exact Or.inl rfl
  | some a =>
    by_cases hp : p k a = true
    · exact Or.inr (by simp [Option.filter, hp])
    · exact Or.inl (by simp [Option.filter, hp])

/-- The entries are the keys with their values. -/
theorem mem_entries_iff {t : Table κ α} {k : κ} {a : α} : (k, a) ∈ t.entries ↔ t.get? k = some a := by
  obtain ⟨l, hl⟩ := t
  simp only [get?]
  induction l with
  | nil => simp
  | cons e l ih =>
    simp only [List.map_cons, List.nodup_cons] at hl
    by_cases hk : e.1 = k
    · have absent : (k, a) ∉ l := fun hm => hl.1 (List.mem_map.2 ⟨(k, a), hm, hk.symm⟩)
      simp [hk, absent, Prod.ext_iff, eq_comm]
    · have other : (k, a) ≠ e := fun h => hk (h ▸ rfl)
      simp [hk, other, ih hl.2]

/-! ## Sizes -/

omit [DecidableEq κ] in
theorem size_keep_le (t : Table κ α) (p : κ → α → Bool) : (t.keep p).size ≤ t.size := List.length_filter_le ..

/-- To keep some entries only makes a table smaller. -/
theorem size_keep_lt {t : Table κ α} {p : κ → α → Bool} {k : κ} {a : α} (h : t.get? k = some a)
    (hp : p k a = false) : (t.keep p).size < t.size :=
  List.length_filter_lt_length_iff_exists.2 ⟨(k, a), mem_entries_iff.2 h, by simp [hp]⟩

theorem size_erase_le (t : Table κ α) (k : κ) : (t.erase k).size ≤ t.size := size_keep_le ..

theorem size_erase_lt {t : Table κ α} {k : κ} (h : (t.get? k).isSome) : (t.erase k).size < t.size := by
  obtain ⟨a, ha⟩ := Option.isSome_iff_exists.1 h
  exact size_keep_lt ha (by simp)

theorem size_insert (t : Table κ α) (k : κ) (a : α) : (t.insert k a).size = (t.erase k).size + 1 :=
  List.length_append ..

/-- A value in place of another takes no room. -/
theorem size_insert_le_of_isSome {t : Table κ α} {k : κ} (h : (t.get? k).isSome) (a : α) :
    (t.insert k a).size ≤ t.size := by
  rw [size_insert]
  exact size_erase_lt h

theorem size_insert_le (t : Table κ α) (k : κ) (a : α) : (t.insert k a).size ≤ t.size + 1 := by
  rw [size_insert]
  exact Nat.succ_le_succ (t.size_erase_le k)

end Table

end Passcode
