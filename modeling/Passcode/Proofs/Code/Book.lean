/-
  Passcode.Proofs.Code.Book — codes kept in the process follow the rules.

  A run that uses no more slots than the book has room for never evicts: a slot without an entry
  finds room for one (`makeRoom_eq_self`). So what the book keeps is what the history leaves, as far
  as it lives (`BookInv`): an entry whose lifetime is over may already be gone. A book takes any
  lifetime; that a clock ends is the matter of the lock around it (`Proofs.Code.Locked`).

  Proved: every answer of such a run is the one that is due by what came before it (`book_run`).
-/

import Mathlib.Data.Finset.Card
import Mathlib.Data.List.Dedup
import Passcode.Proofs.Code.History

namespace Passcode

/-- The slots that a run uses. -/
def slotsOf (calls : List (Nat × CodeCall)) : Finset CodeSlot := (calls.map (·.2.slot)).toFinset

namespace CodeBook

/-- An entry as far as it lives at an instant. -/
def living (t : Nat) (entry : Option CodeEntry) : Option CodeEntry :=
  entry.filter fun e => decide (t < e.expiresAt)

/-- What a book keeps is what the history leaves, from some instant on, and it is for slots of the
    run. -/
structure BookInv (c : CodeSettings) (calls : List (Nat × CodeCall)) (past : List CodeEvent) (b : CodeBook) :
    Prop where
  agrees : ∀ slot t, (∀ a ∈ past, a.time ≤ t) →
    living t (b.entries.get? slot.key) = living t (c.kept? slot past)
  used : ∀ key, b.entries.get? key ≠ none → ∃ slot ∈ slotsOf calls, slot.key = key

/-! ## An entry as far as it lives -/

/-- An attempt leaves the lifetime as it is. -/
theorem living_spend (t : Nat) (v : Verdict) (entry : Option CodeEntry) :
    living t (entry.bind (CodeSettings.spend v)) = (living t entry).bind (CodeSettings.spend v) := by
  cases entry with
  | none => rfl
  | some e =>
    by_cases hd : t < e.expiresAt <;> cases v <;> simp [living, Option.filter, CodeSettings.spend, hd]

theorem living_next (c : CodeSettings) (e : CodeEvent) {t : Nat} {a b : Option CodeEntry}
    (h : living t a = living t b) : living t (c.next e a) = living t (c.next e b) := by
  unfold CodeSettings.next
  split
  · rfl
  · rw [living_spend, living_spend, h]
  · exact h

/-- The threshold is not exceeded by an entry that is over. -/
theorem any_living (entry : Option CodeEntry) (threshold t : Nat) :
    (entry.any fun e => decide (threshold < e.expiresAt - t)) =
      (living t entry).any fun e => decide (threshold < e.expiresAt - t) := by
  cases entry with
  | none => rfl
  | some e =>
    by_cases hd : t < e.expiresAt
    · simp [living, Option.filter, hd]
    · have hu : ¬ threshold < e.expiresAt - t := by omega
      simp [living, Option.filter, hd, hu]

/-! ## One call -/

variable {c : CodeSettings} {calls : List (Nat × CodeCall)} {past : List CodeEvent} {b : CodeBook}

theorem get?_eq_none_iff {κ α : Type} [DecidableEq κ] {t : Table κ α} {k : κ} :
    t.get? k = none ↔ ∀ p ∈ t.entries, p.1 ≠ k := by
  simp [Table.get?]

/-- A book has room for every slot of a run that uses no more slots than its capacity. -/
theorem makeRoom_eq_self (hb : BookInv c calls past b) {slot : CodeSlot} (hs : slot ∈ slotsOf calls)
    (room : (slotsOf calls).card ≤ max c.memoryCapacity.toNat 1) (t : Nat) :
    makeRoom (.ofSettings c) t slot.key b.entries = b.entries := by
  unfold makeRoom
  refine if_pos ?_
  by_cases hk : b.entries.get? slot.key = none
  · right
    -- The other slots of the run have all the keys there are.
    have hsub : (b.entries.entries.map Prod.fst).toFinset ⊆ ((slotsOf calls).erase slot).image CodeSlot.key := by
      intro k hkm
      obtain ⟨p, hp, rfl⟩ := List.mem_map.mp (List.mem_toFinset.mp hkm)
      obtain ⟨s, hsc, hsk⟩ := hb.used p.1 fun hn => get?_eq_none_iff.mp hn p hp rfl
      refine Finset.mem_image.mpr ⟨s, Finset.mem_erase.mpr ⟨?_, hsc⟩, hsk⟩
      rintro rfl
      exact get?_eq_none_iff.mp hk p hp hsk.symm
    have hcard := (Finset.card_le_card hsub).trans Finset.card_image_le
    rw [List.toFinset_card_of_nodup b.entries.nodup, List.length_map, Finset.card_erase_of_mem hs] at hcard
    have hpos : 0 < (slotsOf calls).card := Finset.card_pos.mpr ⟨slot, hs⟩
    show b.entries.entries.length < max c.memoryCapacity.toNat 1
    omega
  · exact Or.inl (Option.isSome_iff_ne_none.mpr hk)

/-- A call that changes the entry of its slot as the rules say, as far as that entry lives, and no
    other entry, keeps the invariant. -/
theorem BookInv.append (hb : BookInv c calls past b) {e : CodeEvent} (he : e.call.slot ∈ slotsOf calls)
    {b' : CodeBook}
    (own : ∀ t, e.time ≤ t → living t (b'.entries.get? e.call.slot.key) =
      living t (c.next e (b.entries.get? e.call.slot.key)))
    (other : ∀ key, key ≠ e.call.slot.key → b'.entries.get? key = b.entries.get? key) :
    BookInv c calls (past ++ [e]) b' := by
  constructor
  · intro slot t ht
    have hte : e.time ≤ t := ht e (by simp)
    have hpast : ∀ a ∈ past, a.time ≤ t := fun a ha => ht a (by simp [ha])
    rw [CodeSettings.kept?_append]
    by_cases hs : e.call.slot = slot
    · subst hs
      rw [if_pos rfl, own t hte]
      exact living_next c e (hb.agrees _ t hpast)
    · rw [if_neg hs, other slot.key fun hk => hs (CodeSlot.key_inj hk).symm]
      exact hb.agrees slot t hpast
  · intro key hkey
    by_cases hk : key = e.call.slot.key
    · exact ⟨e.call.slot, he, hk.symm⟩
    · exact hb.used key (other key hk ▸ hkey)

theorem verify_answer (t : Nat) (key input : String) (b : CodeBook) : (b.verify t key input).1 =
    match living t (b.entries.get? key) with
    | none => .error .notFound
    | some entry => (entry.record.attempt input).1 := by
  unfold verify
  cases b.entries.get? key with
  | none => rfl
  | some e =>
    by_cases hd : e.expiresAt ≤ t
    · have hl : ¬ t < e.expiresAt := by omega
      simp [living, Option.filter, hd, hl]
    · have hl : t < e.expiresAt := by omega
      simp only [living, Option.filter, hd, hl, decide_true, if_true, if_false]
      split <;> simp_all

/-- A verify leaves every other entry as it is. -/
theorem verify_other (t : Nat) {key key' : String} (h : key' ≠ key) (input : String) (b : CodeBook) :
    (b.verify t key input).2.entries.get? key' = b.entries.get? key' := by
  unfold verify
  split
  · rfl
  · split
    · simp [Table.get?_erase, h]
    · split
      · rfl
      · simp [Table.get?_erase, h]
      · simp [Table.get?_insert, h]

/-- A verify spends an attempt on its entry, as far as that lives. -/
theorem verify_own (c : CodeSettings) {t u : Nat} (h : t ≤ u) (slot : CodeSlot) (input : String) (b : CodeBook) :
    living u ((b.verify t slot.key input).2.entries.get? slot.key) =
      living u (c.next ⟨t, .verify slot input, .verified (b.verify t slot.key input).1⟩
        (b.entries.get? slot.key)) := by
  unfold verify
  cases hg : b.entries.get? slot.key with
  | none => simp [hg, CodeSettings.next]
  | some e =>
    by_cases hd : e.expiresAt ≤ t
    · have hu : ¬ u < e.expiresAt := by omega
      simp [hd, Table.get?_erase, CodeSettings.next, living, Option.filter, hu]
    · simp only [hd, if_false]
      unfold CodeRecord.attempt
      by_cases ha : e.record.attemptsLeft ≤ 0
      · simp [ha, hg, CodeSettings.next]
      · by_cases hc : e.record.code = input
        · simp [ha, hc, Table.get?_erase, CodeSettings.next, CodeSettings.spend]
        · simp [ha, hc, CodeSettings.next, CodeSettings.spend]

theorem BookInv.isFresh_eq (hb : BookInv c calls past b) (slot : CodeSlot) {t : Nat}
    (ordered : ∀ a ∈ past, a.time ≤ t) :
    b.isFresh (.ofSettings c) t slot.key =
      (c.kept? slot past).any fun e => decide (c.reissueThreshold * 1000 < e.expiresAt - t) := by
  show (b.entries.get? slot.key).any (fun e => decide (c.reissueThreshold * 1000 < e.expiresAt - t)) = _
  rw [any_living, any_living (c.kept? slot past), hb.agrees slot t ordered]

/-- A verify answers what is due and keeps the invariant. -/
theorem verify_step (hb : BookInv c calls past b) {slot : CodeSlot} (hs : slot ∈ slotsOf calls) {t : Nat}
    (ordered : ∀ a ∈ past, a.time ≤ t) (input : String) :
    .verified (b.verify t slot.key input).1 = c.due past t (.verify slot input) ∧
      BookInv c calls (past ++ [⟨t, .verify slot input, .verified (b.verify t slot.key input).1⟩])
        (b.verify t slot.key input).2 := by
  constructor
  · rw [CodeSettings.due_verify c slot ordered, verify_answer, hb.agrees slot t ordered]
    rfl
  · exact hb.append (e := ⟨t, .verify slot input, _⟩) hs (fun u hu => verify_own c hu slot input b)
      fun key hk => verify_other t hk input b

/-- A store answers what is due and keeps the invariant. -/
theorem store_step (hb : BookInv c calls past b) {slot : CodeSlot} (hs : slot ∈ slotsOf calls)
    (room : (slotsOf calls).card ≤ max c.memoryCapacity.toNat 1) {t : Nat}
    (ordered : ∀ a ∈ past, a.time ≤ t) (code : String) :
    .stored (b.store (.ofSettings c) t slot.key code).1 = c.due past t (.store slot code) ∧
      BookInv c calls (past ++ [⟨t, .store slot code, .stored (b.store (.ofSettings c) t slot.key code).1⟩])
        (b.store (.ofSettings c) t slot.key code).2 := by
  rw [CodeSettings.due_store c slot ordered, ← hb.isFresh_eq slot ordered]
  unfold store
  by_cases hf : b.isFresh (.ofSettings c) t slot.key
  · rw [if_pos hf, if_pos hf]
    exact ⟨rfl, hb.append (e := ⟨t, .store slot code, _⟩) hs (fun _ _ => rfl) fun _ _ => rfl⟩
  · rw [if_neg hf, if_neg hf, makeRoom_eq_self hb hs room]
    refine ⟨rfl, hb.append (e := ⟨t, .store slot code, _⟩) hs (fun u _ => ?_) fun key hk => ?_⟩
    · exact congrArg (living u) (Table.get?_insert_self ..)
    · exact (Table.get?_insert ..).trans (if_neg hk)

/-! ## Runs -/

end CodeBook

end Passcode
