/-
  Passcode.Proofs.Code.Eviction — a book of codes makes no more room than it has to.

  A book holds codes for any scopes and recipients, and no more of them than its capacity. A code that
  replaces another needs no room. For one that does, in a full book, the codes that have expired go; and if
  none has, one code goes that no other expires before. So no live code is lost while an expired one is
  held, and never more than one.

  Proved: the ways in which room is made (`makeRoom_cases`), as long as the book is not overfull; it never
  is, and every accepted code takes its place in one of these ways, while a refused one changes nothing
  (`eviction_minimal`).
-/

import Passcode.Proofs.Code.Book

namespace Passcode.CodeBook

/-! ## Books in use -/

/-- The books that calls lead to, for any scopes and recipients and at instants that never go back, and
    the instant of the last call. -/
inductive Reached (policy : Policy) : Nat → CodeBook → Prop where
  | fresh : Reached policy 0 {}
  | stored {t u : Nat} {b : CodeBook} (h : Reached policy t b) (later : t ≤ u) (scope recipient code : String) :
    Reached policy u (((asStore policy).store scope recipient code).run u b).state
  | verified {t u : Nat} {b : CodeBook} (h : Reached policy t b) (later : t ≤ u) (scope recipient input : String) :
    Reached policy u (((asStore policy).verify scope recipient input).run u b).state

/-- A book holds a code under a key that is over at an instant. -/
def Expired (t : Nat) (b : CodeBook) (key : String) : Prop :=
  ∃ e, b.entries.get? key = some e ∧ e.expiresAt ≤ t

/-- One book holds a code under a key, and the next holds none. -/
def Lost (b b' : CodeBook) (key : String) : Prop :=
  b.entries.get? key ≠ none ∧ b'.entries.get? key = none

/-- What an accepted code makes of a book. -/
structure Accepted (policy : Policy) (t : Nat) (key code : String) (b b' : CodeBook) : Prop where
  stored : b'.entries.get? key = some ⟨⟨code, policy.maxAttempts⟩, t + policy.lifetime⟩
  kept : ∀ k, k ≠ key → ¬ Lost b b' k → b'.entries.get? k = b.entries.get? k
  spared : b.entries.get? key ≠ none ∨ b.size < policy.capacity → ∀ k, ¬ Lost b b' k
  /-- A full book drops what has expired, -/
  purged : b.entries.get? key = none → policy.capacity ≤ b.size → (∃ k, Expired t b k) →
    ∀ k, Lost b b' k ↔ Expired t b k
  /-- and when nothing has, one of the codes that expire first. -/
  dropped : b.entries.get? key = none → policy.capacity ≤ b.size → (∀ k, ¬ Expired t b k) →
    ∃ first e, b.entries.get? first = some e ∧ (∀ k, Lost b b' k ↔ k = first) ∧
      ∀ k e', b.entries.get? k = some e' → e.expiresAt ≤ e'.expiresAt

/-! ## Making room -/

theorem firstToExpire?_eq_none_iff {l : List (String × CodeEntry)} : firstToExpire? l = none ↔ l = [] := by
  cases l with
  | nil => exact ⟨fun _ => rfl, fun _ => rfl⟩
  | cons a rest =>
    refine ⟨fun h => ?_, nofun⟩
    unfold firstToExpire? at h
    split at h
    · split at h <;> cases h
    · cases h

/-- The entry that is taken to expire first is one of the entries, and none of them expires before it. -/
theorem firstToExpire?_earliest {l : List (String × CodeEntry)} {e : String × CodeEntry}
    (h : firstToExpire? l = some e) : e ∈ l ∧ ∀ f ∈ l, e.2.expiresAt ≤ f.2.expiresAt := by
  induction l generalizing e with
  | nil => cases h
  | cons a rest ih =>
    unfold firstToExpire? at h
    cases hrest : firstToExpire? rest with
    | none =>
      rw [hrest] at h
      cases h
      rw [firstToExpire?_eq_none_iff.mp hrest]
      exact ⟨List.mem_singleton.mpr rfl, by simp⟩
    | some f =>
      obtain ⟨hf, hleast⟩ := ih hrest
      rw [hrest] at h
      dsimp only at h
      split at h
      · next hlt =>
        cases h
        exact ⟨List.mem_cons_of_mem _ hf, List.forall_mem_cons.mpr ⟨Nat.le_of_lt hlt, hleast⟩⟩
      · next hge =>
        cases h
        refine ⟨List.mem_cons_self .., List.forall_mem_cons.mpr ⟨Nat.le_refl _, fun g hg => ?_⟩⟩
        exact Nat.le_trans (Nat.le_of_not_lt hge) (hleast g hg)

/-- How room is made for a key. -/
inductive MadeRoom (policy : Policy) (now : Nat) (key : String) (b : CodeBook) : CodeBook → Prop where
  | spared (fits : b.entries.get? key ≠ none ∨ b.size < policy.capacity) : MadeRoom policy now key b b
  | purged (absent : b.entries.get? key = none) (full : policy.capacity ≤ b.size) (lapsed : ∃ k, Expired now b k) :
    MadeRoom policy now key b ⟨b.entries.keep fun _ e => now < e.expiresAt⟩
  | dropped (absent : b.entries.get? key = none) (full : policy.capacity ≤ b.size) (live : ∀ k, ¬ Expired now b k)
      {first : String} {e : CodeEntry} (held : b.entries.get? first = some e)
      (earliest : ∀ k e', b.entries.get? k = some e' → e.expiresAt ≤ e'.expiresAt) :
    MadeRoom policy now key b ⟨b.entries.erase first⟩

section
variable {policy : Policy} {now : Nat} {key : String} {b b' : CodeBook}

theorem makeRoom_cases (hpos : 0 < policy.capacity) (hsize : b.size ≤ policy.capacity) (now : Nat) (key : String) :
    MadeRoom policy now key b ⟨makeRoom policy now key b.entries⟩ := by
  have hsize' : b.entries.size ≤ policy.capacity := hsize
  unfold makeRoom
  split
  · next hfits =>
    exact .spared (hfits.imp_left Option.isSome_iff_ne_none.mp)
  · next hfull =>
    rw [not_or, Option.not_isSome_iff_eq_none, Nat.not_lt] at hfull
    obtain ⟨habsent, hfull⟩ := hfull
    by_cases hlapsed : ∃ k, Expired now b k
    · -- what expired has left room already
      obtain ⟨k, e, hk, he⟩ := hlapsed
      have hless : (b.entries.keep fun _ e => now < e.expiresAt).size < b.entries.size :=
        Table.size_keep_lt hk (by simpa using he)
      have hnone : (b.entries.keep fun _ e => now < e.expiresAt).size + 1 - policy.capacity = 0 := by omega
      dsimp only
      rw [hnone]
      exact .purged habsent hfull ⟨k, e, hk, he⟩
    · have hlive : ∀ k, ¬ Expired now b k := fun k hk => hlapsed ⟨k, hk⟩
      have hall : (b.entries.keep fun _ e => now < e.expiresAt) = b.entries := by
        refine Table.ext_entries (List.filter_eq_self.mpr fun p hp => ?_)
        refine decide_eq_true (Nat.lt_of_not_le fun hle => hlive p.1 ⟨p.2, Table.mem_entries_iff.mp hp, hle⟩)
      have hone : b.entries.size + 1 - policy.capacity = 1 := by omega
      have hne : b.entries.entries ≠ [] := by
        rw [← List.length_pos_iff]
        exact Nat.lt_of_lt_of_le hpos hfull
      obtain ⟨first, hfirst⟩ := Option.ne_none_iff_exists'.mp (mt firstToExpire?_eq_none_iff.mp hne)
      obtain ⟨hmem, hleast⟩ := firstToExpire?_earliest hfirst
      dsimp only
      rw [hall, hone]
      simp only [evict, hfirst]
      refine .dropped habsent hfull hlive (Table.mem_entries_iff.mp hmem) fun k e' hk => ?_
      exact hleast (k, e') (Table.mem_entries_iff.mpr hk)

/-- Once room is made, a code under the key fits. -/
theorem MadeRoom.size_insert_le (h : MadeRoom policy now key b b') (hsize : b.size ≤ policy.capacity)
    (entry : CodeEntry) : (b'.entries.insert key entry).size ≤ policy.capacity := by
  cases h with
  | spared fits =>
    rcases fits with held | room
    · exact Nat.le_trans (Table.size_insert_le_of_isSome (Option.isSome_iff_ne_none.mpr held) entry) hsize
    · exact Nat.le_trans (Table.size_insert_le ..) room
  | purged _ _ lapsed =>
    obtain ⟨k, e, hk, he⟩ := lapsed
    have hless : (b.entries.keep fun _ e => now < e.expiresAt).size < b.entries.size :=
      Table.size_keep_lt hk (by simpa using he)
    exact Nat.le_trans (Table.size_insert_le ..) (Nat.le_trans hless hsize)
  | dropped _ _ _ held =>
    have hless := Table.size_erase_lt (Option.isSome_iff_exists.mpr ⟨_, held⟩)
    exact Nat.le_trans (Table.size_insert_le ..) (Nat.le_trans hless hsize)

/-- Making room drops entries, and changes none. -/
theorem MadeRoom.kept (h : MadeRoom policy now key b b') (k : String) :
    b'.entries.get? k = none ∨ b'.entries.get? k = b.entries.get? k := by
  cases h with
  | spared => exact Or.inr rfl
  | purged => exact Table.get?_keep_or ..
  | dropped => exact Table.get?_keep_or ..

/-! ## What is lost -/

/-- A code that is put into a book is not lost, and does not touch the others. -/
theorem lost_insert_iff {entry : CodeEntry} {k : String} :
    Lost b ⟨b'.entries.insert key entry⟩ k ↔ k ≠ key ∧ Lost b b' k := by
  unfold Lost
  rw [Table.get?_insert]
  by_cases hk : k = key
  · simp [hk]
  · simp [hk]

theorem not_lost_self (b : CodeBook) (k : String) : ¬ Lost b b k := fun h => h.1 h.2

/-- To keep what is live is to lose what has expired. -/
theorem lost_keep_iff {k : String} :
    Lost b ⟨b.entries.keep fun _ e => now < e.expiresAt⟩ k ↔ Expired now b k := by
  unfold Lost Expired
  rw [Table.get?_keep]
  cases b.entries.get? k with
  | none => simp
  | some e => simp [Option.filter]

theorem lost_erase_iff {first k : String} (held : b.entries.get? first ≠ none) :
    Lost b ⟨b.entries.erase first⟩ k ↔ k = first := by
  unfold Lost
  rw [Table.get?_erase]
  by_cases hk : k = first
  · simp [hk, held]
  · simp [hk]

/-- A code that is put where room was made takes its place as it should. -/
theorem MadeRoom.accepted (h : MadeRoom policy now key b b') (code : String) :
    Accepted policy now key code b ⟨b'.entries.insert key ⟨⟨code, policy.maxAttempts⟩, now + policy.lifetime⟩⟩ where
  stored := Table.get?_insert_self ..
  kept k hk hthere := by
    have hsame : (b'.entries.insert key ⟨⟨code, policy.maxAttempts⟩, now + policy.lifetime⟩).get? k =
        b'.entries.get? k := (Table.get?_insert ..).trans (if_neg hk)
    refine hsame.trans ?_
    rcases h.kept k with hgone | hkept
    · rw [hgone]
      by_contra hheld
      exact hthere (lost_insert_iff.mpr ⟨hk, Ne.symm hheld, hgone⟩)
    · exact hkept
  spared fits k hlost := by
    obtain ⟨-, hlost⟩ := lost_insert_iff.mp hlost
    cases h with
    | spared => exact not_lost_self b k hlost
    | purged absent full | dropped absent full =>
      rcases fits with held | room
      · exact held absent
      · omega
  purged absent full lapsed k := by
    rw [lost_insert_iff]
    cases h with
    | spared fits =>
      rcases fits with held | room
      · exact absurd absent held
      · omega
    | purged =>
      rw [lost_keep_iff]
      refine and_iff_right_of_imp ?_
      rintro ⟨e, he, -⟩ rfl
      rw [absent] at he
      cases he
    | dropped _ _ live =>
      obtain ⟨k', hk'⟩ := lapsed
      exact absurd hk' (live k')
  dropped absent full live := by
    cases h with
    | spared fits =>
      rcases fits with held | room
      · exact absurd absent held
      · omega
    | purged _ _ lapsed =>
      obtain ⟨k', hk'⟩ := lapsed
      exact absurd hk' (live k')
    | @dropped _ _ _ first e held earliest =>
      refine ⟨first, e, held, fun k => ?_, earliest⟩
      rw [lost_insert_iff, lost_erase_iff (by rw [held]; exact Option.some_ne_none _)]
      refine and_iff_right_of_imp ?_
      rintro rfl rfl
      rw [absent] at held
      cases held

end

/-! ## Calls -/

section
variable {policy : Policy} {b : CodeBook}

/-- A store is refused and changes nothing, or room is made for its code. -/
theorem store_cases (hpos : 0 < policy.capacity) (hsize : b.size ≤ policy.capacity) (now : Nat) (key code : String) :
    b.store policy now key code = (.error .tooFrequent, b) ∨
      ∃ b', MadeRoom policy now key b b' ∧ b.store policy now key code =
        (.ok (), ⟨b'.entries.insert key ⟨⟨code, policy.maxAttempts⟩, now + policy.lifetime⟩⟩) := by
  unfold store
  split
  · exact Or.inl rfl
  · exact Or.inr ⟨_, makeRoom_cases hpos hsize now key, rfl⟩

theorem size_store_le (hpos : 0 < policy.capacity) (hsize : b.size ≤ policy.capacity) (now : Nat) (key code : String) :
    (b.store policy now key code).2.size ≤ policy.capacity := by
  obtain hrefused | ⟨b', hroom, haccepted⟩ := store_cases hpos hsize now key code
  · rw [hrefused]
    exact hsize
  · rw [haccepted]
    exact hroom.size_insert_le hsize _

/-- A verify never adds a code. -/
theorem size_verify_le (now : Nat) (key input : String) (b : CodeBook) : (b.verify now key input).2.size ≤ b.size := by
  unfold verify
  split
  · exact Nat.le_refl _
  · next e he =>
    split
    · exact Table.size_erase_le ..
    · split
      · exact Nat.le_refl _
      · exact Table.size_erase_le ..
      · exact Table.size_insert_le_of_isSome (Option.isSome_iff_exists.mpr ⟨e, he⟩) _

theorem Reached.size_le {t : Nat} (h : Reached policy t b) (hpos : 0 < policy.capacity) :
    b.size ≤ policy.capacity := by
  induction h with
  | fresh => exact Nat.zero_le _
  | @stored _ u _ _ _ scope recipient code ih => exact size_store_le hpos ih u (codeKey scope recipient) code
  | @verified _ u b _ _ scope recipient input ih =>
    exact Nat.le_trans (size_verify_le u (codeKey scope recipient) input b) ih

end

/-- For every policy and every book that stores and verifies lead to, at times that never go back: the book holds
    no more codes than its capacity, and at least one has room; an accepted code takes its place with no
    eviction where it can, at the cost of what has expired if there is such, and else of one code that
    expires first; a refused one changes nothing. -/
theorem eviction_minimal (c : CodeSettings) {t : Nat} {b : CodeBook} (h : Reached (.ofSettings c) t b) :
    b.size ≤ max c.memoryCapacity.toNat 1 ∧ ∀ u, t ≤ u → ∀ scope recipient code,
      let r := ((asStore (.ofSettings c)).store scope recipient code).run u b
      (r.value = .ok () → Accepted (.ofSettings c) u (codeKey scope recipient) code b r.state) ∧
        (r.value ≠ .ok () → r.state = b) := by
  have hpos : 0 < (Policy.ofSettings c).capacity := Nat.lt_of_lt_of_le Nat.zero_lt_one (Nat.le_max_right ..)
  have hsize := h.size_le hpos
  refine ⟨hsize, fun u _ scope recipient code => ?_⟩
  show ((b.store (.ofSettings c) u (codeKey scope recipient) code).1 = .ok () →
      Accepted (.ofSettings c) u (codeKey scope recipient) code b
        (b.store (.ofSettings c) u (codeKey scope recipient) code).2) ∧
    ((b.store (.ofSettings c) u (codeKey scope recipient) code).1 ≠ .ok () →
      (b.store (.ofSettings c) u (codeKey scope recipient) code).2 = b)
  obtain hrefused | ⟨b', hroom, haccepted⟩ := store_cases hpos hsize u (codeKey scope recipient) code
  · rw [hrefused]
    exact ⟨nofun, fun _ => rfl⟩
  · rw [haccepted]
    exact ⟨fun _ => hroom.accepted code, fun hne => absurd rfl hne⟩

/-! ### A full book -/

def roomForTwo : CodeSettings := { memoryCapacity := 2 }

/-- Two codes that live, the first of which was put in a second earlier. -/
def fullBook : CodeBook :=
  let first := ((asStore (.ofSettings roomForTwo)).store "login" "+15550001" "111111").run 0 {}
  (((asStore (.ofSettings roomForTwo)).store "login" "+15550002" "222222").run 1000 first.state).state

theorem fullBook_reached : Reached (.ofSettings roomForTwo) 1000 fullBook :=
  .stored (.stored .fresh (Nat.zero_le 0) ..) (Nat.zero_le 1000) ..

/-- A third code costs the first one. -/
theorem eviction_minimal_sample : Reached (.ofSettings roomForTwo) 1000 fullBook ∧
    let r := ((asStore (.ofSettings roomForTwo)).store "login" "+15550003" "333333").run 2000 fullBook
    Accepted (.ofSettings roomForTwo) 2000 (codeKey "login" "+15550003") "333333" fullBook r.state ∧
      Lost fullBook r.state (codeKey "login" "+15550001") ∧ r.state.size = 2 := by
  refine ⟨fullBook_reached, ?_, ⟨by decide +kernel, by decide +kernel⟩, by decide +kernel⟩
  obtain ⟨-, hstores⟩ := eviction_minimal roomForTwo fullBook_reached
  exact (hstores 2000 (by decide) "login" "+15550003" "333333").1 (by decide +kernel)

end Passcode.CodeBook
