/-
  Passcode.Proofs.Limit.Shared — the window that is kept in a shared keyspace is the one that is kept in
  the process.

  The keyspace holds a set for each key, with a member for each counted call, scored with its instant by
  the server's clock. A call removes the members that the window has left, an inclusive bound on the
  score just as the age of the window is outside of it. The key expires when the window has left the last
  counted call; so an expired key holds no member within the window, and a refused call, which leaves
  the expiry as it is, loses none (`Tally`). A window of no length is deleted as soon as it is written.

  Scores are exact up to 2^53, and the server's clock is taken to stay within that.

  Proved: what the window script replies and leaves behind (`window_refused`, `window_counted`); every
  call is answered as the rule says (`shared_follows`), hence as by a log with the same settings
  (`limiters_agree`).
-/

import Passcode.Entropy
import Passcode.Proofs.Keyspace.Codes
import Passcode.Proofs.Limit.Window
import Passcode.Proofs.Task

namespace Passcode

theorem Table.entries_insert {κ α : Type} [DecidableEq κ] {t : Table κ α} {k : κ}
    (h : k ∉ t.entries.map Prod.fst) (a : α) : (t.insert k a).entries = t.entries ++ [(k, a)] := by
  have hall : ∀ p ∈ t.entries, decide (p.1 ≠ k) = true := by
    intro p hp
    exact decide_eq_true fun hk => h (List.mem_map.mpr ⟨p, hp, hk⟩)
  simp only [Table.insert, Table.erase, Table.keep, List.filter_eq_self.mpr hall]

namespace Keyspace

/-! ## The script -/

section Script

variable (now : Int) (key member : String) (window threshold : Nat) (k : Keyspace)

theorem expiryOf_live : ∀ e ∈ k.expiryOf now key, now ≤ e := by
  intro e he
  obtain ⟨h, hg, hexpires⟩ := Option.bind_eq_some_iff.mp he
  exact of_decide_eq_true (Option.filter_eq_some_iff.mp hg).2 e hexpires

theorem members?_put {members : Table String Int} {expiry : Option Int} (hl : ∀ e ∈ expiry, now ≤ e) :
    (k.put key ⟨.scored members, expiry⟩).members? now key = .ok members := by
  have hl : Live now ⟨.scored members, expiry⟩ := hl
  simp [members?, get?_put, hl]

/-- What was put is there. -/
theorem members?_putMembers (members : Table String Int) :
    (k.putMembers now key members).members? now key = .ok members := by
  obtain ⟨entries, hnodup⟩ := members
  cases entries with
  | nil => simp [putMembers, members?, get?_delete, Table.empty]
  | cons m entries => exact members?_put now key k (expiryOf_live now key k)

/-- What a key holds for a set: nothing when that has no members. -/
def holdingOf (members : Table String Int) (expiry : Option Int) : Option Holding :=
  if members.entries.isEmpty then none else some ⟨.scored members, expiry⟩

theorem holdings_putMembers (members : Table String Int) (key' : String) :
    (k.putMembers now key members).holdings.get? key' =
      if key' = key then holdingOf members (k.expiryOf now key) else k.holdings.get? key' := by
  unfold putMembers holdingOf
  by_cases he : members.entries.isEmpty = true
  · simp only [he, if_true, holdings_delete, Table.get?_erase]
  · simp only [he, Bool.false_eq_true, if_false, holdings_put, Table.get?_insert]

theorem onlyAt_putMembers (members : Table String Int) : OnlyAt key k (k.putMembers now key members) := by
  intro key' hne
  rw [holdings_putMembers, if_neg hne]

/-- The members that the window has not left. -/
def withinWindow (members : Table String Int) : Table String Int :=
  members.keep fun _ score => decide (now - window < score)

variable {k} {members : Table String Int} (hm : k.members? now key = .ok members)
include hm

theorem trim_eq : k.trim now key (now - window) = .ok (k.putMembers now key (withinWindow now window members)) := by
  simp only [trim, hm, bind, Except.bind, pure, Except.pure]
  rfl

theorem addMember_eq (score : Int) : k.addMember now key member score =
    .ok (k.put key ⟨.scored (members.insert member score), k.expiryOf now key⟩) := by
  have hsome : ¬ (members.insert member score).entries.isEmpty = true := by simp [Table.insert]
  simp only [addMember, hm, bind, Except.bind, pure, Except.pure, putMembers, hsome, Bool.false_eq_true, if_false]

/-- A call that finds the window full only trims the set. -/
theorem window_refused (hfull : threshold ≤ (withinWindow now window members).size) :
    windowScript now key window threshold member k =
      (.ok 1, k.putMembers now key (withinWindow now window members)) := by
  have hkept := members?_putMembers now key k (withinWindow now window members)
  simp only [windowScript, Script.run_bind, Script.attempt, Script.run_ask, trim_eq now key window hm, hkept, hfull,
    ge_iff_le, if_true, Script.run_return]

/-- A call that finds room adds its member to the trimmed set, which then lasts as long as the window. -/
theorem window_counted (hroom : ¬ threshold ≤ (withinWindow now window members).size) (hn : 0 ≤ now)
    (hr : now + window ≤ lastInstant) : ∃ k',
      windowScript now key window threshold member k = (.ok 0, k') ∧
      OnlyAt key k k' ∧
      k'.holdings.get? key = if window = 0 then none
        else some ⟨.scored ((withinWindow now window members).insert member now), some (now + window)⟩ := by
  have htrim := trim_eq now key window hm
  have hkept := members?_putMembers now key k (withinWindow now window members)
  have hother := onlyAt_putMembers now key k (withinWindow now window members)
  generalize k.putMembers now key (withinWindow now window members) = trimmed at htrim hkept hother
  have hlive : Live now ⟨.scored ((withinWindow now window members).insert member now), trimmed.expiryOf now key⟩ :=
    expiryOf_live now key trimmed
  have hrun : ∀ k', (trimmed.put key ⟨.scored ((withinWindow now window members).insert member now),
      trimmed.expiryOf now key⟩).expire now key window = .ok k' →
        windowScript now key window threshold member k = (.ok 0, k') := by
    intro k' he
    simp only [windowScript, Script.run_bind, Script.attempt, Script.run_ask, htrim, hkept, ge_iff_le, hroom, if_false,
      addMember_eq now key member hkept, he, Script.run_return]
  have hrange : ¬ (lastInstant < (window : Int).natAbs ∨ lastInstant < now + window) := by omega
  have hexpire := expire_put now key trimmed _ hlive window
  rw [if_neg hrange] at hexpire
  refine ⟨_, hrun _ hexpire, ?_, ?_⟩
  · split
    · exact hother.trans (onlyAt_delete key trimmed)
    · exact hother.trans (onlyAt_put key trimmed _)
  · by_cases hz : window = 0
    · subst hz
      exact (Table.get?_erase ..).trans (if_pos rfl)
    · have hpositive : ¬ (window : Int) ≤ 0 := by omega
      rw [if_neg hpositive, holdings_put, Table.get?_insert_self, if_neg hz]

end Script

/-! ## What a key holds -/

/-- A keyspace whose clients number the names they make. -/
structure Numbered where
  keyspace : Keyspace := {}
  made : Nat := 0

/-- A connection that never fails, on which a request is served at the instant of the call, by a clock
    that is `epoch` ahead; the clients make `names` one after the other. -/
def Client.numbered (settings : CacheSettings) (epoch : Nat) (names : Nat → String) : Client Numbered where
  settings
  call r := .act fun t s =>
    let (reply, keyspace) := s.keyspace.serve (epoch + t) r
    (reply, { s with keyspace })
  member := .act fun _ s => (names s.made, { s with made := s.made + 1 })

open CallLog (Limit)

/-- The members of a set stand for the counted calls of a key, from an instant on: they bear names made
    so far, one in each call, those that the window has not left are as many as the history says, and
    when they have expired the window has left all of them. -/
structure Tally (limit : Limit) (epoch : Nat) (names : Nat → String) (past : List LimitEvent) (key : String)
    (t : Nat) (members : Table String Int) (expiry : Option Int) : Prop where
  named : ∀ name ∈ members.entries.map Prod.fst, ∃ i < past.length, names i = name
  count : ∀ u, t ≤ u → (withinWindow (epoch + u) limit.window members).size = limit.counted past u key
  lapse : members.entries ≠ [] → ∃ e, expiry = some e ∧ ∀ u, t ≤ u → e < epoch + u → limit.counted past u key = 0

/-- Every key of a limit holds such a set, from the last call on. -/
structure WindowInv (limit : Limit) (settings : CacheSettings) (epoch : Nat) (names : Nat → String)
    (past : List LimitEvent) (s : Numbered) : Prop where
  made : s.made = past.length
  told : ∀ key, ∃ members expiry, s.keyspace.holdings.get? (settings.key key) = holdingOf members expiry ∧
    ∀ t, (∀ a ∈ past, a.time ≤ t) → Tally limit epoch names past key t members expiry

section Tally

variable {limit : Limit} {epoch : Nat} {names : Nat → String} {past : List LimitEvent} {key : String} {t : Nat}
  {members : Table String Int} {expiry : Option Int}

/-- There is nothing to tell of an empty set when the window is empty. -/
theorem tally_empty (h : ∀ u, t ≤ u → limit.counted past u key = 0) (expiry : Option Int) :
    Tally limit epoch names past key t .empty expiry where
  named _ hn := (List.not_mem_nil hn).elim
  count u hu := (h u hu).symm
  lapse hne := absurd rfl hne

/-- A call finds the members of a set, or none, when they have expired. -/
theorem Tally.found {k : Keyspace} {held : String} (hk : k.holdings.get? held = holdingOf members expiry)
    (h : Tally limit epoch names past key t members expiry) :
    ∃ found, k.members? (epoch + t) held = .ok found ∧
      Tally limit epoch names past key t found (k.expiryOf (epoch + t) held) := by
  obtain ⟨entries, hnodup⟩ := members
  cases entries with
  | nil =>
    have hg : k.get? (epoch + t) held = none := by simp [Keyspace.get?, hk, holdingOf]
    refine ⟨.empty, by simp [members?, hg], tally_empty (fun u hu => ?_) _⟩
    exact (h.count u hu).symm
  | cons m entries =>
    obtain ⟨e, rfl, hlapse⟩ := h.lapse (by simp)
    by_cases hl : (epoch : Int) + t ≤ e
    · have hg : k.get? (epoch + t) held = some ⟨.scored ⟨m :: entries, hnodup⟩, some e⟩ := by
        simp [Keyspace.get?, hk, holdingOf, Option.filter, Live, hl]
      have he : k.expiryOf (epoch + t) held = some e := by simp [expiryOf, hg]
      exact ⟨_, by simp [members?, hg], he ▸ h⟩
    · have hg : k.get? (epoch + t) held = none := by
        simp [Keyspace.get?, hk, holdingOf, Option.filter, Live, hl]
      exact ⟨.empty, by simp [members?, hg], tally_empty (fun u hu => hlapse u hu (by omega)) _⟩

theorem Tally.later (h : Tally limit epoch names past key t members expiry) {u : Nat} (hu : t ≤ u) :
    Tally limit epoch names past key u members expiry where
  named := h.named
  count v hv := h.count v (Nat.le_trans hu hv)
  lapse hne := by
    obtain ⟨e, he, hlapse⟩ := h.lapse hne
    exact ⟨e, he, fun v hv => hlapse v (Nat.le_trans hu hv)⟩

/-- A call that is refused, or made under another key, changes nothing in what is told. -/
theorem Tally.append (h : Tally limit epoch names past key t members expiry) {e : LimitEvent}
    (he : e.key = key → e.isCounted = false) : Tally limit epoch names (past ++ [e]) key t members expiry where
  named name hn := by
    obtain ⟨i, hi, hname⟩ := h.named name hn
    exact ⟨i, by simp; omega, hname⟩
  count u hu := by rw [h.count u hu, Limit.counted_append_other he]
  lapse hne := by
    obtain ⟨expires, he', hlapse⟩ := h.lapse hne
    refine ⟨expires, he', fun u hu hlt => ?_⟩
    rw [Limit.counted_append_other he]
    exact hlapse u hu hlt

/-- What the window has left at an instant it has left from then on. -/
theorem withinWindow_withinWindow (members : Table String Int) {t u : Nat} (h : t ≤ u) (window : Nat) :
    withinWindow (epoch + u) window (withinWindow (epoch + t) window members) =
      withinWindow (epoch + u) window members := by
  unfold withinWindow Table.keep
  congr 1
  rw [List.filter_filter]
  refine List.filter_congr fun m _ => ?_
  rw [Bool.eq_iff_iff]
  simp only [Bool.and_eq_true, decide_eq_true_eq]
  omega

/-- A set that is trimmed at an instant tells the same from then on. -/
theorem Tally.trim (h : Tally limit epoch names past key t members expiry) :
    Tally limit epoch names past key t (withinWindow (epoch + t) limit.window members) expiry where
  named name hn := by
    obtain ⟨m, hm, hname⟩ := List.mem_map.mp hn
    exact h.named name (List.mem_map.mpr ⟨m, (List.mem_filter.mp hm).1, hname⟩)
  count u hu := by rw [withinWindow_withinWindow members hu, h.count u hu]
  lapse hne := h.lapse fun hnil => hne (by simp [withinWindow, Table.keep, hnil])

theorem size_withinWindow_insert {name : String} (h : name ∉ members.entries.map Prod.fst) (score now : Int)
    (window : Nat) : (withinWindow now window (members.insert name score)).size =
      (withinWindow now window members).size + if now - window < score then 1 else 0 := by
  simp only [withinWindow, Table.keep, Table.size, Table.entries_insert h, List.filter_append, List.length_append]
  by_cases hs : now - window < score <;> simp [hs]

/-- A counted call adds a member, under a new name, to a set that then expires with the window. -/
theorem Tally.insert (h : Tally limit epoch names past key t members expiry)
    (fresh : ∀ i < past.length, names i ≠ names past.length) (ht : ∀ a ∈ past, a.time ≤ t) :
    Tally limit epoch names (past ++ [⟨t, key, .ok false⟩]) key t
      (members.insert (names past.length) (epoch + t)) (some (epoch + t + limit.window)) := by
  have hfresh : names past.length ∉ members.entries.map Prod.fst := by
    intro hn
    obtain ⟨i, hi, hname⟩ := h.named _ hn
    exact fresh i hi hname
  constructor
  · intro name hn
    rw [Table.entries_insert hfresh, List.map_append] at hn
    rw [List.length_append, List.length_singleton]
    rcases List.mem_append.mp hn with hn | hn
    · obtain ⟨i, hi, hname⟩ := h.named name hn
      exact ⟨i, by omega, hname⟩
    · exact ⟨past.length, by omega, (List.mem_singleton.mp hn).symm⟩
  · intro u hu
    rw [size_withinWindow_insert hfresh, h.count u hu, Limit.counted_append]
    have hiff : (epoch : Int) + u - limit.window < epoch + t ↔ u - t < limit.window := by omega
    simp [LimitEvent.isCounted, hiff]
  · refine fun _ => ⟨_, rfl, fun u hu hlt => Limit.counted_eq_zero (fun a ha => ?_) key⟩
    rcases List.mem_append.mp ha with ha | ha
    · have := ht a ha
      omega
    · rw [List.mem_singleton.mp ha]
      dsimp only
      omega

end Tally

/-! ## Runs -/

section Runs

variable {settings : CacheSettings} {epoch : Nat} {names : Nat → String} {past : List LimitEvent} {s : Numbered}
  {key : String} {t : Nat}

/-- A call that leaves a set under its key that tells what the history says, and no other key changed,
    keeps the invariant. -/
theorem WindowInv.append {limit : Limit} (hs : WindowInv limit settings epoch names past s)
    {answer : Except LimitFault Bool} {k' : Keyspace} {members : Table String Int} {expiry : Option Int}
    (own : k'.holdings.get? (settings.key key) = holdingOf members expiry)
    (tally : Tally limit epoch names (past ++ [⟨t, key, answer⟩]) key t members expiry)
    (other : OnlyAt (settings.key key) s.keyspace k') :
    WindowInv limit settings epoch names (past ++ [⟨t, key, answer⟩]) ⟨k', s.made + 1⟩ := by
  refine ⟨by simp [hs.made], fun key' => ?_⟩
  by_cases hk : key' = key
  · subst hk
    exact ⟨members, expiry, own, fun u hu => tally.later (hu ⟨t, key', answer⟩ (by simp))⟩
  · obtain ⟨members', expiry', hheld, htally⟩ := hs.told key'
    rw [← other _ fun h => hk (settings.key_inj h)] at hheld
    refine ⟨members', expiry', hheld, fun u hu => (htally u ?_).append fun h => absurd h.symm hk⟩
    exact fun a ha => hu a (List.mem_append_left _ ha)

/-- What a call does: it makes a name and runs the script. -/
theorem limiter_run (c : RateSettings) (key : String) (t : Nat) (s : Numbered) :
    ((Client.numbered settings epoch names).limiter c key).run t s =
      let r := windowScript (epoch + t) (settings.key key) c.windowMs.toNat c.threshold.toNat (names s.made) s.keyspace
      ⟨t, ⟨r.2, s.made + 1⟩, match r.1 with
        | .ok n => .ok (n == 1)
        | .error _ => .error (.unavailable BackendFault.cache.text)⟩ := by
  have hscript : ∀ r s, ((Client.numbered settings epoch names).script r).run t s =
      let served := s.keyspace.serve (epoch + t) r
      ⟨t, { s with keyspace := served.2 }, Client.reading Reply.number? served.1⟩ := fun r s => Task.run_map ..
  have hmember : ((Client.numbered settings epoch names).member).run t s =
      ⟨t, { s with made := s.made + 1 }, names s.made⟩ := rfl
  have hsettings : (Client.numbered settings epoch names).settings = settings := rfl
  unfold Client.limiter
  rw [Task.run_bind, Task.run_bind, hmember, hscript, hsettings]
  dsimp only [serve]
  rcases windowScript (epoch + t) (settings.key key) c.windowMs.toNat c.threshold.toNat (names s.made) s.keyspace with
    ⟨_ | n, k'⟩ <;> rfl

/-- A call gives the answer due and keeps the invariant. -/
theorem window_step {c : RateSettings} (hs : WindowInv (.ofSettings c) settings epoch names past s)
    (fresh : ∀ i < past.length, names i ≠ names past.length) (ht : ∀ a ∈ past, a.time ≤ t)
    (range : (epoch + t + c.windowMs.toNat : Int) ≤ lastInstant) (key : String) :
    let r := ((Client.numbered settings epoch names).limiter c key).run t s
    r.value = Limit.due (.ofSettings c) past t key ∧
      WindowInv (.ofSettings c) settings epoch names (past ++ [⟨t, key, r.value⟩]) r.state := by
  obtain ⟨members, expiry, hheld, htally⟩ := hs.told key
  obtain ⟨found, hfound, htally⟩ := (htally t ht).found hheld
  have hkept := htally.trim
  have hsize := htally.count t (Nat.le_refl t)
  rw [limiter_run]
  dsimp only
  unfold Limit.due
  by_cases hfull : c.threshold.toNat ≤ (withinWindow (epoch + t) c.windowMs.toNat found).size
  · have hdue : Limit.threshold (.ofSettings c) ≤ Limit.counted (.ofSettings c) past t key := hsize ▸ hfull
    rw [window_refused _ _ _ _ _ hfound hfull, decide_eq_true hdue]
    refine ⟨rfl, hs.append ?_ (hkept.append fun _ => rfl) (onlyAt_putMembers _ _ _ _)⟩
    rw [holdings_putMembers, if_pos rfl]
    rfl
  · have hdue : ¬ Limit.threshold (.ofSettings c) ≤ Limit.counted (.ofSettings c) past t key := hsize ▸ hfull
    obtain ⟨k', hrun, hother, hown⟩ := window_counted _ _ (names s.made) _ _ hfound hfull (by omega) range
    rw [hrun, decide_eq_false hdue]
    refine ⟨rfl, ?_⟩
    by_cases hz : c.windowMs.toNat = 0
    · -- nothing is ever within a window of no length
      rw [if_pos hz] at hown
      have hgone : k'.holdings.get? (settings.key key) = holdingOf .empty none := hown
      refine hs.append hgone (tally_empty (fun u hu => ?_) _) hother
      have hwindow : Limit.window (.ofSettings c) = 0 := hz
      refine Limit.counted_eq_zero (fun a ha => ?_) key
      rcases List.mem_append.mp ha with ha | ha
      · have := ht a ha
        omega
      · rw [List.mem_singleton.mp ha, hwindow]
        exact hu
    · rw [if_neg hz, hs.made] at hown
      refine hs.append (hown.trans ?_) (hkept.insert fresh ht) hother
      exact (if_neg (by simp [Table.insert])).symm

/-- A keyspace that was empty at first follows the rule. -/
theorem shared_follows (c : RateSettings) (settings : CacheSettings) (epoch : Nat) (names : Nat → String)
    {calls : List (Nat × String)} (ordered : calls.Pairwise fun a b => a.1 ≤ b.1)
    (distinct : ∀ i j, i < j → j < calls.length → names i ≠ names j)
    (range : ∀ call ∈ calls, (epoch + call.1 + c.windowMs.toNat : Int) ≤ lastInstant) :
    Limit.Follows (.ofSettings c) [] (((Client.numbered settings epoch names).limiter c).history {} calls) := by
  refine Limit.history_follows (WindowInv (.ofSettings c) settings epoch names) ?_ ?_ ordered
  · intro past s t key hcall hlength ht hs
    exact window_step hs (fun i hi => distinct i past.length hi hlength) ht (range (t, key) hcall) key
  · exact ⟨rfl, fun key => ⟨.empty, none, rfl, fun t _ => tally_empty (fun _ _ => rfl) _⟩⟩

end Runs

/-- Up to here, 2^53, every whole number can be a score. In milliseconds since 1970 that is far beyond
    the year 200000. -/
def lastScore : Nat := 9007199254740992

/-- For every window up to 10^12 milliseconds, every threshold and every run of calls under any keys, at
    times that never go back: a limiter on a shared keyspace and one in the process, both empty at first,
    answer all calls alike, provided that the names made in the run differ and that the server's clock
    stays within the whole numbers that scores can be. -/
theorem limiters_agree (c : RateSettings) (settings : CacheSettings) (epoch : Nat) (names : Nat → String)
    (calls : List (Nat × String)) (short : c.windowMs.toNat ≤ 1000000000000)
    (ordered : calls.Pairwise fun a b => a.1 ≤ b.1)
    (distinct : ∀ i j, i < j → j < calls.length → names i ≠ names j)
    (exact : ∀ call ∈ calls, epoch + call.1 ≤ lastScore) :
    ((Client.numbered settings epoch names).limiter c).history {} calls =
      (CallLog.asLimiter (.ofSettings c)).history {} calls := by
  have range : ∀ call ∈ calls, (epoch + call.1 + c.windowMs.toNat : Int) ≤ lastInstant := by
    intro call hcall
    have := exact call hcall
    have : (lastScore + 1000000000000 : Int) ≤ lastInstant := by decide
    omega
  refine (shared_follows c settings epoch names ordered distinct range).eq (CallLog.log_follows _ ordered) ?_
  rw [Limiter.history_calls, Limiter.history_calls]

/-- Names made of random bytes. -/
def sampleName (i : Nat) : String := Entropy.uuid ⟨fun j => UInt8.ofNat (16 * i + j)⟩

theorem limiters_agree_sample :
    let c : RateSettings := { windowMs := 1000, threshold := 1 }
    let calls := [(0, "sms:a"), (999, "sms:a"), (1000, "sms:a"), (3000, "sms:a")]
    let h := ((Client.numbered {} 1700000000000 sampleName).limiter c).history {} calls
    c.windowMs.toNat ≤ 1000000000000 ∧ calls.Pairwise (fun a b => a.1 ≤ b.1) ∧
    (∀ i j, i < j → j < calls.length → sampleName i ≠ sampleName j) ∧
    (∀ call ∈ calls, 1700000000000 + call.1 ≤ lastScore) ∧
    h = (CallLog.asLimiter (.ofSettings c)).history {} calls ∧
    h.map LimitEvent.answer = [.ok false, .ok true, .ok false, .ok false] := by
  intro c calls h
  have short : c.windowMs.toNat ≤ 1000000000000 := by decide
  have ordered : calls.Pairwise fun a b => a.1 ≤ b.1 := by decide
  have distinct : ∀ i j, i < j → j < calls.length → sampleName i ≠ sampleName j := by
    have hall : ∀ j < 4, ∀ i < j, sampleName i ≠ sampleName j := by decide +kernel
    exact fun i j hij hj => hall j hj i hij
  have exact : ∀ call ∈ calls, 1700000000000 + call.1 ≤ lastScore := by decide
  have hagree : h = _ := limiters_agree c {} 1700000000000 sampleName calls short ordered distinct exact
  refine ⟨short, ordered, distinct, exact, hagree, ?_⟩
  rw [hagree]
  decide +kernel

end Keyspace

end Passcode
