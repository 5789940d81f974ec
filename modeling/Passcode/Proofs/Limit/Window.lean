/-
  Passcode.Proofs.Limit.Window — the window that is kept in the process is exact.

  A log keeps, for each key, the instants of counted calls, oldest first, and forgets those that the
  window has left when the key is called again. So at any later instant it holds as many calls within
  the window as the history does (`LogInv`), and those it would drop are the ones at its front.

  Proved: every call is answered as the rule says, so no stretch as long as the window has more calls of
  a key counted than allowed, and neither refused calls nor calls under other keys have any influence
  (`window_exact`).
-/

import Passcode.Proofs.Limit.History

namespace Passcode.CallLog

variable {limit : Limit}

/-- The instants that a log keeps for a key. -/
def kept (log : CallLog) (key : String) : List Nat := (log.calls.get? key).getD []

/-- For each key a log keeps instants in their order, of which as many are within the window as the
    history says, from the last call on. -/
structure LogInv (limit : Limit) (past : List LimitEvent) (log : CallLog) : Prop where
  sorted : ∀ key, (log.kept key).Pairwise (· ≤ ·)
  made : ∀ key, ∀ s ∈ log.kept key, ∃ a ∈ past, a.time = s
  tally : ∀ key t, (∀ a ∈ past, a.time ≤ t) →
    (log.kept key).countP (fun s => decide (t - s < limit.window)) = limit.counted past t key

/-- Of instants in their order the window has left those in front. -/
theorem dropWhile_eq_filter {l : List Nat} (hl : l.Pairwise (· ≤ ·)) (window t : Nat) :
    l.dropWhile (fun s => decide (window ≤ t - s)) = l.filter fun s => decide (t - s < window) := by
  induction l with
  | nil => rfl
  | cons s l ih =>
    rw [List.pairwise_cons] at hl
    by_cases h : window ≤ t - s
    · have hn : ¬ t - s < window := by omega
      simp only [List.dropWhile_cons, List.filter_cons, h, hn, decide_true, decide_false, if_true, Bool.false_eq_true,
        if_false]
      exact ih hl.2
    · have hall : ∀ r ∈ s :: l, t - r < window := by
        intro r hr
        rcases List.mem_cons.mp hr with rfl | hr
        · omega
        · have := hl.1 r hr
          omega
      rw [List.dropWhile_cons_of_neg (by simpa using h), List.filter_eq_self.mpr fun r hr => decide_eq_true (hall r hr)]

section Step

variable {past : List LimitEvent} {log : CallLog} (hlog : LogInv limit past log)
include hlog

theorem LogInv.recent_eq (t : Nat) (key : String) :
    log.recent limit t key = (log.kept key).filter fun s => decide (t - s < limit.window) :=
  dropWhile_eq_filter (hlog.sorted key) limit.window t

/-- The instants that stay after a call count as before from then on. -/
theorem LogInv.recent_tally {t u : Nat} (ht : ∀ a ∈ past, a.time ≤ t) (hu : t ≤ u) (key : String) :
    (log.recent limit t key).countP (fun s => decide (u - s < limit.window)) = limit.counted past u key := by
  rw [hlog.recent_eq, List.countP_filter, ← hlog.tally key u fun a ha => Nat.le_trans (ht a ha) hu]
  refine List.countP_congr fun s _ => ?_
  simp only [Bool.and_eq_true, decide_eq_true_eq]
  omega

theorem LogInv.recent_length {t : Nat} (ht : ∀ a ∈ past, a.time ≤ t) (key : String) :
    (log.recent limit t key).length = limit.counted past t key := by
  rw [← hlog.tally key t ht, hlog.recent_eq, List.countP_eq_length_filter]

/-- A log whose instants for the key of a call are right after it, and that keeps the others, is right. -/
theorem LogInv.append {e : LimitEvent} {l : List Nat}
    (sorted : l.Pairwise (· ≤ ·)) (made : ∀ s ∈ l, ∃ a ∈ past ++ [e], a.time = s)
    (tally : ∀ u, e.time ≤ u →
      l.countP (fun s => decide (u - s < limit.window)) = limit.counted (past ++ [e]) u e.key) :
    LogInv limit (past ++ [e]) ⟨log.calls.insert e.key l⟩ := by
  have hkept : ∀ key, kept ⟨log.calls.insert e.key l⟩ key = if key = e.key then l else log.kept key := by
    intro key
    unfold kept
    rw [Table.get?_insert]
    split <;> rfl
  constructor
  · intro key
    rw [hkept]
    split
    · exact sorted
    · exact hlog.sorted key
  · intro key s hs
    rw [hkept] at hs
    split at hs
    · exact made s hs
    · obtain ⟨a, ha, has⟩ := hlog.made key s hs
      exact ⟨a, List.mem_append_left _ ha, has⟩
  · intro key u hu
    rw [hkept]
    by_cases hk : key = e.key
    · subst hk
      rw [if_pos rfl]
      exact tally u (hu e (by simp))
    · rw [if_neg hk, Limit.counted_append_other fun h => absurd h.symm hk]
      exact hlog.tally key u fun a ha => hu a (List.mem_append_left _ ha)

/-- A call gives the answer due and keeps the log right. -/
theorem call_step {t : Nat} (ht : ∀ a ∈ past, a.time ≤ t) (key : String) :
    .ok (log.call limit t key).1 = limit.due past t key ∧
      LogInv limit (past ++ [⟨t, key, .ok (log.call limit t key).1⟩]) (log.call limit t key).2 := by
  have hsub : (log.recent limit t key).Sublist (log.kept key) := List.dropWhile_sublist _
  have hsorted : (log.recent limit t key).Pairwise (· ≤ ·) := (hlog.sorted key).sublist hsub
  have hmade : ∀ s ∈ log.recent limit t key, ∃ a ∈ past, a.time = s :=
    fun s hs => hlog.made key s (hsub.subset hs)
  have hroom := hlog.recent_length ht key
  unfold call Limit.due
  by_cases hfull : limit.threshold ≤ (log.recent limit t key).length
  · rw [if_pos hfull, ← hroom]
    refine ⟨by rw [decide_eq_true hfull], hlog.append (e := ⟨t, key, .ok true⟩) hsorted ?_ fun u hu => ?_⟩
    · intro s hs
      obtain ⟨a, ha, has⟩ := hmade s hs
      exact ⟨a, List.mem_append_left _ ha, has⟩
    · rw [Limit.counted_append_other fun _ => rfl]
      exact hlog.recent_tally ht hu key
  · rw [if_neg hfull, ← hroom]
    refine ⟨by rw [decide_eq_false hfull], hlog.append (e := ⟨t, key, .ok false⟩) ?_ ?_ fun u hu => ?_⟩
    · rw [List.pairwise_append]
      refine ⟨hsorted, List.pairwise_singleton _ _, fun s hs r hr => ?_⟩
      obtain ⟨a, ha, has⟩ := hmade s hs
      rw [List.mem_singleton.mp hr, ← has]
      exact ht a ha
    · intro s hs
      rcases List.mem_append.mp hs with hs | hs
      · obtain ⟨a, ha, has⟩ := hmade s hs
        exact ⟨a, List.mem_append_left _ ha, has⟩
      · exact ⟨_, List.mem_append_right _ (List.mem_singleton_self _), (List.mem_singleton.mp hs).symm⟩
    · rw [List.countP_append, List.countP_singleton, hlog.recent_tally ht hu key, Limit.counted_append]
      simp [LimitEvent.isCounted]

end Step

/-! ## Runs -/

/-- A log that was empty at first follows the rule. -/
theorem log_follows (limit : Limit) {calls : List (Nat × String)} (ordered : calls.Pairwise fun a b => a.1 ≤ b.1) :
    limit.Follows [] ((asLimiter limit).history {} calls) := by
  refine Limit.history_follows (LogInv limit) ?_ ?_ ordered
  · intro past log t key _ _ ht hlog
    exact call_step hlog ht key
  · exact ⟨fun _ => .nil, fun _ _ hs => (List.not_mem_nil hs).elim, fun _ _ _ => rfl⟩

/-- The history of a run from which calls were left out is what is left of the history of the run, when
    the counted calls under the keys of the calls that stay do. -/
theorem history_filter (limit : Limit) {calls : List (Nat × String)}
    (ordered : calls.Pairwise fun a b => a.1 ≤ b.1) {p : LimitEvent → Bool}
    (hp : Limit.Spares p ((asLimiter limit).history {} calls)) :
    let h := (asLimiter limit).history {} calls
    (asLimiter limit).history {} ((h.filter p).map LimitEvent.call) = h.filter p := by
  intro h
  have hsub : ((h.filter p).map LimitEvent.call).Sublist calls := by
    have hcalls := (asLimiter limit).history_calls {} calls
    exact hcalls ▸ List.filter_sublist.map LimitEvent.call
  have hfollows : limit.Follows [] h := log_follows limit ordered
  have hleft : limit.Follows [] (h.filter p) := hfollows.filter hp
  exact (log_follows limit (ordered.sublist hsub)).eq hleft ((asLimiter limit).history_calls ..)

/-- For every window and threshold and every run at times that never go back, on a log that was empty at
    first: a call is refused exactly when at least as many calls of its key as allowed were counted
    within the window behind it. Hence at most that many of a key are counted in any stretch as long as
    the window; refused calls have no influence, so any of them may be left out; and calls under other
    keys have none. Instants and the window count the same unit of time, whichever that is. -/
theorem window_exact (limit : Limit) (calls : List (Nat × String)) (ordered : calls.Pairwise fun a b => a.1 ≤ b.1) :
    let h := (asLimiter limit).history {} calls
    (∀ past e later, h = past ++ e :: later → e.answer = limit.due past e.time e.key) ∧
    (∀ key a, h.countP (limit.within key a) ≤ limit.threshold) ∧
    (∀ p : LimitEvent → Bool, (∀ e ∈ h, e.isCounted = true → p e = true) →
      (asLimiter limit).history {} ((h.filter p).map LimitEvent.call) = h.filter p) ∧
    (∀ key, (asLimiter limit).history {} (calls.filter fun c => c.2 = key) = h.filter fun e => e.key = key) := by
  intro h
  have hfollows : limit.Follows [] h := log_follows limit ordered
  refine ⟨fun past e later hs => hfollows.answer hs, fun key a => Limit.countP_within_le hfollows key a,
    fun p hp => ?_, fun key => ?_⟩
  · exact history_filter limit ordered fun _ _ _ b hb _ hc => hp b hb hc
  · have hcalls : calls.filter (fun c => c.2 = key) = (h.filter fun e => e.key = key).map LimitEvent.call := by
      rw [← (asLimiter limit).history_calls {} calls, List.filter_map]
      rfl
    rw [hcalls]
    refine history_filter limit ordered fun e _ he b _ hb _ => ?_
    simpa [hb] using he

/-- A call that comes too soon is refused, and does not delay the one that comes when the window has
    left the first. -/
theorem window_exact_sample :
    let calls := [(0, "sms:a"), (900, "sms:a"), (900, "sms:b"), (1000, "sms:a")]
    let h := (asLimiter ⟨1000, 1⟩).history {} calls
    calls.Pairwise (fun a b => a.1 ≤ b.1) ∧
    h.map LimitEvent.answer = [.ok false, .ok true, .ok false, .ok false] ∧
    (∀ past e later, h = past ++ e :: later → e.answer = Limit.due ⟨1000, 1⟩ past e.time e.key) ∧
    (∀ key a, h.countP (Limit.within ⟨1000, 1⟩ key a) ≤ 1) := by
  intro calls h
  have ordered : calls.Pairwise fun a b => a.1 ≤ b.1 := by decide
  have hexact := window_exact ⟨1000, 1⟩ calls ordered
  exact ⟨ordered, by decide +kernel, hexact.1, hexact.2.1⟩

end Passcode.CallLog
