/-
  Passcode.Proofs.Keyspace.Codes — codes kept in a shared keyspace follow the rules.

  Whichever client a call is made by, it is one script on the one keyspace, whose clock is as far
  ahead of the calls' as it was at first (`Client.direct`). The rules are those of `due`, but for
  two things (`dueShared`): a code lives up to and including the end of its lifetime, and a store
  sees what is left of it rounded to whole seconds. A code without a lifetime is gone at once.

  A key holds what the history leaves for its slot (`SharedInv`), also when its lifetime is over;
  with the attempts spent on each issue within the budget (`Budget`) its number is always in range.

  Proved: every answer is the one that is due (`shared_run`); and for each call of a run, the
  guarantees of a one-time code (`shared_codes_guarded`).
-/

import Passcode.Keyspace.Client
import Passcode.Proofs.Code.History
import Passcode.Proofs.Keyspace.Script

namespace Passcode

/-! ## Keys -/

theorem CacheSettings.key_inj (s : CacheSettings) {a b : String} (h : s.key a = s.key b) : a = b := by
  unfold CacheSettings.key at h
  cases hs : s.keySpace with
  | none => simpa [hs] using h
  | some p =>
    simp only [hs] at h
    have hl := congrArg String.toList h
    simp only [String.toList_append, List.append_cancel_left_eq] at hl
    exact String.toList_inj.mp hl

namespace CodeSettings

variable (c : CodeSettings)

/-! ## The rules -/

/-- The entry that a history leaves for a slot in a shared keyspace. -/
def shared? (slot : CodeSlot) (past : List CodeEvent) : Option CodeEntry :=
  (c.kept? slot past).filter fun _ => decide (0 < c.lifetime)

/-- An entry as far as it is still there at an instant. -/
def present (t : Nat) (entry : Option CodeEntry) : Option CodeEntry :=
  entry.filter fun e => decide (t ≤ e.expiresAt)

/-- The answer due to a call on a shared keyspace. -/
def dueShared (past : List CodeEvent) (t : Nat) : CodeCall → CodeAnswer
  | .store slot _ =>
    match present t (c.shared? slot past) with
    | some e =>
      if c.reissueThreshold < (e.expiresAt - t + 500) / 1000 then .stored (.error .tooFrequent)
      else .stored (.ok ())
    | none => .stored (.ok ())
  | .verify slot input =>
    match present t (c.shared? slot past) with
    | some e => .verified (e.record.attempt input).1
    | none => .verified (.error .notFound)

theorem attemptsLeft_le {slot : CodeSlot} {past : List CodeEvent} {entry : CodeEntry}
    (h : c.kept? slot past = some entry) : entry.record.attemptsLeft ≤ Int64.maxValue.toInt := by
  obtain ⟨i, -, -, rfl⟩ := c.kept?_eq_some slot past h
  have hmax := c.maxAttempts.toInt_le
  show c.maxAttempts.toInt - i.misses ≤ Int64.maxValue.toInt
  omega

theorem shared?_append (slot : CodeSlot) (past : List CodeEvent) (e : CodeEvent) : c.shared? slot (past ++ [e]) =
    if e.call.slot = slot then (c.next e (c.shared? slot past)).filter fun _ => decide (0 < c.lifetime)
    else c.shared? slot past := by
  unfold shared?
  rw [kept?_append]
  by_cases hl : 0 < c.lifetime
  · have hf (x : Option CodeEntry) : (x.filter fun _ => decide (0 < c.lifetime)) = x := by
      cases x <;> simp [Option.filter, hl]
    simp only [hf]
  · have hf (x : Option CodeEntry) : (x.filter fun _ => decide (0 < c.lifetime)) = none := by
      cases x <;> simp [Option.filter, hl]
    simp only [hf, ite_self]

/-- An attempt ends with a match or a mismatch only on an unmatched issue that lives and has attempts
    left. -/
theorem dueShared_eq_ok {past : List CodeEvent} {t : Nat} {slot : CodeSlot} {input : String} {v : Verdict}
    (h : c.dueShared past t (.verify slot input) = .verified (.ok v)) :
    ∃ i, lastIssue? slot past = some i ∧ ¬ i.isMatched ∧ t ≤ i.time + c.lifetime ∧
      (i.misses : Int) < c.maxAttempts.toInt ∧ v = if i.code = input then .matched else .mismatch := by
  simp only [dueShared] at h
  cases hp : present t (c.shared? slot past) with
  | none => simp [hp] at h
  | some entry =>
    obtain ⟨hs, ht⟩ := Option.filter_eq_some_iff.mp hp
    obtain ⟨i, hi, hm, rfl⟩ := c.kept?_eq_some slot past (Option.filter_eq_some_iff.mp hs).1
    simp only [hp, CodeRecord.attempt] at h
    by_cases hn : c.maxAttempts.toInt - i.misses ≤ 0
    · simp [hn] at h
    · simp only [hn, if_false, CodeAnswer.verified.injEq, Except.ok.injEq] at h
      exact ⟨i, hi, hm, of_decide_eq_true ht, by omega, h.symm⟩

end CodeSettings

/-! ## The attempts spent -/

/-- Of the attempts on an issued code, one at most has matched, and they are within what was granted. -/
def Budget (c : CodeSettings) (past : List CodeEvent) : Prop :=
  ∀ slot i, lastIssue? slot past = some i →
    i.count .matched ≤ 1 ∧ ((i.count .matched + i.misses : Nat) : Int) ≤ max c.maxAttempts.toInt 0

/-- An answer that is due keeps the budget. -/
theorem Budget.append {c : CodeSettings} {past : List CodeEvent} (hb : Budget c past) {e : CodeEvent}
    (he : e.answer = c.dueShared past e.time e.call) : Budget c (past ++ [e]) := by
  intro slot i hi
  rw [lastIssue?_append] at hi
  cases hiss : e.issued? slot with
  | some code =>
    rw [hiss, Option.map_some, Option.some_or, Option.some.injEq] at hi
    subst hi
    simp only [Issue.count, Issue.misses, List.countP_nil]
    omega
  | none =>
    rw [hiss, Option.map_none, Option.none_or, Option.map_eq_some_iff] at hi
    obtain ⟨j, hj, rfl⟩ := hi
    obtain ⟨h1, h2⟩ := hb slot j hj
    rw [Issue.misses_append, Issue.count_append, (lastIssue?_mem slot past hj).1]
    cases hv : e.verdict? slot with
    | none => exact ⟨h1, h2⟩
    | some v =>
      obtain ⟨input, hcall, hans⟩ := CodeEvent.verdict?_eq_some hv
      rw [hcall, hans] at he
      obtain ⟨i, hi, hm, -, hlt, -⟩ := c.dueShared_eq_ok he.symm
      rw [hj, Option.some.injEq] at hi
      subst hi
      have h0 : j.count .matched = 0 := by
        simp only [Issue.isMatched] at hm
        omega
      cases v <;> simp [h0] <;> omega

/-! ## What a key holds -/

namespace Keyspace

/-- A connection that never fails, on which a request is served at the instant of the call. -/
def Client.direct (settings : CacheSettings) (epoch : Nat) (member : Task Keyspace String) : Client Keyspace where
  settings
  call r := .act fun t k => k.serve (epoch + t) r
  member

/-- What a key holds for an entry. -/
def Keeps (epoch : Nat) : Option CodeEntry → Option Holding → Prop
  | none, h => h = none
  | some e, h => ∃ held, h = some held ∧ HoldsCode held e.record.code e.record.attemptsLeft (epoch + e.expiresAt)

/-- Every key of a slot holds what the history leaves. -/
def SharedInv (c : CodeSettings) (settings : CacheSettings) (epoch : Nat) (past : List CodeEvent) (k : Keyspace) :
    Prop :=
  ∀ slot, Keeps epoch (c.shared? slot past) (k.holdings.get? (settings.key slot.key))

theorem Keeps.present {epoch : Nat} {entry : Option CodeEntry} {k : Keyspace} {key : String}
    (h : Keeps epoch entry (k.holdings.get? key)) (t : Nat) :
    Keeps epoch (CodeSettings.present t entry) (k.get? (epoch + t) key) := by
  cases entry with
  | none =>
    simp only [Keeps] at h
    simp [Keyspace.get?, h, CodeSettings.present, Keeps]
  | some e =>
    obtain ⟨held, hh, hc⟩ := h
    have hl : Live (epoch + t) held ↔ t ≤ e.expiresAt := by
      simp [Live, hc.expiry]
    by_cases ht : t ≤ e.expiresAt
    · simp [Keyspace.get?, hh, CodeSettings.present, Option.filter, hl, ht, Keeps, hc]
    · simp [Keyspace.get?, hh, CodeSettings.present, Option.filter, hl, ht, Keeps]

theorem Keeps.ttl {epoch : Nat} {entry : Option CodeEntry} {k : Keyspace} {key : String}
    (h : Keeps epoch entry (k.holdings.get? key)) (t : Nat) : k.ttl (epoch + t) key =
      match CodeSettings.present t entry with
      | none => -2
      | some e => ((e.expiresAt - t + 500) / 1000 : Nat) := by
  have hp := h.present t
  unfold Keyspace.ttl
  cases he : CodeSettings.present t entry with
  | none =>
    rw [he] at hp
    simp only [Keeps] at hp
    rw [hp]
  | some e =>
    rw [he] at hp
    obtain ⟨held, hh, hc⟩ := hp
    have ht : t ≤ e.expiresAt := by simpa using (Option.filter_eq_some_iff.mp he).2
    rw [hh]
    simp only [hc.expiry]
    omega

theorem scriptReply_state (r : Except CommandFault Int × Keyspace) : (scriptReply r).2 = r.2 := by
  obtain ⟨_ | _, _⟩ := r <;> rfl

/-! ## One call -/

section Step

variable {c : CodeSettings} {settings : CacheSettings} {epoch : Nat} {past : List CodeEvent} {k : Keyspace}
  (hk : SharedInv c settings epoch past k)
include hk

/-- A call that changes what the key of its slot holds as the rules say, and no other key, keeps the
    invariant. -/
theorem SharedInv.append {e : CodeEvent} {k' : Keyspace}
    (own : Keeps epoch ((c.next e (c.shared? e.call.slot past)).filter fun _ => decide (0 < c.lifetime))
      (k'.holdings.get? (settings.key e.call.slot.key)))
    (other : OnlyAt (settings.key e.call.slot.key) k k') : SharedInv c settings epoch (past ++ [e]) k' := by
  intro slot
  rw [CodeSettings.shared?_append]
  by_cases hs : e.call.slot = slot
  · subst hs
    rw [if_pos rfl]
    exact own
  · rw [if_neg hs, other _ fun h => hs (CodeSlot.key_inj (settings.key_inj h)).symm]
    exact hk slot

/-- A call without effect on the keyspace that spends nothing keeps the invariant. -/
theorem SharedInv.append_idle {e : CodeEvent} (hn : ∀ entry, c.next e entry = entry) :
    SharedInv c settings epoch (past ++ [e]) k := by
  refine SharedInv.append hk ?_ (onlyAt_refl _ k)
  have hf : (c.shared? e.call.slot past).filter (fun _ => decide (0 < c.lifetime)) =
      c.shared? e.call.slot past := by
    simp [CodeSettings.shared?]
  rw [hn, hf]
  exact hk e.call.slot

/-- A verify answers what is due and keeps the invariant. -/
theorem verify_step (slot : CodeSlot) (t : Nat) (input : String) :
    let r := scriptReply (verifyScript (epoch + t) (settings.key slot.key) input k)
    let e : CodeEvent := ⟨t, .verify slot input, .verified (Client.verified (Client.reading Reply.number? r.1))⟩
    e.answer = c.dueShared past t e.call ∧ SharedInv c settings epoch (past ++ [e]) r.2 := by
  have hp := (hk slot).present t
  simp only [CodeSettings.dueShared]
  cases he : CodeSettings.present t (c.shared? slot past) with
  | none =>
    rw [he] at hp
    rw [verify_absent _ _ input k hp]
    exact ⟨rfl, SharedInv.append_idle hk fun _ => rfl⟩
  | some entry =>
    rw [he] at hp
    obtain ⟨held, hg, hc⟩ := hp
    have hs : c.shared? slot past = some entry := (Option.filter_eq_some_iff.mp he).1
    have hl : 0 < c.lifetime := of_decide_eq_true (Option.filter_eq_some_iff.mp hs).2
    by_cases hn : entry.record.attemptsLeft ≤ 0
    · rw [verify_spent _ _ input k hg hc hn]
      refine ⟨?_, SharedInv.append_idle hk fun _ => rfl⟩
      simp only [CodeRecord.attempt, hn, if_true]
      rfl
    · have hmax := c.attemptsLeft_le (Option.filter_eq_some_iff.mp hs).1
      obtain ⟨held', hc', hrun⟩ := verify_compare _ _ input k hg hc (by omega) hmax
      rw [hrun]
      simp only [CodeRecord.attempt, hn, if_false]
      by_cases hcode : entry.record.code = input
      · rw [if_pos hcode, if_pos hcode]
        refine ⟨rfl, SharedInv.append hk ?_ (onlyAt_delete _ k)⟩
        show Keeps epoch (((c.shared? slot past).bind (CodeSettings.spend .matched)).filter _)
          ((k.holdings.erase _).get? (settings.key slot.key))
        rw [hs, Table.get?_erase, if_pos rfl]
        rfl
      · rw [if_neg hcode, if_neg hcode]
        refine ⟨rfl, SharedInv.append hk ?_ (onlyAt_put _ k held')⟩
        show Keeps epoch (((c.shared? slot past).bind (CodeSettings.spend .mismatch)).filter _)
          ((k.holdings.insert _ held').get? (settings.key slot.key))
        rw [hs, Table.get?_insert_self]
        simp only [Option.bind_some, CodeSettings.spend, Option.filter, hl, decide_true, if_true, Keeps]
        exact ⟨held', rfl, hc'⟩

/-- The lifetime left decides whether a store comes too soon. -/
theorem SharedInv.due_store (slot : CodeSlot) (t : Nat) (code : String) :
    c.dueShared past t (.store slot code) = .stored
      (if (c.reissueThreshold : Int) < k.ttl (epoch + t) (settings.key slot.key) then .error .tooFrequent
       else .ok ()) := by
  rw [(hk slot).ttl t]
  simp only [CodeSettings.dueShared]
  cases CodeSettings.present t (c.shared? slot past) with
  | none =>
    have hn : ¬ (c.reissueThreshold : Int) < -2 := by omega
    dsimp only
    rw [if_neg hn]
  | some e =>
    dsimp only
    by_cases hlt : c.reissueThreshold < (e.expiresAt - t + 500) / 1000
    · rw [if_pos hlt, if_pos (Int.ofNat_lt.mpr hlt)]
    · rw [if_neg hlt, if_neg (mt Int.ofNat_lt.mp hlt)]

/-- What a slot holds expires. -/
theorem SharedInv.ttl_ne (slot : CodeSlot) (t : Nat) : k.ttl (epoch + t) (settings.key slot.key) ≠ -1 := by
  rw [(hk slot).ttl t]
  cases CodeSettings.present t (c.shared? slot past) with
  | none => exact fun h : (-2 : Int) = -1 => by omega
  | some e => exact fun h : (((e.expiresAt - t + 500) / 1000 : Nat) : Int) = -1 => by omega

/-- A store answers what is due and keeps the invariant. -/
theorem store_step (slot : CodeSlot) (t : Nat) (code : String)
    (range : (epoch + t + c.lifetime : Int) ≤ lastInstant) :
    let r := scriptReply (issueScript (epoch + t) (settings.key slot.key) code c.maxAttempts.toInt
      c.expirySeconds.toNat c.reissueThreshold k)
    let e : CodeEvent := ⟨t, .store slot code, .stored (Client.issued (Client.reading Reply.number? r.1))⟩
    e.answer = c.dueShared past t e.call ∧ SharedInv c settings epoch (past ++ [e]) r.2 := by
  dsimp only
  rw [SharedInv.due_store hk]
  -- Either too much of the lifetime is left, or the code is replaced.
  have hlife : ((c.lifetime : Nat) : Int) = c.expirySeconds.toNat * 1000 := by
    simp [CodeSettings.lifetime]
  have hrange : ¬ lastInstant < (epoch + t : Int) + c.expirySeconds.toNat * 1000 := by omega
  rw [issue_eq _ _ _ _ _ _ k (by omega), if_neg (SharedInv.ttl_ne hk slot t)]
  by_cases hfresh : (c.reissueThreshold : Int) < k.ttl (epoch + t) (settings.key slot.key)
  · rw [if_pos hfresh, if_pos hfresh]
    exact ⟨rfl, SharedInv.append_idle hk fun _ => rfl⟩
  · rw [if_neg hfresh, if_neg hfresh, if_neg hrange]
    refine ⟨rfl, SharedInv.append hk ?_ ?_⟩
    · show Keeps epoch ((some ⟨⟨code, c.maxAttempts.toInt⟩, t + c.lifetime⟩ : Option CodeEntry).filter _)
        ((scriptReply (.ok 0, _)).2.holdings.get? (settings.key slot.key))
      by_cases h0 : c.expirySeconds.toNat = 0
      · have hl : ¬ 0 < c.lifetime := by omega
        rw [if_pos h0]
        simp [scriptReply, Option.filter, hl, Keeps, Table.get?_erase]
      · have hl : 0 < c.lifetime := by omega
        have hends : ((epoch : Int) + (t + c.lifetime : Nat)) = epoch + t + c.expirySeconds.toNat * 1000 := by omega
        rw [if_neg h0]
        simp only [Option.filter, hl, decide_true, if_true, Keeps, hends]
        exact ⟨_, Table.get?_insert_self .., holdsCode_issued ..⟩
    · show OnlyAt _ k (if c.expirySeconds.toNat = 0 then k.delete _ else k.put _ _)
      split
      · exact onlyAt_delete _ k
      · exact onlyAt_put _ k _

end Step

/-! ## Runs -/

section Runs

variable (c : CodeSettings) (settings : CacheSettings) (epoch : Nat) (member : Task Keyspace String)

/-- The code store of the clients of a shared keyspace. -/
def sharedCodes : CodeStore Keyspace := (Client.direct settings epoch member).codeStore c

section
variable (t : Nat) (k : Keyspace) (scope recipient : String)

/-- What a client makes of the result of the issue script. -/
theorem store_run (code : String) : ((sharedCodes c settings epoch member).store scope recipient code).run t k =
    let r := scriptReply (issueScript (epoch + t) (settings.key (codeKey scope recipient)) code c.maxAttempts.toInt
      c.expirySeconds.toNat c.reissueThreshold k)
    ⟨t, r.2, Client.issued (Client.reading Reply.number? r.1)⟩ := rfl

theorem verify_run (input : String) : ((sharedCodes c settings epoch member).verify scope recipient input).run t k =
    let r := scriptReply (verifyScript (epoch + t) (settings.key (codeKey scope recipient)) input k)
    ⟨t, r.2, Client.verified (Client.reading Reply.number? r.1)⟩ := rfl

end

/-- What a run on a keyspace that was empty at first leaves, and how its calls are answered. -/
theorem shared_run {calls : List (Nat × CodeCall)} (ordered : InOrder calls)
    (range : ∀ t slot code, (t, .store slot code) ∈ calls → (epoch + t + c.lifetime : Int) ≤ lastInstant) :
    (SharedInv c settings epoch ((sharedCodes c settings epoch member).history {} calls)
        ((sharedCodes c settings epoch member).after {} calls) ∧
      Budget c ((sharedCodes c settings epoch member).history {} calls)) ∧
    ∀ past e later, (sharedCodes c settings epoch member).history {} calls = past ++ e :: later →
      e.answer = c.dueShared past e.time e.call := by
  refine history_induct (sharedCodes c settings epoch member)
    (fun past k => SharedInv c settings epoch past k ∧ Budget c past)
    (fun past e => e.answer = c.dueShared past e.time e.call) ?_ ⟨fun _ => rfl, fun _ _ h => nomatch h⟩ ordered
  rintro past k t call hcall - ⟨hk, hb⟩
  have step : ∀ e k', e.answer = c.dueShared past e.time e.call ∧ SharedInv c settings epoch (past ++ [e]) k' →
      e.answer = c.dueShared past e.time e.call ∧ SharedInv c settings epoch (past ++ [e]) k' ∧
        Budget c (past ++ [e]) := fun e k' h => ⟨h.1, h.2, hb.append h.1⟩
  cases call with
  | store slot code => exact step _ _ (store_step hk slot t code (range t slot code hcall))
  | verify slot input => exact step _ _ (verify_step hk slot t input)

end Runs

/-- What a call of a run is guaranteed, made after `past`, when it takes the keyspace from `k` to `k'`. -/
structure Guarded (c : CodeSettings) (past : List CodeEvent) (e : CodeEvent) (k k' : Keyspace) : Prop where
  /-- Matches and mismatches since the last issue are within what was granted; one at most matched. -/
  budget : Budget c (past ++ [e])
  /-- With the attempts spent on a code that is there, even the right text is refused. -/
  refused : ∀ slot input i, e.call = .verify slot input → lastIssue? slot past = some i → ¬ i.isMatched →
    e.time ≤ i.time + c.lifetime → max c.maxAttempts.toInt 0 ≤ i.misses →
      e.answer = .verified (.error .tooManyAttempts)
  /-- A match is on the code last issued, for the first time and within its lifetime. -/
  matched : ∀ slot input, e.call = .verify slot input → e.answer = .verified (.ok .matched) →
    ∃ i, lastIssue? slot past = some i ∧ i.count .matched = 0 ∧ input = i.code ∧ e.time ≤ i.time + c.lifetime
  /-- A verify extends the lifetime of nothing. -/
  lifetime : ∀ slot input, e.call = .verify slot input → ∀ key h', k'.holdings.get? key = some h' →
    ∃ h, k.holdings.get? key = some h ∧ h.expiresAt = h'.expiresAt

/-- For every policy with a lifetime and every run of calls in whatever order, at times that never go
    back, as long as the server can represent the ends of lifetimes: each call is guarded, after all
    the calls before it. -/
theorem shared_codes_guarded (c : CodeSettings) (settings : CacheSettings) (epoch : Nat)
    (member : Task Keyspace String) (positive : 0 < c.expirySeconds.toNat) (calls : List (Nat × CodeCall))
    (t : Nat) (call : CodeCall) (ordered : InOrder (calls ++ [(t, call)]))
    (range : ∀ u slot code, (u, .store slot code) ∈ calls ++ [(t, call)] →
      (epoch + u + c.lifetime : Int) ≤ lastInstant) :
    let store := sharedCodes c settings epoch member
    let k := store.after {} calls
    let r := (store.perform call).run t k
    Guarded c (store.history {} calls) ⟨t, call, r.value⟩ k r.state := by
  intro store k r
  have hrun := (shared_run c settings epoch member ordered range).2 (store.history {} calls) ⟨t, call, r.value⟩ []
    (CodeStore.history_append store {} calls t call)
  have hbudget := (shared_run c settings epoch member ordered range).1.2
  rw [show (sharedCodes c settings epoch member).history {} (calls ++ [(t, call)]) =
    store.history {} calls ++ [⟨t, call, r.value⟩] from CodeStore.history_append store {} calls t call] at hbudget
  refine ⟨hbudget, ?_, ?_, ?_⟩
  · rintro slot input i hcall hi hm ht hs
    simp only at hcall ht
    subst hcall
    rw [hrun]
    have hl : 0 < c.lifetime := by simp only [CodeSettings.lifetime]; omega
    have hp : CodeSettings.present t (c.shared? slot (store.history {} calls)) =
        some ⟨⟨i.code, c.maxAttempts.toInt - i.misses⟩, i.time + c.lifetime⟩ := by
      simp [CodeSettings.shared?, CodeSettings.kept?, hi, hm, CodeSettings.present, Option.filter, hl, ht]
    have hn : c.maxAttempts.toInt - i.misses ≤ 0 := by omega
    simp only [CodeSettings.dueShared, hp, CodeRecord.attempt, hn, if_true]
  · rintro slot input hcall hans
    simp only at hcall
    subst hcall
    rw [hrun] at hans
    obtain ⟨i, hi, hm, ht, -, hv⟩ := c.dueShared_eq_ok hans
    refine ⟨i, hi, ?_, ?_, ht⟩
    · simp only [Issue.isMatched] at hm
      omega
    · by_contra hne
      rw [if_neg (Ne.symm hne)] at hv
      cases hv
  · rintro slot input hcall key h' hh
    simp only at hcall
    subst hcall
    refine verify_expiry (epoch + t) (settings.key slot.key) input k ?_
    rw [← scriptReply_state]
    exact hh

theorem shared_codes_guarded_sample : 0 < ({ maxAttempts := 1 } : CodeSettings).expirySeconds.toNat ∧
    InOrder sampleRun ∧
    (∀ u slot code, (u, .store slot code) ∈ sampleRun →
      ((0 : Nat) + u + ({ maxAttempts := 1 } : CodeSettings).lifetime : Int) ≤ lastInstant) ∧
    ((sharedCodes { maxAttempts := 1 } {} 0 (pure "")).history {} sampleRun).getLast?.map CodeEvent.answer =
      some (.verified (.error .tooManyAttempts)) := by
  have range : ∀ u slot code, (u, .store slot code) ∈ sampleRun →
      ((0 : Nat) + u + ({ maxAttempts := 1 } : CodeSettings).lifetime : Int) ≤ lastInstant := by
    intro u slot code h
    rw [sampleRun_store h]
    decide
  refine ⟨by decide, sampleRun_inOrder, range, ?_⟩
  have h := (shared_codes_guarded { maxAttempts := 1 } {} 0 (pure "") (by decide) (sampleRun.take 2) 2000
    (.verify .sample "123456") sampleRun_inOrder range).refused .sample "123456" ⟨.sample, 0, "123456", _⟩ rfl rfl
    (by decide) (by decide) (by decide)
  exact congrArg some h

end Keyspace

end Passcode
