/-
  Passcode.Proofs.Code.Redemption — a code that was delivered can be entered.

  A code service keeps codes in its store, and its sender works elsewhere, so a code stays where it was put
  whatever becomes of its message. From then on it is due to whoever enters it in time, unless it was
  matched or issued anew, its attempts were spent, or it was evicted (`Standing`). Calls for other
  recipients, failed attempts and stores that come too soon may come between, in any number.

  Proved: what a store makes of a code that it holds (`Redeems`), it makes of it after any such calls
  (`Redeems.after`); books and shared keyspaces do that (`book_redeems`, `shared_redeems`); so the code of every
  message that is handed to the sender is the one kept, and matches when it is entered
  (`delivered_code_redeemed`).
-/

import Passcode.Proofs.Code.Book
import Passcode.Proofs.Code.Delivery
import Passcode.Proofs.Code.Spelling
import Passcode.Proofs.Keyspace.Cooldown

namespace Passcode

variable {σ ρ : Type}

/-! ## A code that is kept -/

/-- What happened since a code was put into a slot, by calls up to an instant, leaves it due: it was neither
    matched nor issued anew, the store has not failed, and fewer attempts have missed than are left. -/
structure Standing (slot : CodeSlot) (attempts : Int) (last : Nat) (since : List CodeEvent) : Prop where
  inTime : ∀ e ∈ since, e.time ≤ last
  unmatched : ∀ e ∈ since, e.verdict? slot ≠ some .matched
  unissued : ∀ e ∈ since, e.issued? slot = none
  working : ∀ e ∈ since, e.call.slot = slot → ∀ why, e.answer ≠ .stored (.error (.system why))
  left : (since.countP fun e => e.verdict? slot = some .mismatch) < attempts

/-- What a store makes, up to an instant, of a code that it holds in a slot with some attempts left; `spares`
    says of a call for another slot that it leaves the code alone. -/
structure Redeems (store : CodeStore σ) (slot : CodeSlot) (code : String) (last : Nat) (holds : Int → σ → Prop)
    (spares : Nat → CodeCall → σ → Prop) : Prop where
  compared : ∀ n s t input, holds n s → 0 < n → t ≤ last →
    let r := (store.verify slot.scope slot.recipient input).run t s
    r.time = t ∧ if input = code then r.value = .ok .matched else r.value = .ok .mismatch ∧ holds (n - 1) r.state
  refused : ∀ n s t text, holds n s → t ≤ last →
    let r := (store.store slot.scope slot.recipient text).run t s
    r.value ≠ .ok () → (∀ why, r.value ≠ .error (.system why)) → holds n r.state
  spared : ∀ n s t call, holds n s → t ≤ last → call.slot ≠ slot → spares t call s →
    holds n ((store.perform call).run t s).state

section
variable {store : CodeStore σ} {slot : CodeSlot} {code : String} {last : Nat} {holds : Int → σ → Prop}
  {spares : Nat → CodeCall → σ → Prop} {attempts : Int} {e : CodeEvent} {since : List CodeEvent}

theorem CodeStore.run_verify (slot : CodeSlot) (input : String) (t : Nat) (s : σ) :
    (store.perform (.verify slot input)).run t s =
      let r := (store.verify slot.scope slot.recipient input).run t s
      ⟨r.time, r.state, .verified r.value⟩ := Task.run_map _ _ t s

theorem CodeStore.run_store (slot : CodeSlot) (text : String) (t : Nat) (s : σ) :
    (store.perform (.store slot text)).run t s =
      let r := (store.store slot.scope slot.recipient text).run t s
      ⟨r.time, r.state, .stored r.value⟩ := Task.run_map _ _ t s

theorem Standing.positive (h : Standing slot attempts last since) : 0 < attempts := by
  have hleft := h.left
  omega

theorem Standing.tail (h : Standing slot attempts last (e :: since)) : Standing slot attempts last since where
  inTime a ha := h.inTime a (List.mem_cons_of_mem _ ha)
  unmatched a ha := h.unmatched a (List.mem_cons_of_mem _ ha)
  unissued a ha := h.unissued a (List.mem_cons_of_mem _ ha)
  working a ha := h.working a (List.mem_cons_of_mem _ ha)
  left := by
    have hleft := h.left
    rw [List.countP_cons] at hleft
    omega

/-- A miss takes an attempt away, and is over. -/
theorem Standing.missed (h : Standing slot attempts last (e :: since)) (hmiss : e.verdict? slot = some .mismatch) :
    Standing slot (attempts - 1) last since where
  inTime := h.tail.inTime
  unmatched := h.tail.unmatched
  unissued := h.tail.unissued
  working := h.tail.working
  left := by
    have hleft := h.left
    rw [List.countP_cons, if_pos (decide_eq_true hmiss)] at hleft
    omega

theorem CodeEvent.verdict?_own {t : Nat} {input : String} {v : Verdict} :
    CodeEvent.verdict? slot ⟨t, .verify slot input, .verified (.ok v)⟩ = some v := if_pos rfl

theorem CodeEvent.issued?_own {t : Nat} {text : String} :
    CodeEvent.issued? slot ⟨t, .store slot text, .stored (.ok ())⟩ = some text := if_pos rfl

/-- One call. -/
theorem Redeems.step (h : Redeems store slot code last holds spares) {n : Int} {s : σ} (hs : holds n s) {t : Nat}
    {call : CodeCall} {since : List CodeEvent}
    (standing : Standing slot n last (⟨t, call, ((store.perform call).run t s).value⟩ :: since))
    (hspares : call.slot ≠ slot → spares t call s) :
    ∃ m, holds m ((store.perform call).run t s).state ∧ Standing slot m last since := by
  have htail := standing.tail
  have htime : t ≤ last := standing.inTime _ (List.mem_cons_self ..)
  by_cases hslot : call.slot = slot
  · cases call with
    | verify own input =>
      obtain rfl : own = slot := hslot
      obtain ⟨-, hanswer⟩ := h.compared n s t input hs standing.positive htime
      rw [store.run_verify] at standing ⊢
      dsimp only at standing ⊢
      -- a match would be in the history, so this is a miss
      by_cases hcode : input = code
      · rw [if_pos hcode] at hanswer
        have hmatched := standing.unmatched _ (List.mem_cons_self ..)
        rw [hanswer] at hmatched
        exact absurd CodeEvent.verdict?_own hmatched
      · rw [if_neg hcode] at hanswer
        obtain ⟨hmissed, hleft⟩ := hanswer
        rw [hmissed] at standing
        exact ⟨n - 1, hleft, standing.missed CodeEvent.verdict?_own⟩
    | store own text =>
      obtain rfl : own = slot := hslot
      rw [store.run_store] at standing ⊢
      dsimp only at standing ⊢
      have hunissued := standing.unissued _ (List.mem_cons_self ..)
      have hworking := standing.working _ (List.mem_cons_self ..) rfl
      refine ⟨n, h.refused n s t text hs htime (fun hok => ?_) fun why hwhy => ?_, htail⟩
      · rw [hok, CodeEvent.issued?_own] at hunissued
        cases hunissued
      · exact hworking why (congrArg CodeAnswer.stored hwhy)
  · exact ⟨n, h.spared n s t call hs htime hslot (hspares hslot), htail⟩

/-- Any number of calls. The number of attempts left goes along: it falls with each miss, and so do the misses that
    are to come. -/
theorem Redeems.after (h : Redeems store slot code last holds spares) {calls : List (Nat × CodeCall)} {n : Int} {s : σ}
    (hs : holds n s) (standing : Standing slot n last (store.history s calls))
    (hspares : ∀ front x back, calls = front ++ x :: back → x.2.slot ≠ slot → spares x.1 x.2 (store.after s front)) :
    ∃ m, 0 < m ∧ holds m (store.after s calls) := by
  induction calls generalizing n s with
  | nil => exact ⟨n, standing.positive, hs⟩
  | cons x calls ih =>
    obtain ⟨t, call⟩ := x
    obtain ⟨m, hm, hrest⟩ := h.step hs standing (hspares [] (t, call) calls rfl)
    exact ih hm hrest fun front y back hsplit => hspares ((t, call) :: front) y back (congrArg _ hsplit)

end

/-! ## Codes in a book -/

namespace CodeBook

variable {policy : Policy} {slot : CodeSlot} {code : String} {last expiresAt : Nat}

/-- A call drops the code of a slot, which was there. -/
def Evicts (policy : Policy) (slot : CodeSlot) (t : Nat) (call : CodeCall) (b : CodeBook) : Prop :=
  b.entries.get? slot.key ≠ none ∧ (((asStore policy).perform call).run t b).state.entries.get? slot.key = none

def Keeps (slot : CodeSlot) (code : String) (expiresAt : Nat) (attempts : Int) (b : CodeBook) : Prop :=
  b.entries.get? slot.key = some ⟨⟨code, attempts⟩, expiresAt⟩

theorem evict_get? (entries : Table String CodeEntry) (n : Nat) (key : String) :
    (evict entries n).get? key = none ∨ (evict entries n).get? key = entries.get? key := by
  induction n generalizing entries with
  | zero => exact Or.inr rfl
  | succ n ih =>
    unfold evict
    split
    · next e _ =>
      rcases ih (entries.erase e.1) with h | h
      · exact Or.inl h
      · rw [h]
        exact Table.get?_keep_or ..
    · exact Or.inr rfl

/-- Making room drops entries, and changes none. -/
theorem makeRoom_get? (policy : Policy) (t : Nat) (key : String) (entries : Table String CodeEntry) (key' : String) :
    (makeRoom policy t key entries).get? key' = none ∨
      (makeRoom policy t key entries).get? key' = entries.get? key' := by
  unfold makeRoom
  split
  · exact Or.inr rfl
  · rcases evict_get? (entries.keep fun _ e => t < e.expiresAt) _ key' with h | h
    · exact Or.inl h
    · rw [h]
      exact Table.get?_keep_or ..

/-- A store leaves every other entry as it is, or drops it. -/
theorem store_other (policy : Policy) (t : Nat) {key key' : String} (h : key' ≠ key) (text : String) (b : CodeBook) :
    (b.store policy t key text).2.entries.get? key' = none ∨
      (b.store policy t key text).2.entries.get? key' = b.entries.get? key' := by
  unfold store
  split
  · exact Or.inr rfl
  · have hinsert : ((makeRoom policy t key b.entries).insert key
        ⟨⟨text, policy.maxAttempts⟩, t + policy.lifetime⟩).get? key' =
        (makeRoom policy t key b.entries).get? key' := (Table.get?_insert ..).trans (if_neg h)
    dsimp only
    rw [hinsert]
    exact makeRoom_get? policy t key b.entries key'

/-- A store that is accepted keeps the code, whatever the book held before. -/
theorem keeps_of_stored {t : Nat} {b : CodeBook} (h : (b.store policy t slot.key code).1 = .ok ()) :
    (b.store policy t slot.key code).2.Keeps slot code (t + policy.lifetime) policy.maxAttempts := by
  unfold store at h ⊢
  split at h
  · cases h
  · next hstale =>
    rw [if_neg hstale]
    exact Table.get?_insert_self ..

theorem book_redeems (policy : Policy) (slot : CodeSlot) (code : String) (h : last < expiresAt) :
    Redeems (asStore policy) slot code last (Keeps slot code expiresAt)
      fun t call b => ¬ Evicts policy slot t call b where
  compared n b t input hb hn ht := by
    refine ⟨rfl, ?_⟩
    show if input = code then (b.verify t slot.key input).1 = .ok .matched
      else (b.verify t slot.key input).1 = .ok .mismatch ∧
        Keeps slot code expiresAt (n - 1) (b.verify t slot.key input).2
    have hentry : b.entries.get? slot.key = some ⟨⟨code, n⟩, expiresAt⟩ := hb
    have hlive : ¬ expiresAt ≤ t := by omega
    have hleft : ¬ n ≤ 0 := by omega
    unfold verify
    simp only [hentry, hlive, CodeRecord.attempt, hleft, if_false]
    by_cases hcode : input = code
    · simp [hcode]
    · simp [hcode, Ne.symm hcode, Keeps]
  refused n b t text hb ht := by
    intro r hrefused _
    have hsame : (b.store policy t slot.key text).2 = b := by
      have hrefused : (b.store policy t slot.key text).1 ≠ .ok () := hrefused
      unfold store at hrefused ⊢
      split at hrefused
      · next hfresh => rw [if_pos hfresh]
      · exact absurd rfl hrefused
    show (b.store policy t slot.key text).2.Keeps slot code expiresAt n
    rw [hsame]
    exact hb
  spared n b t call hb ht hslot hspared := by
    have hne : slot.key ≠ call.slot.key := fun hkey => hslot (CodeSlot.key_inj hkey).symm
    have hentry : b.entries.get? slot.key = some ⟨⟨code, n⟩, expiresAt⟩ := hb
    have hthere : (((asStore policy).perform call).run t b).state.entries.get? slot.key ≠ none := fun hgone =>
      hspared ⟨by rw [hentry]; exact Option.some_ne_none _, hgone⟩
    cases call with
    | store other text => exact ((store_other policy t hne text b).resolve_left hthere).trans hentry
    | verify other input => exact (verify_other t hne input b).trans hentry

end CodeBook

/-! ## Codes in a shared keyspace -/

namespace Keyspace

variable {c : CodeSettings} {settings : CacheSettings} {epoch : Nat} {member : Task Keyspace String} {slot : CodeSlot}
  {code : String} {last expiresAt : Nat}

def KeepsCode (settings : CacheSettings) (epoch : Nat) (slot : CodeSlot) (code : String) (expiresAt : Nat)
    (attempts : Int) (k : Keyspace) : Prop :=
  attempts ≤ Int64.maxValue.toInt ∧ ∃ held, k.holdings.get? (settings.key slot.key) = some held ∧
    HoldsCode held code attempts (epoch + expiresAt)

/-- A store that is accepted keeps the code, whatever the keyspace held before. -/
theorem keepsCode_of_stored (positive : 0 < c.expirySeconds.toNat) {t : Nat} {k : Keyspace}
    (h : (((sharedCodes c settings epoch member).store slot.scope slot.recipient code).run t k).value = .ok ()) :
    KeepsCode settings epoch slot code (t + c.lifetime) c.maxAttempts.toInt
      (((sharedCodes c settings epoch member).store slot.scope slot.recipient code).run t k).state := by
  rw [store_run] at h ⊢
  obtain ⟨-, -, hstate⟩ := issue_accepted _ _ _ _ _ _ k (by omega) (reply_of_issued h)
  have hlifetime : (epoch : Int) + (t + c.lifetime : Nat) = epoch + t + c.expirySeconds.toNat * 1000 := by
    simp only [CodeSettings.lifetime]
    omega
  have hheld : (issueScript (epoch + t) (settings.key (codeKey slot.scope slot.recipient)) code c.maxAttempts.toInt
      c.expirySeconds.toNat c.reissueThreshold k).2.holdings.get? (settings.key slot.key) =
      some ⟨.hash (issuedFields code c.maxAttempts.toInt), some (epoch + t + c.expirySeconds.toNat * 1000)⟩ := by
    rw [hstate, if_neg (by omega)]
    exact Table.get?_insert_self ..
  rw [← scriptReply_state] at hheld
  refine ⟨c.maxAttempts.toInt_le, _, hheld, ?_⟩
  rw [hlifetime]
  exact holdsCode_issued ..

/-- A store that is refused, without a failure, changes nothing. -/
theorem issue_refused {now : Int} {key text : String} {attempts : Int} {expiry threshold : Nat} {k : Keyspace}
    (hn : 0 ≤ now) (hrefused : Client.issued (Client.reading Reply.number?
      (scriptReply (issueScript now key text attempts expiry threshold k)).1) ≠ .ok ())
    (hworking : ∀ why, Client.issued (Client.reading Reply.number?
      (scriptReply (issueScript now key text attempts expiry threshold k)).1) ≠ .error (.system why)) :
    (issueScript now key text attempts expiry threshold k).2 = k := by
  rw [issue_eq _ _ _ _ _ _ k hn] at hrefused hworking ⊢
  -- the script may write before it fails, so the failures are told apart from the refusal
  by_cases hbare : k.ttl now key = -1
  · rw [if_pos hbare] at hworking
    exact absurd rfl (hworking _)
  · simp only [hbare, if_false] at hrefused hworking ⊢
    by_cases hfresh : (threshold : Int) < k.ttl now key
    · rw [if_pos hfresh]
    · simp only [hfresh, if_false] at hrefused hworking ⊢
      by_cases hrange : lastInstant < now + expiry * 1000
      · rw [if_pos hrange] at hworking
        exact absurd rfl (hworking _)
      · rw [if_neg hrange] at hrefused
        exact absurd rfl hrefused

theorem shared_redeems (c : CodeSettings) (settings : CacheSettings) (epoch : Nat) (member : Task Keyspace String)
    (slot : CodeSlot) (code : String) (h : last ≤ expiresAt) :
    Redeems (sharedCodes c settings epoch member) slot code last (KeepsCode settings epoch slot code expiresAt)
      fun _ _ _ => True where
  compared n k t input hk hn ht := by
    obtain ⟨hmax, held, hheld, hcode⟩ := hk
    have hlive : Live (epoch + t) held := by
      intro e he
      rw [hcode.expiry] at he
      cases he
      omega
    have hg : k.get? (epoch + t) (settings.key slot.key) = some held := by simp [get?, hheld, Option.filter, hlive]
    obtain ⟨held', hcode', hrun⟩ := verify_compare _ _ input k hg hcode hn hmax
    refine ⟨rfl, ?_⟩
    rw [verify_run]
    show if input = code then Client.verified (Client.reading Reply.number? (scriptReply
        (verifyScript (epoch + t) (settings.key slot.key) input k)).1) = .ok .matched
      else Client.verified (Client.reading Reply.number? (scriptReply
          (verifyScript (epoch + t) (settings.key slot.key) input k)).1) = .ok .mismatch ∧
        KeepsCode settings epoch slot code expiresAt (n - 1)
          (scriptReply (verifyScript (epoch + t) (settings.key slot.key) input k)).2
    rw [hrun]
    by_cases hsame : input = code
    · rw [if_pos hsame, if_pos hsame.symm]
      rfl
    · rw [if_neg hsame, if_neg (Ne.symm hsame)]
      exact ⟨rfl, by omega, held', Table.get?_insert_self .., hcode'⟩
  refused n k t text hk ht := by
    intro r hrefused hworking
    have hsame : r.state = k := by
      show (scriptReply _).2 = k
      rw [scriptReply_state]
      exact issue_refused (by omega) hrefused hworking
    rw [hsame]
    exact hk
  spared n k t call hk ht hslot _ := by
    obtain ⟨hmax, held, hheld, hcode⟩ := hk
    have hne : settings.key slot.key ≠ settings.key call.slot.key := fun hkey =>
      hslot (CodeSlot.key_inj (settings.key_inj hkey)).symm
    exact ⟨hmax, held, (perform_other t call k _ hne).trans hheld, hcode⟩

end Keyspace

/-! ## Services -/

namespace CodeService

/-- A service whose sender does not see the codes. -/
def beside (store : CodeStore σ) (sender : Sender ρ) (settings : CodeServiceSettings) : CodeService (σ × ρ) where
  store := store.focus Prod.fst fun s p => (s, p.2)
  sender ctx message := (sender ctx message).focus Prod.snd fun r p => (p.1, r)
  settings

theorem fst_isPart : Task.IsPart (Prod.fst : σ × ρ → σ) fun s p => (s, p.2) :=
  ⟨fun _ _ => rfl, fun _ _ _ => rfl, fun _ => rfl⟩

theorem snd_isPart : Task.IsPart (Prod.snd : σ × ρ → ρ) fun r p => (p.1, r) :=
  ⟨fun _ _ => rfl, fun _ _ _ => rfl, fun _ => rfl⟩

section
variable {store : CodeStore σ} {sender : Sender ρ} {settings : CodeServiceSettings} {fresh : Entropy} {ctx : Context}
  {scope text recipient : String} {t : Nat} {s : σ} {r : ρ}

/-- When the sender is called, the store has accepted the code, and is left as it was then. -/
theorem beside_send
    (h : reaches (((beside store sender settings).send fresh ctx scope text).run t (s, r)).value = true) :
    ∃ recipient, check scope text = .ok recipient ∧
      let kept := (store.store scope recipient (fresh.code settings.codeLength)).run t s
      kept.value = .ok () ∧
        (((beside store sender settings).send fresh ctx scope text).run t (s, r)).state.1 = kept.state := by
  cases hcheck : check scope text with
  | error fault =>
    obtain ⟨why, rfl⟩ := check_error hcheck
    rw [send_invalid _ hcheck] at h
    cases h
  | ok recipient =>
    have hasked : (ctx.run ((beside store sender settings).store.store scope recipient
          (fresh.code settings.codeLength))).run t (s, r) =
        let a := (ctx.run (store.store scope recipient (fresh.code settings.codeLength))).run t s
        ⟨a.time, (a.state, r), a.value⟩ := Task.run_context_focus fst_isPart ctx _ t (s, r)
    -- only an answer of the store that came in time, and accepts the code, leads to the sender
    obtain ⟨t', s', o, ha⟩ : ∃ t' s' o, (ctx.run (store.store scope recipient
      (fresh.code settings.codeLength))).run t s = ⟨t', s', o⟩ := ⟨_, _, _, rfl⟩
    rw [ha] at hasked
    rw [send_run _ hcheck] at h ⊢
    simp only [show (beside store sender settings).settings = settings from rfl, hasked] at h ⊢
    rcases o with _ | fault | ⟨⟩
    · cases h
    · cases h
    · obtain ⟨hkept, hstate⟩ := Context.run_eq_some (congrArg Task.End.value ha)
      refine ⟨recipient, rfl, hkept, ?_⟩
      have hsent : ((beside store sender settings).sender ctx ((beside store sender settings).message recipient
            (fresh.code settings.codeLength))).run t' (s', r) = _ := Task.run_focus snd_isPart _ t' _
      show (((beside store sender settings).sender ctx _).run t' (s', r)).state.1 = _
      rw [hsent, hstate, ha]

/-- What the store answers at once, the service answers unless the deadline has come. -/
theorem beside_verify (hcheck : check scope text = .ok recipient) (hlive : ctx.isExpired t = false) {input : String}
    (hinstant : ((store.verify scope recipient input).run t s).time = t) :
    (((beside store sender settings).verify ctx scope text input).run t (s, r)).value =
      ((store.verify scope recipient input).run t s).value.mapError .code := by
  have hintime : ((ctx.run (store.verify scope recipient input)).run t s).value =
      some ((store.verify scope recipient input).run t s).value := by
    refine Context.run_in_time fun deadline hd => ?_
    have hlater : t < deadline := by simpa [Context.isExpired, Option.mem_def.mp hd] using hlive
    exact ⟨hlater, by omega⟩
  have hasked : ((ctx.run ((beside store sender settings).store.verify scope recipient input)).run t (s, r)).value =
      ((ctx.run (store.verify scope recipient input)).run t s).value :=
    congrArg Task.End.value (Task.run_context_focus fst_isPart ctx _ t (s, r))
  simp only [verify, hcheck, Task.run_map, hasked, hintime]
  rfl

end

/-- A code that a service has handed to its sender is in its store, whatever the sender answers, and matches when it
    is entered within its lifetime, for any spelling of the recipient, unless what happened in the meantime has
    used it up. -/
def Redeemable (store : CodeStore σ) (lifetime : Nat) (attempts : Int)
    (spares : CodeSlot → Nat → CodeCall → σ → Prop) : Prop :=
  ∀ (ρ : Type) (sender : Sender ρ) (settings : CodeServiceSettings) (fresh : Entropy) (ctx : Context)
    (scope text : String) (t : Nat) (s : σ) (r : ρ),
    let service := beside store sender settings
    let code := fresh.code settings.codeLength
    let e := (service.send fresh ctx scope text).run t (s, r)
    reaches e.value = true → ∃ slot : CodeSlot, slot.scope = scope ∧ slot.recipient = Phone.normalize text ∧
      ((store.store slot.scope slot.recipient code).run t s).value = .ok () ∧
      e.state.1 = ((store.store slot.scope slot.recipient code).run t s).state ∧
      ∀ (calls : List (Nat × CodeCall)) (u : Nat) (ctx' : Context) (text' : String) (r' : ρ), t ≤ u → u < t + lifetime →
        Standing slot attempts u (store.history e.state.1 calls) →
        (∀ front x back, calls = front ++ x :: back → x.2.slot ≠ slot →
          spares slot x.1 x.2 (store.after e.state.1 front)) →
        ctx'.isExpired u = false → Phone.normalize text' = Phone.normalize text →
        ((service.verify ctx' scope text' code).run u (store.after e.state.1 calls, r')).value = .ok .matched

/-- The store keeps the code up to the end of its lifetime, and the service compares it with what is entered for the
    normal form that it was kept for. -/
theorem redeemable_of_redeems {store : CodeStore σ} {lifetime : Nat} {attempts : Int}
    {spares : CodeSlot → Nat → CodeCall → σ → Prop} (holds : CodeSlot → String → Nat → Int → σ → Prop)
    (hstored : 0 < lifetime → ∀ (slot : CodeSlot) code t s,
      ((store.store slot.scope slot.recipient code).run t s).value = .ok () →
        holds slot code (t + lifetime) attempts ((store.store slot.scope slot.recipient code).run t s).state)
    (hredeems : ∀ slot code last expiresAt, last < expiresAt →
      Redeems store slot code last (holds slot code expiresAt) (spares slot)) :
    Redeemable store lifetime attempts spares := by
  intro ρ sender settings fresh ctx scope text t s r service code e hreached
  obtain ⟨recipient, hcheck, hkept, hstate⟩ := beside_send hreached
  obtain ⟨hscope, hvalid, rfl⟩ := check_eq_ok.mp hcheck
  refine ⟨⟨scope, Phone.normalize text, text, hcheck⟩, rfl, rfl, hkept, hstate, ?_⟩
  intro calls u ctx' text' r' hlater hinside standing hspares hlive hspelled
  have hkeeps : holds ⟨scope, Phone.normalize text, text, hcheck⟩ code (t + lifetime) attempts e.state.1 :=
    hstate ▸ hstored (by omega) ⟨scope, Phone.normalize text, text, hcheck⟩ code t s hkept
  have hstore := hredeems ⟨scope, Phone.normalize text, text, hcheck⟩ code u (t + lifetime) hinside
  obtain ⟨m, hm, hthere⟩ := hstore.after hkeeps standing hspares
  obtain ⟨hinstant, hmatched⟩ := hstore.compared m _ u code hthere hm (Nat.le_refl u)
  have hcheck' : check scope text' = .ok (Phone.normalize text) :=
    check_eq_ok.mpr ⟨hscope, by rw [← Phone.isAddressable_normalize, hspelled, Phone.isAddressable_normalize, hvalid],
      hspelled.symm⟩
  rw [if_pos rfl] at hmatched
  rw [beside_verify hcheck' hlive hinstant]
  exact congrArg (Except.mapError Fault.code) hmatched

end CodeService

/-- For every store and every sender, a send makes a code of so many digits, and what store and sender notice of
    the send keeps to the order: the store first, and the sender once it has accepted. With a book and with a shared
    keyspace the code of a message that was handed to the sender can be redeemed, whatever the sender answered. -/
theorem delivered_code_redeemed :
    (∀ (σ : Type) (service : CodeService σ) (fresh : Entropy) (ctx : Context) (scope text : String) (t : Nat) (s : σ),
      let code := fresh.code service.settings.codeLength
      let e := (service.send fresh ctx scope text).run t s
      (code.length = service.settings.codeLength ∧ ∀ c ∈ code.toList, Text.isDigit c = true) ∧
      ∃ log, (service.noted.send fresh ctx scope text).run t ⟨s, []⟩ = ⟨e.time, ⟨e.state, log⟩, e.value⟩ ∧
        service.Ordered code ctx scope text t s log e.value) ∧
    (∀ c : CodeSettings, CodeService.Redeemable (CodeBook.asStore (.ofSettings c)) c.lifetime c.maxAttempts.toInt
      fun slot t call b => ¬ CodeBook.Evicts (.ofSettings c) slot t call b) ∧
    ∀ (c : CodeSettings) (settings : CacheSettings) (epoch : Nat) (member : Task Keyspace String),
      CodeService.Redeemable (Keyspace.sharedCodes c settings epoch member) c.lifetime c.maxAttempts.toInt
        fun _ _ _ _ => True := by
  refine ⟨fun σ service fresh ctx scope text t s => ⟨⟨fresh.length_code _, fun c => fresh.isDigit_of_mem_code⟩, ?_⟩,
    fun c => ?_, fun c settings epoch member => ?_⟩
  · obtain ⟨log, hrun, hcourse⟩ := service.noted_run fresh ctx scope text t s
    exact ⟨log, hrun, hcourse.ordered⟩
  · refine CodeService.redeemable_of_redeems CodeBook.Keeps (fun _ slot code t b hok => ?_) ?_
    · exact CodeBook.keeps_of_stored hok
    · exact fun slot code last expiresAt h => CodeBook.book_redeems _ slot code h
  · refine CodeService.redeemable_of_redeems (Keyspace.KeepsCode settings epoch) (fun hpos slot code t k hok => ?_) ?_
    · exact Keyspace.keepsCode_of_stored (by simp only [CodeSettings.lifetime] at hpos; omega) hok
    · exact fun slot code last expiresAt h => Keyspace.shared_redeems c settings epoch member slot code (Nat.le_of_lt h)

/-! ### A code whose message was lost -/

namespace CodeService

/-- A service with codes in the process, and a provider that fails. -/
def lossyService : CodeService (CodeBook × Unit) :=
  beside (CodeBook.asStore (.ofSettings {})) (fun _ _ => return .error (.provider "a" "down")) {}

/-- A wrong guess, another code asked for too soon, and a code for another recipient. -/
def interim : List (Nat × CodeCall) :=
  [(1000, .verify .sample "999999"), (2000, .store .sample "111111"),
    (3000, .store ⟨"login", "+15550101", "+15550101", by decide +kernel⟩ "222222")]

end CodeService

theorem delivered_code_redeemed_sample :
    let sent := (CodeService.lossyService.send ⟨fun _ => 0⟩ .unbounded "login" "+1 555 0100").run 0 ({}, ())
    let later := (CodeBook.asStore (.ofSettings {})).after sent.state.1 CodeService.interim
    sent.value = .error (.send (.provider "a" "down")) ∧
    ((CodeService.lossyService.verify (.bounded 6000) "login" "+1-555-0100" "000000").run 5000 (later, ())).value =
      .ok .matched := by
  intro sent later
  have hsent : sent.value = .error (.send (.provider "a" "down")) := by decide +kernel
  obtain ⟨slot, hscope, hrecipient, -, -, hredeemed⟩ := delivered_code_redeemed.2.1 {} Unit
    (fun _ _ => return .error (.provider "a" "down")) {} ⟨fun _ => 0⟩ .unbounded "login" "+1 555 0100" 0 {} ()
    (congrArg CodeService.reaches hsent)
  obtain rfl : slot = .sample := by
    obtain ⟨scope, recipient, hchecked⟩ := slot
    obtain rfl : scope = "login" := hscope
    obtain rfl : recipient = "+15550100" := hrecipient.trans (by decide +kernel)
    rfl
  have hanswers : ∀ e ∈ (CodeBook.asStore (.ofSettings {})).history sent.state.1 CodeService.interim,
      e.answer = .verified (.ok .mismatch) ∨ e.answer = .stored (.error .tooFrequent) ∨
        e.answer = .stored (.ok ()) := by
    decide +kernel
  have standing : Standing .sample ({} : CodeSettings).maxAttempts.toInt 5000
      ((CodeBook.asStore (.ofSettings {})).history sent.state.1 CodeService.interim) := by
    refine ⟨by decide +kernel, by decide +kernel, by decide +kernel, fun e he _ why hwhy => ?_, by decide +kernel⟩
    rcases hanswers e he with h | h | h <;> rw [h] at hwhy <;> cases hwhy
  refine ⟨hsent, hredeemed CodeService.interim 5000 (.bounded 6000) "+1-555-0100" () (by decide) (by decide +kernel)
    standing (fun front x back hsplit hother => ?_) (by decide) (by decide +kernel)⟩
  rcases front with _ | ⟨_, _ | ⟨_, _ | ⟨_, front⟩⟩⟩
  · cases hsplit
    exact absurd rfl hother
  · cases hsplit
    exact absurd rfl hother
  · cases hsplit
    intro hevicted
    exact absurd hevicted.2 (by decide +kernel)
  · cases front <;> cases hsplit

end Passcode
