/-
  Passcode.Proofs.Keyspace.Atomic — a call of a shared code store does what its answer says, or nothing.

  A script does not take back what it did before the command that fails, and a key may hold anything: a
  value of another kind, a hash without a code, attempts that are no number, a code without an expiry. But
  the verify script refuses all of that before its first change, and the issue script removes it; the
  one command that may still fail then is the one that sets the expiry, and it does not fail as long as
  the server can represent the end of the lifetime.

  A script is sent once: when its reply is lost the caller hears of an error, and the server may have run
  the script. That is the one error which may leave something done (`lost_replies_leave_changes`).

  Proved, for every keyspace and every fate of a call on its way: what a store and a verify answer goes
  with what they did (`StoreEffect`, `VerifyEffect`), or their answer is lost and they did what goes with
  it; and every other key stays as it was (`codes_atomic`).
-/

import Passcode.Proofs.Keyspace.Codes
import Passcode.Proofs.Keyspace.Site

namespace Passcode.Keyspace

/-! ## Effects -/

/-- What a store that is answered in some way does to the keyspace. -/
structure StoreEffect (c : CodeSettings) (now : Int) (key code : String) (k k' : Keyspace)
    (answer : Except CodeFault Unit) : Prop where
  failed : ∀ e, answer = .error e → k' = k
  /-- The key holds the code and the attempts, and nothing else, and expires after the lifetime. -/
  stored : answer = .ok () → ∃ fields : Table String String,
    fields.entries = [("code", code), ("attempts", toString c.maxAttempts.toInt)] ∧
    k' = k.put key ⟨.hash fields, some (now + c.expirySeconds.toNat * 1000)⟩
  others : OnlyAt key k k'

theorem StoreEffect.unchanged {c : CodeSettings} {now : Int} {key code : String} {k : Keyspace} (e : CodeFault) :
    StoreEffect c now key code k k (.error e) where
  failed _ _ := rfl
  stored h := nomatch h
  others := onlyAt_refl key k

/-- A key that holds a hash with a positive number of attempts. -/
structure Spendable (k : Keyspace) (now : Int) (key : String) (fields : Table String String) (expiry : Option Int)
    (n : Int) : Prop where
  held : k.get? now key = some ⟨.hash fields, expiry⟩
  attempts : fields.get? "attempts" = some (toString n)
  positive : 0 < n

/-- What a verify that is answered in some way does to the keyspace. -/
structure VerifyEffect (now : Int) (key input : String) (k k' : Keyspace) (answer : Except CodeFault Verdict) :
    Prop where
  failed : ∀ e, answer = .error e → k' = k
  /-- One attempt less; the other fields and the expiry stay. -/
  mismatch : answer = .ok .mismatch → ∃ fields expiry n, Spendable k now key fields expiry n ∧
    fields.get? "code" ≠ some input ∧
    k' = k.put key ⟨.hash (fields.insert "attempts" (toString (n - 1))), expiry⟩
  matched : answer = .ok .matched → ∃ fields expiry n, Spendable k now key fields expiry n ∧
    fields.get? "code" = some input ∧ k' = k.delete key
  others : OnlyAt key k k'

theorem VerifyEffect.unchanged {now : Int} {key input : String} {k : Keyspace} (e : CodeFault) :
    VerifyEffect now key input k k (.error e) where
  failed _ _ := rfl
  mismatch h := nomatch h
  matched h := nomatch h
  others := onlyAt_refl key k

/-! ## On the server -/

section Served

variable {c : CodeSettings} {now : Int} {k : Keyspace} {key : String}

/-- A store decides before it writes, and what it writes expires when the server can represent that. -/
theorem serve_issue (code : String) (past : 0 ≤ now) (positive : 0 < c.expirySeconds.toNat)
    (range : now + c.expirySeconds.toNat * 1000 ≤ lastInstant) :
    let r := k.serve now (.issue key code c.maxAttempts.toInt c.expirySeconds.toNat c.reissueThreshold)
    StoreEffect c now key code k r.2 (Client.issued (Client.reading Reply.number? r.1)) := by
  have hrange : ¬ lastInstant < now + c.expirySeconds.toNat * 1000 := by omega
  rw [serve, issue_eq _ _ _ _ _ _ k past]
  by_cases hbare : k.ttl now key = -1
  · rw [if_pos hbare]
    exact .unchanged _
  · rw [if_neg hbare]
    by_cases hfresh : (c.reissueThreshold : Int) < k.ttl now key
    · rw [if_pos hfresh]
      exact .unchanged _
    · rw [if_neg hfresh, if_neg hrange, if_neg (by omega)]
      refine ⟨?_, ?_, onlyAt_put key k _⟩
      · intro e he
        cases he
      · intro _
        exact ⟨issuedFields code c.maxAttempts.toInt, rfl, rfl⟩

/-- A reply of the verify script other than 0 and -2 is an error to the caller. -/
theorem verified_refused (k : Keyspace) {r : Except CommandFault Int} (h0 : r ≠ .ok 0) (h2 : r ≠ .ok (-2)) :
    ∃ e, Client.verified (Client.reading Reply.number? (scriptReply (r, k)).1) = .error e := by
  cases r with
  | error e => exact ⟨_, rfl⟩
  | ok i =>
    have h0 : i ≠ 0 := by simpa using h0
    have h2 : i ≠ -2 := by simpa using h2
    show ∃ e, Client.verified (.ok i) = .error e
    simp only [Client.verified, h0, h2, if_false]
    split
    · exact ⟨_, rfl⟩
    · split
      · exact ⟨_, rfl⟩
      · exact ⟨_, rfl⟩

theorem serve_verify (now : Int) (k : Keyspace) (key input : String) :
    let r := k.serve now (.verify key input)
    VerifyEffect now key input k r.2 (Client.verified (Client.reading Reply.number? r.1)) := by
  rw [serve]
  rcases verify_cases now key input k with ⟨r, hrun, h0, h2⟩ | ⟨fields, expiry, n, hg, ha, hn, hrun⟩
  · obtain ⟨e, he⟩ := verified_refused k h0 h2
    have hstate : (scriptReply (r, k)).2 = k := scriptReply_state (r, k)
    rw [hrun]
    dsimp only
    rw [he, hstate]
    exact .unchanged e
  · have hspend : Spendable k now key fields expiry n := ⟨hg, ha, hn⟩
    rw [hrun]
    by_cases hcode : fields.get? "code" = some input
    · rw [if_pos hcode]
      refine ⟨?_, ?_, fun _ => ⟨fields, expiry, n, hspend, hcode, rfl⟩, onlyAt_delete key k⟩
      · intro e he
        cases he
      · intro hv
        cases hv
    · rw [if_neg hcode]
      refine ⟨?_, fun _ => ⟨fields, expiry, n, hspend, hcode, rfl⟩, ?_, onlyAt_put key k _⟩
      · intro e he
        cases he
      · intro hv
        cases hv

end Served

/-! ## On their way -/

/-- What a call did that fared in some way: what goes with its answer; or the answer was lost of a request that the
    server ran, and it did what goes with that. -/
structure Carried {α : Type} (fate : Fate) (effect : Keyspace → Except CodeFault α → Prop) (k' : Keyspace)
    (answer : Except CodeFault α) : Prop where
  heard : (∀ mishap, fate ≠ .failed true mishap) → effect k' answer
  unheard : ∀ mishap, fate = .failed true mishap →
    answer = .error BackendFault.cache.toCodeFault ∧ ∃ lost, effect k' lost

/-- A script that is answered with a number, and whose failure leaves nothing done when it is not run. -/
theorem carried {α : Type} {effect : Keyspace → Except CodeFault α → Prop} {s : Site} {t : Nat} {r : Request}
    (read : Except BackendFault Int → Except CodeFault α)
    (hserved : effect (s.keyspace.serve (s.clock t) r).2
      (read (Client.reading Reply.number? (s.keyspace.serve (s.clock t) r).1)))
    (hlost : read (.error .cache) = .error BackendFault.cache.toCodeFault)
    (hnone : effect s.keyspace (.error BackendFault.cache.toCodeFault)) (p : Passage) :
    Carried p.fate effect (s.serve t p r).2.keyspace (read (Client.reading Reply.number? (s.serve t p r).1)) := by
  have hmishap : ∀ mishap : Mishap, Client.reading Reply.number? mishap.reply = .error .cache := by
    intro mishap
    cases mishap <;> rfl
  cases hf : p.fate with
  | answered =>
    rw [Site.serve_of_answered hf]
    exact ⟨fun _ => hserved, fun _ h => nomatch h⟩
  | failed wasServed mishap =>
    rw [Site.serve_of_failed hf]
    dsimp only
    rw [hmishap, hlost]
    cases wasServed with
    | false => exact ⟨fun _ => hnone, fun _ h => nomatch h⟩
    | true => exact ⟨fun h => absurd rfl (h mishap), fun _ _ => ⟨rfl, _, hserved⟩⟩

section

variable (c : CodeSettings) (settings : CacheSettings) (t : Nat) (s : Site) (scope recipient : String)

/-- For every keyspace, whatever its keys hold, every policy with a lifetime between a second and 10^12 seconds, every
    scope, recipient and text, and however the call fares on its way: a store and a verify do to their own key
    what they answer, and nothing when they fail, and no other key changes; unless the answer is lost of a
    request that the server ran, which is an error to the caller, while what goes with the answer has been
    done. The server's clock is taken to be at least 10^15 milliseconds before the last instant that it can
    represent. -/
theorem codes_atomic (text : String) (positive : 1 ≤ c.expirySeconds.toNat)
    (bounded : c.expirySeconds.toNat ≤ 1000000000000) :
    let key := settings.key (codeKey scope recipient)
    let p := s.passages.headD {}
    let now := s.clock (t + p.out)
    let store := (((Site.client settings).codeStore c).store scope recipient text).run t s
    let verify := (((Site.client settings).codeStore c).verify scope recipient text).run t s
    0 ≤ now → now + 1000000000000000 ≤ lastInstant →
    Carried p.fate (StoreEffect c now key text s.keyspace) store.state.keyspace store.value ∧
      Carried p.fate (VerifyEffect now key text s.keyspace) verify.state.keyspace verify.value := by
  intro key p now store verify past clock
  have range : now + c.expirySeconds.toNat * 1000 ≤ lastInstant := by omega
  constructor
  · exact carried (s := { s with passages := s.passages.tail }) Client.issued
      (serve_issue text past positive range) rfl (.unchanged _) p
  · exact carried (s := { s with passages := s.passages.tail }) Client.verified (serve_verify now s.keyspace key text)
      rfl (.unchanged _) p

end

/-! ### One code -/

/-- A code without an expiry, as no store leaves one. -/
def bareKeyspace : Keyspace := Keyspace.put {} "phone_code:login:+15550100" ⟨.hash (issuedFields "123456" 2), none⟩

/-- A server at an instant, and how the next request fares. -/
def sampleSite (k : Keyspace) (p : Passage) : Site := ⟨fun _ => 1700000000000, k, [p]⟩

def sampleStore (k : Keyspace) (p : Passage) (code : String) : Task.End Site (Except CodeFault Unit) :=
  (((Site.client {}).codeStore {}).store "login" "+15550100" code).run 0 (sampleSite k p)

def sampleVerify (k : Keyspace) (p : Passage) (input : String) : Task.End Site (Except CodeFault Verdict) :=
  (((Site.client {}).codeStore {}).verify "login" "+15550100" input).run 0 (sampleSite k p)

/-- A code is stored, missed and matched; one without an expiry refuses to be replaced, and stays; and one is stored
    though its caller hears of an error. -/
theorem codes_atomic_sample :
    let key := "phone_code:login:+15550100"
    let store := sampleStore {} {} "123456"
    let missed := sampleVerify store.state.keyspace {} "654321"
    let matched := sampleVerify missed.state.keyspace {} "123456"
    let refused := sampleStore bareKeyspace {} "654321"
    let lost := sampleStore {} { fate := .failed true .lost } "123456"
    1 ≤ ({} : CodeSettings).expirySeconds.toNat ∧ ({} : CodeSettings).expirySeconds.toNat ≤ 1000000000000 ∧
    (0 : Int) ≤ 1700000000000 ∧ (1700000000000 + 1000000000000000 : Int) ≤ lastInstant ∧
    (store.value = .ok () ∧ StoreEffect {} 1700000000000 key "123456" {} store.state.keyspace (.ok ())) ∧
    (missed.value = .ok .mismatch ∧
      VerifyEffect 1700000000000 key "654321" store.state.keyspace missed.state.keyspace (.ok .mismatch)) ∧
    (matched.value = .ok .matched ∧
      VerifyEffect 1700000000000 key "123456" missed.state.keyspace matched.state.keyspace (.ok .matched)) ∧
    (refused.value = .error (.system "verification code record has no expiry") ∧
      refused.state.keyspace = bareKeyspace) ∧
    lost.value = .error BackendFault.cache.toCodeFault ∧
      ∃ answer, StoreEffect {} 1700000000000 key "123456" {} lost.state.keyspace answer := by
  intro key store missed matched refused lost
  have positive : 1 ≤ ({} : CodeSettings).expirySeconds.toNat := by decide
  have bounded : ({} : CodeSettings).expirySeconds.toNat ≤ 1000000000000 := by decide
  have past : (0 : Int) ≤ 1700000000000 := by decide
  have clock : (1700000000000 + 1000000000000000 : Int) ≤ lastInstant := by decide
  have answered : ∀ mishap, ({} : Passage).fate ≠ .failed true mishap := fun _ h => nomatch h
  have stores : ∀ k p code, Carried p.fate (StoreEffect {} 1700000000000 key code k)
      (sampleStore k p code).state.keyspace (sampleStore k p code).value := fun k p code =>
    (codes_atomic {} {} 0 (sampleSite k p) "login" "+15550100" code positive bounded past clock).1
  have verifies : ∀ k p input, Carried p.fate (VerifyEffect 1700000000000 key input k)
      (sampleVerify k p input).state.keyspace (sampleVerify k p input).value := fun k p input =>
    (codes_atomic {} {} 0 (sampleSite k p) "login" "+15550100" input positive bounded past clock).2
  have hstored : store.value = .ok () := rfl
  have hmissed : missed.value = .ok .mismatch := rfl
  have hmatched : matched.value = .ok .matched := rfl
  have hrefused : refused.value = .error (.system "verification code record has no expiry") := rfl
  refine ⟨positive, bounded, past, clock, ⟨hstored, ?_⟩, ⟨hmissed, ?_⟩, ⟨hmatched, ?_⟩, ⟨hrefused, ?_⟩, ?_⟩
  · exact hstored ▸ (stores {} {} "123456").heard answered
  · exact hmissed ▸ (verifies store.state.keyspace {} "654321").heard answered
  · exact hmatched ▸ (verifies missed.state.keyspace {} "123456").heard answered
  · exact ((stores bareKeyspace {} "654321").heard answered).failed _ hrefused
  · exact (stores {} { fate := .failed true .lost } "123456").unheard .lost rfl

/-- The reply to a store is lost, and then the reply to a verify of the code that it stored. Both callers hear of an
    error, and yet the code was written, and is gone. -/
theorem lost_replies_leave_changes :
    let key := "phone_code:login:+15550100"
    let store := sampleStore {} { fate := .failed true .lost } "123456"
    let verify := sampleVerify store.state.keyspace { fate := .failed true .lost } "123456"
    store.value = .error BackendFault.cache.toCodeFault ∧ Keyspace.get? {} 1700000000000 key = none ∧
    store.state.keyspace.field? 1700000000000 key "code" = .ok (some "123456") ∧
    verify.value = .error BackendFault.cache.toCodeFault ∧ verify.state.keyspace.get? 1700000000000 key = none := by
  intro key store verify
  exact ⟨rfl, rfl, by decide +kernel, rfl, by decide +kernel⟩

end Passcode.Keyspace
