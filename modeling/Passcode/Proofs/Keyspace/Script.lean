/-
  Passcode.Proofs.Keyspace.Script — what the code scripts reply and leave behind.

  The issue script goes by the lifetime left alone, whatever the key holds, so one equation says what it
  does (`issue_eq`). The verify script changes something only when the key holds a hash whose attempts
  are a positive number in plain form (`verify_cases`): every other value is refused before the first
  command that writes, and no command after that one can fail.

  A key holds a code (`HoldsCode`) when its hash has the code, the attempts left as a number in
  plain form, and an expiry; then the verify script does what is expected of it (`verify_spent`,
  `verify_compare`).

  Proved as well: a verify extends no lifetime (`verify_expiry`), and changes no other key (`verify_other`).
-/

import Passcode.Keyspace.Script
import Passcode.Proofs.Text.Numeral

namespace Passcode.Keyspace

/-- A hash with a code, the attempts left on it, and an expiry. -/
structure HoldsCode (h : Holding) (code : String) (attempts expiresAt : Int) : Prop where
  hash : ∃ fields, h.value = .hash fields ∧ fields.get? "code" = some code ∧
    fields.get? "attempts" = some (toString attempts)
  expiry : h.expiresAt = some expiresAt

namespace Script

variable {α β : Type}

theorem run_bind (first : Script α) (next : α → Script β) (k : Keyspace) : (first >>= next) k =
    match first k with
    | (.ok a, k) => next a k
    | (.error e, k) => (.error e, k) := rfl

@[simp] theorem run_return (a : α) (k : Keyspace) : (return a : Script α) k = (.ok a, k) := rfl

@[simp] theorem run_read (f : Keyspace → α) (k : Keyspace) : read f k = (.ok (f k), k) := rfl

@[simp] theorem run_ask (f : Keyspace → Except CommandFault α) (k : Keyspace) : ask f k = (f k, k) := rfl

@[simp] theorem run_modify (f : Keyspace → Keyspace) (k : Keyspace) : Script.modify f k = (.ok (), f k) := rfl

end Script

@[simp] theorem holdings_put (k : Keyspace) (key : String) (h : Holding) :
    (k.put key h).holdings = k.holdings.insert key h := rfl

@[simp] theorem holdings_delete (k : Keyspace) (key : String) :
    (k.delete key).holdings = k.holdings.erase key := rfl

/-- Every key but one holds what it held. -/
def OnlyAt (key : String) (k k' : Keyspace) : Prop :=
  ∀ key', key' ≠ key → k'.holdings.get? key' = k.holdings.get? key'

theorem onlyAt_refl (key : String) (k : Keyspace) : OnlyAt key k k := fun _ _ => rfl

theorem OnlyAt.trans {key : String} {k k' k'' : Keyspace} (h : OnlyAt key k k') (h' : OnlyAt key k' k'') :
    OnlyAt key k k'' :=
  fun key' hne => (h' key' hne).trans (h key' hne)

theorem onlyAt_put (key : String) (k : Keyspace) (h : Holding) : OnlyAt key k (k.put key h) := by
  intro key' hne
  rw [holdings_put, Table.get?_insert, if_neg hne]

theorem onlyAt_delete (key : String) (k : Keyspace) : OnlyAt key k (k.delete key) := by
  intro key' hne
  rw [holdings_delete, Table.get?_erase, if_neg hne]

/-- Of two changes of one key only the second counts. -/
@[simp] theorem put_put (k : Keyspace) (key : String) (h h' : Holding) : (k.put key h).put key h' = k.put key h' :=
  congrArg Keyspace.mk (Table.insert_insert ..)

@[simp] theorem put_delete (k : Keyspace) (key : String) (h : Holding) : (k.delete key).put key h = k.put key h :=
  congrArg Keyspace.mk (Table.insert_erase ..)

@[simp] theorem delete_put (k : Keyspace) (key : String) (h : Holding) : (k.put key h).delete key = k.delete key :=
  congrArg Keyspace.mk (Table.erase_insert ..)

theorem live_unbounded (now : Int) (value : Stored) : Live now ⟨value, none⟩ := fun _ h => nomatch h

theorem live_of_get? {k : Keyspace} {now : Int} {key : String} {h : Holding} (hg : k.get? now key = some h) :
    Live now h :=
  of_decide_eq_true (Option.filter_eq_some_iff.mp hg).2

theorem get?_put_self (k : Keyspace) {now : Int} (key : String) {h : Holding} (hl : Live now h) :
    (k.put key h).get? now key = some h := by
  rw [get?_put, if_pos rfl, if_pos hl]

/-- What was put under a key lives as long as the time allows that the key is given then. -/
theorem expire_put (now : Int) (key : String) (k : Keyspace) (h : Holding) (hl : Live now h) (ms : Int) :
    (k.put key h).expire now key ms =
      if lastInstant < ms.natAbs ∨ lastInstant < now + ms then .error .invalidExpiry
      else .ok (if ms ≤ 0 then k.delete key else k.put key { h with expiresAt := some (now + ms) }) := by
  unfold expire
  simp only [get?_put_self k key hl, delete_put, put_put]

/-- Adding to a field fails when its text is no whole number in plain form. -/
theorem addToField_eq {k : Keyspace} {now : Int} {key : String} {known : Table String String}
    (hk : k.hash? now key = .ok known) (name : String) (amount : Int) : k.addToField now key name amount =
    match (known.get? name).elim (some 0) plainInteger? with
    | none => .error .notInteger
    | some n =>
      if n + amount < Int64.minValue.toInt ∨ Int64.maxValue.toInt < n + amount then .error .overflow
      else .ok (k.put key ⟨.hash (known.insert name (toString (n + amount))), k.expiryOf now key⟩) := by
  cases hf : known.get? name with
  | none => simp only [addToField, hk, bind, Except.bind, hf]; rfl
  | some text =>
    simp only [addToField, hk, bind, Except.bind, hf, Option.elim_some]
    cases plainInteger? text with
    | none => rfl
    | some n => rfl

section Hash

variable {k : Keyspace} {now : Int} {key name : String} {fields : Table String String} {expiry : Option Int}
  (hg : k.get? now key = some ⟨.hash fields, expiry⟩)
include hg

theorem hash?_hash : k.hash? now key = .ok fields := by
  rw [hash?, hg]

theorem field?_hash : k.field? now key name = .ok (fields.get? name) := by
  rw [field?, hash?_hash hg]
  rfl

theorem expiryOf_hash : k.expiryOf now key = expiry := by
  rw [expiryOf, hg]
  rfl

end Hash

/-! ## Issuing -/

/-- The hash that the issue script writes. -/
def issuedFields (code : String) (attempts : Int) : Table String String :=
  (Table.empty.insert "code" code).insert "attempts" (toString attempts)

theorem holdsCode_issued (code : String) (attempts e : Int) :
    HoldsCode ⟨.hash (issuedFields code attempts), some e⟩ code attempts e :=
  ⟨⟨_, rfl, by simp [issuedFields, Table.get?_insert], by simp [issuedFields]⟩, rfl⟩

section Issue

variable (now : Int) (key code : String) (attempts : Int) (expiry threshold : Nat) (k : Keyspace)

theorem setFields_delete : (k.delete key).setFields now key [("code", code), ("attempts", toString attempts)] =
    .ok (k.put key ⟨.hash (issuedFields code attempts), none⟩) := by
  simp [setFields, hash?, expiryOf, get?_delete, issuedFields, bind, Except.bind, pure, Except.pure]

/-- What the issue script does: it leaves a code that has no expiry, or too much of its lifetime left, and
    replaces all else. A lifetime of zero is over at once. An expiry beyond the last instant fails when the hash is
    already there. -/
theorem issue_eq (hn : 0 ≤ now) : issueScript now key code attempts expiry threshold k =
    if k.ttl now key = -1 then (.ok (-2), k)
    else if (threshold : Int) < k.ttl now key then (.ok (-1), k)
    else if lastInstant < now + expiry * 1000 then
      (.error .invalidExpiry, k.put key ⟨.hash (issuedFields code attempts), none⟩)
    else (.ok 0, if expiry = 0 then k.delete key
      else k.put key ⟨.hash (issuedFields code attempts), some (now + expiry * 1000)⟩) := by
  by_cases hb : k.ttl now key = -1
  · simp [issueScript, Script.run_bind, hb]
  · by_cases hf : (threshold : Int) < k.ttl now key
    · have hc : ¬ (k.ttl now key = -2 ∨ k.ttl now key ≤ threshold) := by omega
      simp [issueScript, Script.run_bind, hb, hf, hc]
    · have hc : k.ttl now key = -2 ∨ k.ttl now key ≤ threshold := by omega
      have hexpire := expire_put now key k _ (live_unbounded now (.hash (issuedFields code attempts))) (expiry * 1000)
      have hrange : (lastInstant < ((expiry : Int) * 1000).natAbs ∨ lastInstant < now + (expiry : Int) * 1000) ↔
          lastInstant < now + (expiry : Int) * 1000 := by omega
      have hzero : (expiry : Int) * 1000 ≤ 0 ↔ expiry = 0 := by omega
      simp only [hrange, hzero] at hexpire
      by_cases hr : lastInstant < now + (expiry : Int) * 1000
      · rw [if_pos hr] at hexpire
        simp only [issueScript, Script.run_bind, Script.run_read, Script.run_modify, Script.attempt, hb, hf, hc, hr,
          if_false, if_true, setFields_delete, hexpire]
      · rw [if_neg hr] at hexpire
        simp only [issueScript, Script.run_bind, Script.run_read, Script.run_modify, Script.attempt, hb, hf, hc, hr,
          if_false, if_true, setFields_delete, hexpire, Script.run_return]

/-- What a store found that the script accepted, and what it left. -/
theorem issue_accepted (hn : 0 ≤ now) (hr : (issueScript now key code attempts expiry threshold k).1 = .ok 0) :
    k.ttl now key ≠ -1 ∧ k.ttl now key ≤ threshold ∧ (issueScript now key code attempts expiry threshold k).2 =
      if expiry = 0 then k.delete key
      else k.put key ⟨.hash (issuedFields code attempts), some (now + expiry * 1000)⟩ := by
  rw [issue_eq now key code attempts expiry threshold k hn] at hr ⊢
  split at hr
  · cases hr
  · rename_i hbare
    split at hr
    · cases hr
    · rename_i hold
      split at hr
      · cases hr
      · rename_i hrange
        rw [if_neg hbare, if_neg hold, if_neg hrange]
        exact ⟨hbare, Int.not_lt.mp hold, rfl⟩

theorem issue_other (hn : 0 ≤ now) : OnlyAt key k (issueScript now key code attempts expiry threshold k).2 := by
  rw [issue_eq now key code attempts expiry threshold k hn]
  split
  · exact onlyAt_refl key k
  · split
    · exact onlyAt_refl key k
    · split
      · exact onlyAt_put key k _
      · dsimp only
        split
        · exact onlyAt_delete key k
        · exact onlyAt_put key k _

end Issue

/-! ## Verifying -/

section Verify

variable (now : Int) (key input : String) (k : Keyspace)

theorem verify_absent (h : k.get? now key = none) : verifyScript now key input k = (.ok (-3), k) := by
  simp [verifyScript, Script.run_bind, h]

/-- What the verify script does when the key is there. -/
theorem verify_present {h : Holding} (hg : k.get? now key = some h) : verifyScript now key input k =
    match k.field? now key "attempts" with
    | .error e => (.error e, k)
    | .ok attempts =>
      match attempts.bind isPositive? with
      | none => (.ok (-4), k)
      | some false => (.ok (-1), k)
      | some true =>
        match k.addToField now key "attempts" (-1) with
        | .error e => (.error e, k)
        | .ok k' =>
          match k'.field? now key "code" with
          | .error e => (.error e, k')
          | .ok code => if code = some input then (.ok 0, k'.delete key) else (.ok (-2), k') := by
  simp only [verifyScript, Script.run_bind, Script.run_read, hg, Option.isNone_some, Bool.false_eq_true, if_false,
    Script.run_ask]
  cases k.field? now key "attempts" with
  | error e => rfl
  | ok attempts =>
    cases hp : attempts.bind isPositive? with
    | none => simp only [hp, Script.run_return]
    | some positive =>
      cases positive with
      | false => simp only [hp, Script.run_return]
      | true =>
        simp only [hp, Script.run_bind, Script.attempt, Script.run_ask]
        cases k.addToField now key "attempts" (-1) with
        | error e => rfl
        | ok k' =>
          cases hc : k'.field? now key "code" with
          | error e => simp only [hc]
          | ok code => by_cases hi : code = some input <;> simp [hc, hi, Script.run_bind]

/-- With an attempt left by the lenient reading, one is spent if the strict reading allows it. The code is
    compared after that. -/
theorem verify_spend {fields : Table String String} {expiry : Option Int} {text : String}
    (hg : k.get? now key = some ⟨.hash fields, expiry⟩) (ha : fields.get? "attempts" = some text)
    (hp : isPositive? text = some true) : verifyScript now key input k =
    match plainInteger? text with
    | none => (.error .notInteger, k)
    | some n =>
      if n + -1 < Int64.minValue.toInt ∨ Int64.maxValue.toInt < n + -1 then (.error .overflow, k)
      else if fields.get? "code" = some input then (.ok 0, k.delete key)
      else (.ok (-2), k.put key ⟨.hash (fields.insert "attempts" (toString (n + -1))), expiry⟩) := by
  have hexpiry : ∀ e ∈ expiry, now ≤ e := live_of_get? hg
  rw [verify_present now key input k hg, field?_hash hg]
  simp only [ha, Option.bind_some, hp, addToField_eq (hash?_hash hg), expiryOf_hash hg, Option.elim_some]
  cases plainInteger? text with
  | none => rfl
  | some n =>
    by_cases hr : n + -1 < Int64.minValue.toInt ∨ Int64.maxValue.toInt < n + -1
    · simp only [hr, if_true]
    · have hcode : (k.put key ⟨.hash (fields.insert "attempts" (toString (n + -1))), expiry⟩).field? now key "code" =
          .ok (fields.get? "code") := by
        rw [field?_hash (get?_put_self k key hexpiry), Table.get?_insert, if_neg (by decide)]
      simp only [hr, if_false, hcode, delete_put]

/-- The verify script fails or gives a reply that stands for a refusal, and changes nothing. -/
def Refuses (now : Int) (key input : String) (k : Keyspace) : Prop :=
  ∃ r, verifyScript now key input k = (r, k) ∧ r ≠ .ok 0 ∧ r ≠ .ok (-2)

theorem refuses_of_error {e : CommandFault} (h : verifyScript now key input k = (.error e, k)) :
    Refuses now key input k :=
  ⟨_, h, by simp, by simp⟩

theorem refuses_of_reply {i : Int} (h : verifyScript now key input k = (.ok i, k)) (h0 : i ≠ 0) (h2 : i ≠ -2) :
    Refuses now key input k :=
  ⟨_, h, by simpa using h0, by simpa using h2⟩

/-- What the verify script does with whatever the key holds: it refuses, or the key holds a hash with a positive
    number of attempts; then one is spent, and a match takes the key out. -/
theorem verify_cases : Refuses now key input k ∨
    ∃ fields expiry n, k.get? now key = some ⟨.hash fields, expiry⟩ ∧
      fields.get? "attempts" = some (toString n) ∧ (0 : Int) < n ∧
      verifyScript now key input k =
        if fields.get? "code" = some input then (.ok 0, k.delete key)
        else (.ok (-2), k.put key ⟨.hash (fields.insert "attempts" (toString (n - 1))), expiry⟩) := by
  cases hg : k.get? now key with
  | none => exact Or.inl (refuses_of_reply _ _ _ _ (verify_absent now key input k hg) (by decide) (by decide))
  | some h =>
    have hrun := verify_present now key input k hg
    obtain ⟨value, expiry⟩ := h
    cases value with
    | text _ | scored _ =>
      have hfield : k.field? now key "attempts" = .error .wrongType := by simp [field?, hash?, hg, Except.map]
      rw [hfield] at hrun
      exact Or.inl (refuses_of_error _ _ _ _ hrun)
    | hash fields =>
      rw [field?_hash hg] at hrun
      dsimp only at hrun
      cases ha : fields.get? "attempts" with
      | none =>
        rw [ha] at hrun
        exact Or.inl (refuses_of_reply _ _ _ _ hrun (by decide) (by decide))
      | some text =>
        simp only [ha, Option.bind_some] at hrun
        cases hp : isPositive? text with
        | none =>
          rw [hp] at hrun
          exact Or.inl (refuses_of_reply _ _ _ _ hrun (by decide) (by decide))
        | some positive =>
          cases positive with
          | false =>
            rw [hp] at hrun
            exact Or.inl (refuses_of_reply _ _ _ _ hrun (by decide) (by decide))
          | true =>
            have hrun := verify_spend now key input k hg ha hp
            cases hi : plainInteger? text with
            | none =>
              rw [hi] at hrun
              exact Or.inl (refuses_of_error _ _ _ _ hrun)
            | some n =>
              simp only [hi] at hrun
              have htext := eq_toString_of_plainInteger? hi
              split at hrun
              · exact Or.inl (refuses_of_error _ _ _ _ hrun)
              · have hn : 0 < n := by
                  rw [htext, isPositive?_toString] at hp
                  simpa using hp
                exact Or.inr ⟨fields, expiry, n, rfl, by rw [ha, htext], hn, hrun⟩

theorem verify_other : OnlyAt key k (verifyScript now key input k).2 := by
  rcases verify_cases now key input k with ⟨r, hrun, -, -⟩ | ⟨fields, expiry, n, -, -, -, hrun⟩
  · rw [hrun]
    exact onlyAt_refl key k
  · rw [hrun]
    split
    · exact onlyAt_delete key k
    · exact onlyAt_put key k _

/-- A verify extends no lifetime: what a key holds afterwards, it held before, as long. -/
theorem verify_expiry {key' : String} {h' : Holding}
    (hh : (verifyScript now key input k).2.holdings.get? key' = some h') :
    ∃ h, k.holdings.get? key' = some h ∧ h.expiresAt = h'.expiresAt := by
  by_cases hk : key' = key
  · subst hk
    rcases verify_cases now key' input k with ⟨r, hrun, -, -⟩ | ⟨fields, expiry, n, hg, -, -, hrun⟩
    · rw [hrun] at hh
      exact ⟨h', hh, rfl⟩
    · rw [hrun] at hh
      split at hh
      · simp [Table.get?_erase] at hh
      · rw [holdings_put, Table.get?_insert_self, Option.some.injEq] at hh
        subst hh
        exact ⟨_, (Option.filter_eq_some_iff.mp hg).1, rfl⟩
  · rw [verify_other now key input k key' hk] at hh
    exact ⟨h', hh, rfl⟩

variable {h : Holding} {code : String} {n e : Int} (hg : k.get? now key = some h) (hc : HoldsCode h code n e)
include hg hc

theorem verify_spent (hn : n ≤ 0) : verifyScript now key input k = (.ok (-1), k) := by
  obtain ⟨⟨fields, hv, -, ha⟩, -⟩ := hc
  obtain ⟨value, expiry⟩ := h
  simp only at hv
  subst hv
  have hp : isPositive? (toString n) = some false := by
    rw [isPositive?_toString]
    simpa using hn
  rw [verify_present now key input k hg, field?_hash hg]
  simp only [ha, Option.bind_some, hp]

/-- The script with an attempt left: it is spent before the code is compared. -/
theorem verify_compare (hn : 0 < n) (hm : n ≤ Int64.maxValue.toInt) : ∃ h', HoldsCode h' code (n - 1) e ∧
    verifyScript now key input k = if code = input then (.ok 0, k.delete key) else (.ok (-2), k.put key h') := by
  obtain ⟨⟨fields, hv, hcode, ha⟩, he⟩ := hc
  obtain ⟨value, expiry⟩ := h
  simp only at hv he
  subst hv he
  have hp : isPositive? (toString n) = some true := by
    rw [isPositive?_toString]
    simpa using hn
  have hmin := Int64.toInt_minValue_lt_zero
  have hr : ¬ (n + -1 < Int64.minValue.toInt ∨ Int64.maxValue.toInt < n + -1) := by omega
  refine ⟨⟨.hash (fields.insert "attempts" (toString (n - 1))), some e⟩, ⟨⟨_, rfl, ?_, ?_⟩, rfl⟩, ?_⟩
  · simp [Table.get?_insert, hcode]
  · simp
  · rw [verify_spend now key input k hg ha hp, plainInteger?_toString (by omega) hm]
    simp only [hr, if_false, hcode, Option.some.injEq, Int.sub_eq_add_neg]

end Verify

end Passcode.Keyspace
