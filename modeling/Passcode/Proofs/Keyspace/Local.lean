/-
  Passcode.Proofs.Keyspace.Local — work that reads and changes what one key holds, and nothing else.

  A command goes by what its key holds, and keeps that, replaces it or removes it (`Decided`). Work that is
  made of commands on one key (`Local`) ends alike on two keyspaces in which the key holds the same, and
  leaves the same under it; all other keys stay as they were.

  Proved: the scripts are local to their key (`issue_local`, `verify_local`, `window_local`), as are the two
  requests about marks, and then what a client does with them.
-/

import Passcode.Proofs.Keyspace.Codes
import Passcode.Proofs.Keyspace.Server
import Passcode.Proofs.Task

namespace Passcode.Keyspace

variable {α β : Type} {now : Int} {key : String} {k l : Keyspace}

/-- A key holds the same in two keyspaces, expired or not. -/
def SameAt (key : String) (k l : Keyspace) : Prop := k.holdings.get? key = l.holdings.get? key

theorem SameAt.get? (h : SameAt key k l) (now : Int) : k.get? now key = l.get? now key := by
  unfold Keyspace.get?
  rw [h]

theorem OnlyAt.sameAt {key' : String} (h : OnlyAt key k l) (hne : key' ≠ key) : SameAt key' l k := h key' hne

/-! ## Commands -/

/-- What a command does to a key. -/
inductive Change where
  | keep
  | put (h : Holding)
  | remove

def Change.apply (key : String) (k : Keyspace) : Change → Keyspace
  | keep => k
  | put h => k.put key h
  | remove => k.delete key

theorem Change.onlyAt (c : Change) (key : String) (k : Keyspace) : OnlyAt key k (c.apply key k) := by
  cases c with
  | keep => exact onlyAt_refl key k
  | put h => exact onlyAt_put key k h
  | remove => exact onlyAt_delete key k

theorem Change.sameAt (c : Change) (h : SameAt key k l) : SameAt key (c.apply key k) (c.apply key l) := by
  cases c with
  | keep => exact h
  | put held =>
    show (k.holdings.insert key held).get? key = (l.holdings.insert key held).get? key
    rw [Table.get?_insert_self, Table.get?_insert_self]
  | remove =>
    show (k.holdings.erase key).get? key = (l.holdings.erase key).get? key
    rw [Table.get?_erase, if_pos rfl, Table.get?_erase, if_pos rfl]

/-- A command that goes by what its key holds at an instant: where that is the same, it makes the same change, or
    fails alike. -/
def Decided (now : Int) (key : String) (f : Keyspace → Except CommandFault Keyspace) : Prop :=
  ∀ k l : Keyspace, k.get? now key = l.get? now key →
    ∃ r : Except CommandFault Change, f k = r.map (Change.apply key k) ∧ f l = r.map (Change.apply key l)

theorem expiryOf_congr (h : k.get? now key = l.get? now key) : k.expiryOf now key = l.expiryOf now key := by
  rw [expiryOf, expiryOf, h]

theorem hash?_congr (h : k.get? now key = l.get? now key) : k.hash? now key = l.hash? now key := by
  rw [hash?, hash?, h]

theorem members?_congr (h : k.get? now key = l.get? now key) : k.members? now key = l.members? now key := by
  rw [members?, members?, h]

theorem decided_setFields (fields : List (String × String)) : Decided now key (·.setFields now key fields) := by
  intro k l h
  simp only [setFields, hash?_congr h, expiryOf_congr h]
  cases l.hash? now key with
  | error e => exact ⟨.error e, rfl, rfl⟩
  | ok known => exact ⟨.ok (.put ⟨.hash _, l.expiryOf now key⟩), rfl, rfl⟩

theorem decided_addToField (name : String) (amount : Int) : Decided now key (·.addToField now key name amount) := by
  intro k l h
  cases hl : l.hash? now key with
  | error e =>
    simp only [addToField, hash?_congr h, hl]
    exact ⟨.error e, rfl, rfl⟩
  | ok known =>
    simp only [addToField_eq hl, addToField_eq ((hash?_congr h).trans hl), expiryOf_congr h]
    cases (known.get? name).elim (some 0) plainInteger? with
    | none => exact ⟨.error .notInteger, rfl, rfl⟩
    | some n =>
      by_cases hr : n + amount < Int64.minValue.toInt ∨ Int64.maxValue.toInt < n + amount
      · simp only [hr, if_true]
        exact ⟨.error .overflow, rfl, rfl⟩
      · simp only [hr, if_false]
        exact ⟨.ok (.put ⟨.hash _, l.expiryOf now key⟩), rfl, rfl⟩

theorem decided_expire (ms : Int) : Decided now key (·.expire now key ms) := by
  intro k l h
  simp only [expire, h]
  by_cases hr : lastInstant < ms.natAbs ∨ lastInstant < now + ms
  · simp only [hr, if_true]
    exact ⟨.error .invalidExpiry, rfl, rfl⟩
  · simp only [hr, if_false]
    cases l.get? now key with
    | none => exact ⟨.ok .keep, rfl, rfl⟩
    | some held =>
      by_cases hp : ms ≤ 0
      · simp only [hp, if_true]
        exact ⟨.ok .remove, rfl, rfl⟩
      · simp only [hp, if_false]
        exact ⟨.ok (.put _), rfl, rfl⟩

/-- A set of members that is changed takes the place of what the key holds, or that is removed. -/
theorem decided_putMembers (change : Table String Int → Table String Int) :
    Decided now key fun k => do return k.putMembers now key (change (← k.members? now key)) := by
  intro k l h
  simp only [members?_congr h, putMembers, expiryOf_congr h]
  cases l.members? now key with
  | error e => exact ⟨.error e, rfl, rfl⟩
  | ok members =>
    simp only [bind, Except.bind]
    by_cases hm : (change members).entries.isEmpty = true
    · simp only [hm, if_true]
      exact ⟨.ok .remove, rfl, rfl⟩
    · simp only [hm, Bool.false_eq_true, if_false]
      exact ⟨.ok (.put ⟨.scored _, l.expiryOf now key⟩), rfl, rfl⟩

theorem decided_trim (limit : Int) : Decided now key (·.trim now key limit) :=
  decided_putMembers fun members => members.keep fun _ score => decide (limit < score)

theorem decided_addMember (member : String) (score : Int) : Decided now key (·.addMember now key member score) :=
  decided_putMembers fun members => members.insert member score

theorem decided_setFor (value : String) (seconds : Int) : Decided now key (·.setFor now key value seconds) := by
  intro k l _
  simp only [setFor]
  by_cases hr : seconds ≤ 0 ∨ lastInstant < now + seconds * 1000
  · simp only [hr, if_true]
    exact ⟨.error .invalidExpiry, rfl, rfl⟩
  · simp only [hr, if_false]
    exact ⟨.ok (.put _), rfl, rfl⟩

/-! ## Scripts -/

/-- Work that reads and changes one key only. -/
structure Local (key : String) (f : Keyspace → α × Keyspace) : Prop where
  ends : ∀ {k l}, SameAt key k l → (f k).1 = (f l).1 ∧ SameAt key (f k).2 (f l).2
  others : ∀ k, OnlyAt key k (f k).2

theorem Local.map {f : Keyspace → α × Keyspace} (h : Local key f) (g : α → β) :
    Local key fun k => (g (f k).1, (f k).2) where
  ends hs := ⟨congrArg g (h.ends hs).1, (h.ends hs).2⟩
  others := h.others

/-- Work that looks at what the key holds, and changes nothing. -/
theorem local_of_read {f : Keyspace → α} (h : ∀ k l, SameAt key k l → f k = f l) : Local key fun k => (f k, k) where
  ends hs := ⟨h _ _ hs, hs⟩
  others := onlyAt_refl key

/-- A command after which something is said about how it went. -/
theorem Decided.concluded {f : Keyspace → Except CommandFault Keyspace} (h : Decided now key f) (done : α)
    (failed : CommandFault → α) : Local key fun k => match f k with
      | .ok k' => (done, k')
      | .error e => (failed e, k) where
  ends {k l} hs := by
    obtain ⟨r, hk, hl⟩ := h k l (hs.get? now)
    rw [hk, hl]
    cases r with
    | error e => exact ⟨rfl, hs⟩
    | ok c => exact ⟨rfl, c.sameAt hs⟩
  others k := by
    obtain ⟨r, hk, -⟩ := h k k rfl
    rw [hk]
    cases r with
    | error e => exact onlyAt_refl key k
    | ok c => exact c.onlyAt key k

namespace Script

theorem local_return (a : α) : Local key (return a : Script α) := local_of_read fun _ _ _ => rfl

theorem local_read (now : Int) {f : Keyspace → α} (h : ∀ k l, k.get? now key = l.get? now key → f k = f l) :
    Local key (read f) :=
  local_of_read fun k l hs => congrArg Except.ok (h k l (hs.get? now))

theorem local_ask (now : Int) {f : Keyspace → Except CommandFault α}
    (h : ∀ k l, k.get? now key = l.get? now key → f k = f l) : Local key (ask f) :=
  local_of_read fun k l hs => h k l (hs.get? now)

theorem local_bind {first : Script α} {next : α → Script β} (h : Local key first) (hn : ∀ a, Local key (next a)) :
    Local key (first >>= next) where
  ends {k l} hs := by
    obtain ⟨hvalue, hstate⟩ := h.ends hs
    rw [run_bind, run_bind]
    rcases hk : first k with ⟨_ | a, k'⟩ <;> rcases hl : first l with ⟨_ | b, l'⟩
    all_goals
      rw [hk, hl] at hvalue hstate
      cases hvalue
    · exact ⟨rfl, hstate⟩
    · exact (hn _).ends hstate
  others k := by
    have hfirst := h.others k
    rw [run_bind]
    rcases hk : first k with ⟨_ | a, k'⟩
    · rw [hk] at hfirst
      exact hfirst
    · rw [hk] at hfirst
      exact hfirst.trans ((hn a).others k')

theorem local_attempt {f : Keyspace → Except CommandFault Keyspace} (h : Decided now key f) :
    Local key (attempt f) :=
  h.concluded (Except.ok ()) Except.error

theorem local_delete : Local key (Script.modify fun k => k.delete key) where
  ends hs := ⟨rfl, Change.remove.sameAt hs⟩
  others := onlyAt_delete key

end Script

open Script

theorem local_field? (name : String) : Local key (ask fun k => k.field? now key name) :=
  local_ask now fun k l h => by rw [field?, field?, hash?_congr h]

theorem local_members? : Local key (ask fun k => k.members? now key) :=
  local_ask now fun _ _ h => members?_congr h

theorem issue_local (code : String) (attempts : Int) (expiry threshold : Nat) :
    Local key (issueScript now key code attempts expiry threshold) := by
  refine local_bind (local_read now fun k l h => by simp only [ttl, h]) fun ttl => ?_
  split
  · exact local_return _
  · split
    · refine local_bind local_delete fun _ => ?_
      refine local_bind (local_attempt (decided_setFields _)) fun _ => ?_
      exact local_bind (local_attempt (decided_expire _)) fun _ => local_return _
    · exact local_return _

theorem verify_local (input : String) : Local key (verifyScript now key input) := by
  refine local_bind (local_read now fun k l h => by simp only [h]) fun absent => ?_
  split
  · exact local_return _
  · refine local_bind (local_field? _) fun attempts => ?_
    split
    · exact local_return _
    · exact local_return _
    · refine local_bind (local_attempt (decided_addToField _ _)) fun _ => ?_
      refine local_bind (local_field? _) fun code => ?_
      split
      · exact local_bind local_delete fun _ => local_return _
      · exact local_return _

theorem window_local (window threshold : Nat) (member : String) :
    Local key (windowScript now key window threshold member) := by
  refine local_bind (local_attempt (decided_trim _)) fun _ => ?_
  refine local_bind local_members? fun members => ?_
  split
  · exact local_return _
  · refine local_bind (local_attempt (decided_addMember _ _)) fun _ => ?_
    exact local_bind (local_attempt (decided_expire _)) fun _ => local_return _

/-! ## Requests -/

theorem Local.scriptReply {script : Script Int} (h : Local key script) :
    Local key fun k => Keyspace.scriptReply (script k) where
  ends {k l} hs := by
    obtain ⟨hvalue, hstate⟩ := h.ends hs
    rcases hk : script k with ⟨r, k'⟩
    rcases hl : script l with ⟨r', l'⟩
    rw [hk, hl] at hvalue hstate
    cases hvalue
    cases r with
    | error e => exact ⟨rfl, hstate⟩
    | ok i => exact ⟨rfl, hstate⟩
  others k := by
    rw [scriptReply_state]
    exact h.others k

theorem exists_local : Local key fun k => k.serve now (.command ["EXISTS", key]) := by
  simp only [serve_exists]
  exact local_of_read fun k l h => by rw [h.get?]

theorem setex_local (seconds value : String) : Local key fun k => k.serve now (.command ["SETEX", key, seconds, value])
    := by
  simp only [serve_setex_eq]
  cases time? seconds with
  | none => exact local_of_read fun _ _ _ => rfl
  | some s => exact (decided_setFor value s).concluded (Reply.status "OK") fun e => Reply.error e.text

/-! ## Clients -/

/-- A task that reads and changes one key only, at whatever time. -/
def LocalTask (key : String) (task : Task Keyspace α) : Prop :=
  ∀ t, Local key fun k => (((task.run t k).time, (task.run t k).value), (task.run t k).state)

theorem localTask_pure (a : α) : LocalTask key (pure a : Task Keyspace α) :=
  fun _ => local_of_read fun _ _ _ => rfl

theorem localTask_sleep (delay : Nat) : LocalTask key (Task.sleep delay : Task Keyspace Unit) :=
  fun _ => local_of_read fun _ _ _ => rfl

theorem localTask_act {f : Nat → Keyspace → α × Keyspace} (h : ∀ t, Local key (f t)) : LocalTask key (.act f) :=
  fun t => (h t).map (t, ·)

theorem LocalTask.bind {task : Task Keyspace α} {next : α → Task Keyspace β} (h : LocalTask key task)
    (hn : ∀ a, LocalTask key (next a)) : LocalTask key (task >>= next) := by
  intro t
  simp only [Task.run_bind]
  constructor
  · intro k l hs
    obtain ⟨hend, hstate⟩ := (h t).ends hs
    obtain ⟨htime, hvalue⟩ := Prod.mk.inj hend
    rw [htime, hvalue]
    exact (hn _ _).ends hstate
  · intro k
    exact ((h t).others k).trans ((hn _ _).others _)

theorem LocalTask.map {task : Task Keyspace α} (h : LocalTask key task) (f : α → β) : LocalTask key (f <$> task) :=
  h.bind fun a => localTask_pure (f a)

section Client

variable (settings : CacheSettings) (epoch : Nat) (member : Task Keyspace String)

theorem call_local {r : Request} (h : ∀ now, Local key fun k => k.serve now r) :
    LocalTask key ((Client.direct settings epoch member).call r) :=
  localTask_act fun t => h (epoch + t)

theorem command_local {words : List String} (h : ∀ now, Local key fun k => k.serve now (.command words))
    (read : Reply → Option α) : LocalTask key ((Client.direct settings epoch member).command words read) := by
  suffices hr : ∀ retries delay, LocalTask key ((Client.direct settings epoch member).repeated words retries delay) from
    (hr _ _).map _
  intro retries
  induction retries with
  | zero => exact fun _ => call_local settings epoch member h
  | succ retries ih =>
    intro delay
    refine (call_local settings epoch member h).bind fun reply => ?_
    split
    · exact (localTask_sleep delay).bind fun _ => ih _
    · exact localTask_pure reply

theorem script_local {r : Request} (h : ∀ now, Local key fun k => k.serve now r) :
    LocalTask key ((Client.direct settings epoch member).script r) :=
  (call_local settings epoch member h).map _

end Client

end Passcode.Keyspace
