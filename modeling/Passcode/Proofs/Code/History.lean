/-
  Passcode.Proofs.Code.History — calls of a code store one after the other, and the answer that is
  due to a call by what came before it.

  A slot is a scope and a recipient as the code service passes them. A run is a list of calls, each
  at its time in milliseconds; whichever client makes it, a call is one step of the store. The
  history of a run holds each call with its answer, and the last code issued for a slot is read off
  it with all that followed (`lastIssue?`).

  The rules (`due`). A store comes too soon when a code was issued within the resend cooldown, and
  within the lifetime, and has not been matched. A verify finds nothing when no code was issued, or
  it has been matched, or its lifetime is over; otherwise it is refused when the attempts are spent,
  and else the texts are compared.

  Proved: keys tell slots apart (`key_inj`); a history leaves a slot one entry (`kept?`), which
  only calls for the slot change (`kept?_append`), and the answer due is read off that entry
  (`due_store`, `due_verify`); what every call keeps, a run keeps (`history_induct`); and the rules
  leave no choice (`history_eq_of_due`).
-/

import Passcode.Code.Book
import Passcode.Code.Service
import Passcode.Proofs.Text.Pattern

namespace Passcode

/-! ## Slots -/

/-- The service takes a recipient that can be addressed, for a scope, and passes its normal form on. -/
theorem CodeService.check_eq_ok {scope text recipient : String} : check scope text = .ok recipient ↔
    CodeService.isScope scope = true ∧ Phone.isAddressable text = true ∧ recipient = Phone.normalize text := by
  have hbind : check scope text = (checkScope scope >>= fun _ => checkRecipient text) := rfl
  rw [hbind, checkScope, checkRecipient]
  cases isScope scope with
  | false => exact ⟨nofun, fun h => nomatch h.1⟩
  | true =>
    cases Phone.isAddressable text with
    | false => exact ⟨nofun, fun h => nomatch h.2.1⟩
    | true =>
      refine ⟨fun h => ?_, fun h => ?_⟩
      · cases h
        exact ⟨rfl, rfl, rfl⟩
      · rw [h.2.2]
        rfl

/-- A scope and a recipient as the code service passes them to its store. -/
structure CodeSlot where
  scope : String
  recipient : String
  checked : ∃ text, CodeService.check scope text = .ok recipient
  deriving DecidableEq

namespace CodeSlot

def key (slot : CodeSlot) : String := codeKey slot.scope slot.recipient

theorem isScope (slot : CodeSlot) : CodeService.isScope slot.scope = true := by
  obtain ⟨text, h⟩ := slot.checked
  exact (CodeService.check_eq_ok.mp h).1

theorem colon_not_mem_scope (slot : CodeSlot) : ':' ∉ slot.scope.toList := by
  intro h
  have hs := slot.isScope
  simp only [CodeService.isScope, Bool.and_eq_true, List.all_eq_true] at hs
  exact absurd (hs.2 ':' h) (by decide)

theorem toList_key (slot : CodeSlot) :
    slot.key.toList = "phone_code:".toList ++ (slot.scope.toList ++ ':' :: slot.recipient.toList) := by
  simp [key, codeKey]

/-- Slots with one key are one slot: a scope holds no colon. -/
theorem key_inj {a b : CodeSlot} (h : a.key = b.key) : a = b := by
  have hl := congrArg String.toList h
  rw [toList_key, toList_key, List.append_cancel_left_eq] at hl
  obtain ⟨hs, hr⟩ := Text.append_cons_inj a.colon_not_mem_scope b.colon_not_mem_scope hl
  cases a; cases b
  simp only [mk.injEq]
  exact ⟨String.toList_inj.mp hs, String.toList_inj.mp hr⟩

/-- One of them. -/
def sample : CodeSlot := ⟨"login", "+15550100", "+15550100", by decide +kernel⟩

end CodeSlot

/-! ## Runs -/

inductive CodeCall where
  | store (slot : CodeSlot) (code : String)
  | verify (slot : CodeSlot) (input : String)
  deriving DecidableEq

def CodeCall.slot : CodeCall → CodeSlot
  | store slot _ | verify slot _ => slot

inductive CodeAnswer where
  | stored (result : Except CodeFault Unit)
  | verified (result : Except CodeFault Verdict)
  deriving DecidableEq

/-- A call that was made, and how it was answered. -/
structure CodeEvent where
  time : Nat
  call : CodeCall
  answer : CodeAnswer

namespace CodeStore

variable {σ : Type} (store : CodeStore σ)

/-- Makes a call. -/
def perform : CodeCall → Task σ CodeAnswer
  | .store slot code => .stored <$> store.store slot.scope slot.recipient code
  | .verify slot input => .verified <$> store.verify slot.scope slot.recipient input

/-- The calls of a run, each with its answer. -/
def history : σ → List (Nat × CodeCall) → List CodeEvent
  | _, [] => []
  | s, (t, call) :: rest =>
    let r := (store.perform call).run t s
    ⟨t, call, r.value⟩ :: history r.state rest

/-- The state after a run. -/
def after : σ → List (Nat × CodeCall) → σ
  | s, [] => s
  | s, (t, call) :: rest => after ((store.perform call).run t s).state rest

theorem history_append (s : σ) (calls : List (Nat × CodeCall)) (t : Nat) (call : CodeCall) :
    store.history s (calls ++ [(t, call)]) =
      store.history s calls ++ [⟨t, call, ((store.perform call).run t (store.after s calls)).value⟩] := by
  induction calls generalizing s with
  | nil => rfl
  | cons x calls ih => simp only [List.cons_append, history, after, ih]

/-- A history comes apart where its run does. -/
theorem history_split {s : σ} {calls : List (Nat × CodeCall)} {before later : List CodeEvent} {e : CodeEvent}
    (h : store.history s calls = before ++ e :: later) :
    ∃ front back, calls = front ++ (e.time, e.call) :: back ∧
      e.answer = ((store.perform e.call).run e.time (store.after s front)).value ∧
      later = store.history ((store.perform e.call).run e.time (store.after s front)).state back := by
  induction calls generalizing s before with
  | nil => simp [history] at h
  | cons x calls ih =>
    obtain ⟨t, call⟩ := x
    rw [history] at h
    cases before with
    | nil =>
      simp only [List.nil_append, List.cons.injEq] at h
      obtain ⟨rfl, rfl⟩ := h
      exact ⟨[], calls, rfl, rfl, rfl⟩
    | cons a before =>
      simp only [List.cons_append, List.cons.injEq] at h
      obtain ⟨-, h⟩ := h
      obtain ⟨front, back, rfl, ha, rfl⟩ := ih h
      exact ⟨(t, call) :: front, back, rfl, ha, rfl⟩

/-- A history has the calls of its run. -/
theorem history_calls (s : σ) (calls : List (Nat × CodeCall)) :
    (store.history s calls).map (fun e => (e.time, e.call)) = calls := by
  induction calls generalizing s with
  | nil => rfl
  | cons x calls ih => simp only [history, List.map_cons, ih]

end CodeStore

/-- Calls are made at times that never go back. -/
def InOrder (calls : List (Nat × CodeCall)) : Prop := calls.Pairwise fun a b => a.1 ≤ b.1

/-- A code is issued, missed once and then entered. -/
def sampleRun : List (Nat × CodeCall) :=
  [(0, .store .sample "123456"), (1000, .verify .sample "000000"), (2000, .verify .sample "123456")]

theorem sampleRun_inOrder : InOrder sampleRun := by simp [InOrder, sampleRun]

theorem sampleRun_store {t : Nat} {slot : CodeSlot} {code : String} (h : (t, .store slot code) ∈ sampleRun) :
    t = 0 := by
  simp only [sampleRun, List.mem_cons, Prod.mk.injEq, reduceCtorEq, and_false, List.not_mem_nil, or_false] at h
  exact h.1

/-! ## What a history says of a slot -/

namespace CodeEvent

/-- The code that an accepted store put into a slot. -/
def issued? (slot : CodeSlot) (e : CodeEvent) : Option String :=
  match e.call, e.answer with
  | .store s code, .stored (.ok ()) => if s = slot then some code else none
  | _, _ => none

/-- How an attempt on a slot ended that was spent. -/
def verdict? (slot : CodeSlot) (e : CodeEvent) : Option Verdict :=
  match e.call, e.answer with
  | .verify s _, .verified (.ok v) => if s = slot then some v else none
  | _, _ => none

theorem verdict?_eq_some {slot : CodeSlot} {e : CodeEvent} {v : Verdict} (h : e.verdict? slot = some v) :
    ∃ input, e.call = .verify slot input ∧ e.answer = .verified (.ok v) := by
  obtain ⟨t, call, answer⟩ := e
  simp only [verdict?] at h
  split at h
  · split at h
    · rename_i s input v' hs
      cases h
      exact ⟨input, by rw [hs], rfl⟩
    · cases h
  · cases h

end CodeEvent

/-- An accepted store of a slot, and what happened since. -/
structure Issue where
  slot : CodeSlot
  time : Nat
  code : String
  since : List CodeEvent

namespace Issue

/-- How often an attempt on the code ended in `v`. -/
def count (i : Issue) (v : Verdict) : Nat := i.since.countP fun e => e.verdict? i.slot = some v

def isMatched (i : Issue) : Prop := 0 < i.count .matched

instance (i : Issue) : Decidable i.isMatched := inferInstanceAs (Decidable (0 < i.count .matched))

def misses (i : Issue) : Nat := i.count .mismatch

/-- The issue when one more call has been made. -/
def append (i : Issue) (e : CodeEvent) : Issue := { i with since := i.since ++ [e] }

end Issue

/-- The last accepted store of a slot. -/
def lastIssue? (slot : CodeSlot) : List CodeEvent → Option Issue
  | [] => none
  | e :: rest => (lastIssue? slot rest).or ((e.issued? slot).map (⟨slot, e.time, ·, rest⟩))

/-! ## The rules -/

namespace CodeSettings

/-- Milliseconds that a code lives. -/
def lifetime (c : CodeSettings) : Nat := c.expirySeconds.toNat * 1000

/-- Milliseconds within which no other code is issued. -/
def cooldown (c : CodeSettings) : Nat := c.resendCooldownSeconds.toNat * 1000

/-- The answer due to a call at an instant, by what came before. -/
def due (c : CodeSettings) (past : List CodeEvent) (t : Nat) : CodeCall → CodeAnswer
  | .store slot _ =>
    match lastIssue? slot past with
    | some i =>
      if ¬ i.isMatched ∧ t - i.time < min c.cooldown c.lifetime then .stored (.error .tooFrequent)
      else .stored (.ok ())
    | none => .stored (.ok ())
  | .verify slot input =>
    match lastIssue? slot past with
    | some i =>
      if i.isMatched ∨ c.lifetime ≤ t - i.time then .verified (.error .notFound)
      else if c.maxAttempts.toInt ≤ i.misses then .verified (.error .tooManyAttempts)
      else if input = i.code then .verified (.ok .matched)
      else .verified (.ok .mismatch)
    | none => .verified (.error .notFound)

end CodeSettings

/-! ## The entry that a history leaves -/

section Append

variable (slot : CodeSlot) (past : List CodeEvent) (e : CodeEvent)

theorem lastIssue?_append : lastIssue? slot (past ++ [e]) =
    ((e.issued? slot).map (⟨slot, e.time, ·, []⟩)).or ((lastIssue? slot past).map (·.append e)) := by
  induction past with
  | nil => simp [lastIssue?]
  | cons a past ih =>
    rw [List.cons_append, lastIssue?, lastIssue?, ih]
    cases e.issued? slot with
    | some code => simp
    | none =>
      cases lastIssue? slot past with
      | some i => simp
      | none => cases a.issued? slot <;> simp [Issue.append]

/-- The last issue of a slot is an event of the history. -/
theorem lastIssue?_mem {i : Issue} (h : lastIssue? slot past = some i) :
    i.slot = slot ∧ ∃ a ∈ past, a.issued? slot = some i.code ∧ a.time = i.time := by
  induction past with
  | nil => cases h
  | cons a past ih =>
    rw [lastIssue?] at h
    cases hl : lastIssue? slot past with
    | some j =>
      rw [hl, Option.some_or, Option.some.injEq] at h
      subst h
      obtain ⟨hs, b, hb, hj⟩ := ih hl
      exact ⟨hs, b, List.mem_cons_of_mem a hb, hj⟩
    | none =>
      rw [hl, Option.none_or, Option.map_eq_some_iff] at h
      obtain ⟨code, hc, rfl⟩ := h
      exact ⟨rfl, a, List.mem_cons_self, hc, rfl⟩

namespace Issue

variable (i : Issue)

@[simp] theorem append_time : (i.append e).time = i.time := rfl
@[simp] theorem append_code : (i.append e).code = i.code := rfl

theorem count_append (v : Verdict) :
    (i.append e).count v = i.count v + if e.verdict? i.slot = some v then 1 else 0 := by
  unfold count
  rw [append, List.countP_append, List.countP_singleton]
  by_cases h : e.verdict? i.slot = some v <;> simp [h]

theorem isMatched_append : (i.append e).isMatched ↔ i.isMatched ∨ e.verdict? i.slot = some .matched := by
  unfold isMatched
  rw [count_append]
  split <;> simp_all

theorem misses_append :
    (i.append e).misses = i.misses + if e.verdict? i.slot = some .mismatch then 1 else 0 :=
  count_append e i .mismatch

end Issue

end Append

namespace CodeSettings

variable (c : CodeSettings) (slot : CodeSlot) (past : List CodeEvent) (e : CodeEvent)

/-- The entry that a history leaves for a slot: nothing after a match. -/
def kept? : Option CodeEntry :=
  (lastIssue? slot past).bind fun i =>
    if i.isMatched then none
    else some ⟨⟨i.code, c.maxAttempts.toInt - i.misses⟩, i.time + c.lifetime⟩

/-- An entry is an unmatched issue with the attempts that its misses leave. -/
theorem kept?_eq_some {entry : CodeEntry} (h : c.kept? slot past = some entry) :
    ∃ i, lastIssue? slot past = some i ∧ ¬ i.isMatched ∧
      entry = ⟨⟨i.code, c.maxAttempts.toInt - i.misses⟩, i.time + c.lifetime⟩ := by
  unfold kept? at h
  obtain ⟨i, hi, he⟩ := Option.bind_eq_some_iff.mp h
  by_cases hm : i.isMatched
  · rw [if_pos hm] at he
    cases he
  · rw [if_neg hm, Option.some.injEq] at he
    exact ⟨i, hi, hm, he.symm⟩

/-- An entry when one of its attempts has ended. -/
def spend (v : Verdict) (entry : CodeEntry) : Option CodeEntry :=
  match v with
  | .matched => none
  | .mismatch => some { entry with record := { entry.record with attemptsLeft := entry.record.attemptsLeft - 1 } }

/-- What becomes of a slot's entry by a call for the slot. -/
def next (entry : Option CodeEntry) : Option CodeEntry :=
  match e.call, e.answer with
  | .store _ code, .stored (.ok ()) => some ⟨⟨code, c.maxAttempts.toInt⟩, e.time + c.lifetime⟩
  | .verify _ _, .verified (.ok v) => entry.bind (spend v)
  | _, _ => entry

theorem kept?_append_issue {code : String} (h : e.issued? slot = some code) :
    c.kept? slot (past ++ [e]) = some ⟨⟨code, c.maxAttempts.toInt⟩, e.time + c.lifetime⟩ := by
  simp [kept?, lastIssue?_append, h, Issue.isMatched, Issue.misses, Issue.count]

theorem kept?_append_attempt {v : Verdict} (hi : e.issued? slot = none) (hv : e.verdict? slot = some v) :
    c.kept? slot (past ++ [e]) = (c.kept? slot past).bind (spend v) := by
  unfold kept?
  rw [lastIssue?_append, hi, Option.map_none, Option.none_or]
  cases hl : lastIssue? slot past with
  | none => rfl
  | some i =>
    have hs : e.verdict? i.slot = some v := by rw [(lastIssue?_mem slot past hl).1, hv]
    simp only [Option.map_some, Option.bind_some, Issue.isMatched_append, Issue.misses_append, hs,
      Issue.append_time, Issue.append_code]
    by_cases hm : i.isMatched
    · simp [hm]
    · cases v with
      | matched => simp [hm, spend]
      | mismatch => simp [hm, spend]; omega

theorem kept?_append_other (hi : e.issued? slot = none) (hv : e.verdict? slot = none) :
    c.kept? slot (past ++ [e]) = c.kept? slot past := by
  unfold kept?
  rw [lastIssue?_append, hi, Option.map_none, Option.none_or]
  cases hl : lastIssue? slot past with
  | none => rfl
  | some i =>
    have hs : e.verdict? i.slot = none := by rw [(lastIssue?_mem slot past hl).1, hv]
    simp [Issue.isMatched_append, Issue.misses_append, hs]

/-- A call changes the entry of its slot only. -/
theorem kept?_append : c.kept? slot (past ++ [e]) =
    if e.call.slot = slot then c.next e (c.kept? slot past) else c.kept? slot past := by
  obtain ⟨t, call, answer⟩ := e
  by_cases h : call.slot = slot
  · rw [if_pos h]
    subst h
    cases call with
    | store s code =>
      rcases answer with (f | u) | r
      · exact kept?_append_other c s past _ rfl rfl
      · exact kept?_append_issue c s past _ (if_pos rfl)
      · exact kept?_append_other c s past _ rfl rfl
    | verify s input =>
      rcases answer with r | (f | v)
      · exact kept?_append_other c s past _ rfl rfl
      · exact kept?_append_other c s past _ rfl rfl
      · exact kept?_append_attempt c s past _ rfl (if_pos rfl)
  · rw [if_neg h]
    refine kept?_append_other c slot past _ ?_ ?_
    · simp only [CodeEvent.issued?]
      split
      · exact if_neg h
      · rfl
    · simp only [CodeEvent.verdict?]
      split
      · exact if_neg h
      · rfl

variable {past} {t : Nat} (ordered : ∀ a ∈ past, a.time ≤ t)
include ordered

/-- A store comes too soon when the entry has more lifetime left than the threshold. -/
theorem due_store (code : String) : c.due past t (.store slot code) = .stored
    (if (c.kept? slot past).any fun entry => decide (c.reissueThreshold * 1000 < entry.expiresAt - t) then
      .error .tooFrequent else .ok ()) := by
  cases hl : lastIssue? slot past with
  | none => simp [due, kept?, hl]
  | some i =>
    obtain ⟨-, a, ha, -, hat⟩ := lastIssue?_mem slot past hl
    have hle : i.time ≤ t := hat ▸ ordered a ha
    have hiff : t - i.time < min c.cooldown c.lifetime ↔
        c.reissueThreshold * 1000 < i.time + c.lifetime - t := by
      simp only [cooldown, lifetime, reissueThreshold]; omega
    by_cases hm : i.isMatched
    · simp [due, kept?, hl, hm]
    · by_cases hf : c.reissueThreshold * 1000 < i.time + c.lifetime - t
      · simp [due, kept?, hl, hm, hiff, hf]
      · simp [due, kept?, hl, hm, hiff, hf]

/-- A verify is an attempt on the entry, while that lives. -/
theorem due_verify (input : String) : c.due past t (.verify slot input) = .verified
    (match (c.kept? slot past).filter fun entry => decide (t < entry.expiresAt) with
      | none => .error .notFound
      | some entry => (entry.record.attempt input).1) := by
  simp only [due, kept?]
  cases hl : lastIssue? slot past with
  | none => rfl
  | some i =>
    obtain ⟨-, a, ha, -, hat⟩ := lastIssue?_mem slot past hl
    have hle : i.time ≤ t := hat ▸ ordered a ha
    by_cases hm : i.isMatched
    · simp [hm]
    by_cases hx : c.lifetime ≤ t - i.time
    · have hdead : ¬ t < i.time + c.lifetime := by omega
      simp [hm, hx, Option.filter, hdead]
    · have hlive : t < i.time + c.lifetime := by omega
      have hspent : c.maxAttempts.toInt - i.misses ≤ 0 ↔ c.maxAttempts.toInt ≤ i.misses := by omega
      simp only [hm, hx, hlive, or_self, if_false, Option.bind_some, Option.filter, decide_true, if_true,
        CodeRecord.attempt, hspent]
      by_cases ha : c.maxAttempts.toInt ≤ i.misses
      · simp [ha]
      · by_cases hc : input = i.code
        · simp [ha, hc]
        · simp [ha, hc, Ne.symm hc]

end CodeSettings

/-! ## What every call keeps -/

/-- What every call of a run keeps of history and state holds of all of the run, and so does what
    every call then answers. -/
theorem history_induct {σ : Type} (store : CodeStore σ) {calls : List (Nat × CodeCall)}
    (Inv : List CodeEvent → σ → Prop) (Good : List CodeEvent → CodeEvent → Prop)
    (step : ∀ past s t call, (t, call) ∈ calls → (∀ a ∈ past, a.time ≤ t) → Inv past s →
      Good past ⟨t, call, ((store.perform call).run t s).value⟩ ∧
        Inv (past ++ [⟨t, call, ((store.perform call).run t s).value⟩]) ((store.perform call).run t s).state)
    {init : σ} (start : Inv [] init) (ordered : InOrder calls) :
    Inv (store.history init calls) (store.after init calls) ∧
      ∀ past e later, store.history init calls = past ++ e :: later → Good past e := by
  -- Over the calls still to come, with any history behind them.
  have main : ∀ rest before s, rest ⊆ calls → InOrder rest → (∀ a ∈ before, ∀ x ∈ rest, a.time ≤ x.1) →
      Inv before s → Inv (before ++ store.history s rest) (store.after s rest) ∧
        ∀ past e later, store.history s rest = past ++ e :: later → Good (before ++ past) e := by
    intro rest
    induction rest with
    | nil =>
      intro before s _ _ _ hI
      refine ⟨by simpa [CodeStore.history, CodeStore.after] using hI, fun past e later h => ?_⟩
      simp [CodeStore.history] at h
    | cons x rest ih =>
      intro before s hsub hord hle hI
      obtain ⟨t, call⟩ := x
      have hmem : (t, call) ∈ calls := hsub List.mem_cons_self
      obtain ⟨hG, hI'⟩ := step before s t call hmem (fun a ha => hle a ha _ List.mem_cons_self) hI
      have hord' := List.pairwise_cons.mp hord
      obtain ⟨hend, hall⟩ := ih _ _ (fun y hy => hsub (List.mem_cons_of_mem _ hy)) hord'.2
        (fun a ha y hy => by
          rcases List.mem_append.mp ha with ha | ha
          · exact hle a ha y (List.mem_cons_of_mem _ hy)
          · rw [List.mem_singleton.mp ha]; exact hord'.1 y hy) hI'
      refine ⟨by simpa [CodeStore.history, CodeStore.after] using hend, fun past e later h => ?_⟩
      rw [CodeStore.history] at h
      cases past with
      | nil =>
        simp only [List.nil_append, List.cons.injEq] at h
        rw [List.append_nil, ← h.1]; exact hG
      | cons a past =>
        simp only [List.cons_append, List.cons.injEq] at h
        rw [← h.1]
        simpa using hall past e later h.2
  obtain ⟨hend, hall⟩ := main calls [] init (fun _ h => h) ordered (fun _ h => nomatch h) start
  exact ⟨by simpa using hend, fun past e later h => by simpa using hall past e later h⟩

end Passcode
