/-
  Passcode.Proofs.Dispatch.Schedule — when a send is repeated.

  The sender inside is called at once. While a call ends with a fault that may pass and repetitions are
  left, the next one begins when a wait is over that doubles each time. A wait must end by the caller's
  deadline, and ending on it is in time; one that cannot be is not begun when the deadline has come, and is
  otherwise broken off on the deadline, and the send is cancelled.

  Calls are noted by the sender inside, which may take any time, answer anything and do anything to its
  state. Waits have no longest length here.

  Proved: how a wait under a deadline ends (`run_sleep_cases`), and so when each call is made and what the
  caller hears (`retries_on_schedule`); the notes change nothing.
-/

import Mathlib.Algebra.Group.Nat.Defs
import Passcode.Dispatch.Policy
import Passcode.Proofs.Logged

namespace Passcode

variable {σ : Type}

/-! ## Calls of a sender -/

/-- A call of a sender that is over. -/
structure Attempt where
  ctx : Context
  message : Message
  began : Nat
  ended : Nat
  result : Delivery

namespace Attempt

/-- The call ended with a fault that may pass, and follows fewer repetitions than are allowed. -/
def IsDue (retries j : Nat) (a : Attempt) : Prop :=
  (∃ fault, a.result = .error fault ∧ fault.isRetryable = true) ∧ j < retries

theorem isDue_succ {retries j : Nat} {a : Attempt} : a.IsDue (retries + 1) (j + 1) ↔ a.IsDue retries j := by
  simp [IsDue]

end Attempt

/-- A sender that notes its calls, and when they begin and end. -/
def Sender.timed (sender : Sender σ) : Sender (Logged Attempt σ) := fun ctx message => do
  let began ← Task.now
  let result ← Logged.lift (sender ctx message)
  Logged.note fun ended => ⟨ctx, message, began, ended, result⟩
  return result

theorem Sender.timed_run (sender : Sender σ) (ctx : Context) (message : Message) (t : Nat) (s : Logged Attempt σ) :
    (sender.timed ctx message).run t s =
      let e := (sender ctx message).run t s.inner
      ⟨e.time, ⟨e.state, s.log ++ [⟨ctx, message, t, e.time, e.value⟩]⟩, e.value⟩ := by
  simp only [timed, Logged.note, Task.now, Task.run_bind, Task.act, Task.run_step, Task.run_done, Task.run_pure,
    Logged.run_lift]

/-! ## Waits -/

/-- A wait that begins at an instant ends by the deadline. -/
def Context.Allows (ctx : Context) (now delay : Nat) : Prop :=
  ∀ deadline ∈ ctx.deadline, now < deadline ∧ now + delay ≤ deadline

/-- A wait that is not allowed is over at once when the deadline has come, and else on the deadline. -/
structure Context.BreaksOff (ctx : Context) (now time : Nat) : Prop where
  atOnce : ctx.isExpired now = true → time = now
  onDeadline : ctx.isExpired now = false → ctx.deadline = some time

theorem Context.run_sleep_cases (ctx : Context) (delay t : Nat) :
    (ctx.Allows t delay ∧ ∀ {τ : Type} (s : τ), (ctx.run (Task.sleep delay)).run t s = ⟨t + delay, s, some ()⟩) ∨
      ¬ ctx.Allows t delay ∧ ∃ time, ctx.BreaksOff t time ∧
        ∀ {τ : Type} (s : τ), (ctx.run (Task.sleep delay)).run t s = ⟨time, s, none⟩ := by
  obtain ⟨_ | deadline⟩ := ctx
  · exact Or.inl ⟨nofun, fun _ => rfl⟩
  · have hallows : Context.Allows ⟨some deadline⟩ t delay ↔ t < deadline ∧ t + delay ≤ deadline := by
      simp [Allows]
    have hexpired : Context.isExpired ⟨some deadline⟩ t = decide (deadline ≤ t) := rfl
    rw [hallows]
    by_cases hlive : t < deadline
    · by_cases hfits : delay ≤ deadline - t
      · refine Or.inl ⟨⟨hlive, by omega⟩, fun s => ?_⟩
        rw [run_before_deadline _ hlive]
        simp only [Task.sleep, Task.within, if_pos hfits, Task.run_wait, Task.run_done]
      · refine Or.inr ⟨by omega, deadline, ⟨fun h => ?_, fun _ => rfl⟩, fun s => ?_⟩
        · rw [hexpired, decide_eq_true_eq] at h
          omega
        · have hend : t + (deadline - t) = deadline := by omega
          rw [run_before_deadline _ hlive]
          simp only [Task.sleep, Task.within, if_neg hfits, Task.run_wait, Task.run_done, hend]
    · refine Or.inr ⟨fun h => hlive h.1, t, ⟨fun _ => rfl, fun h => ?_⟩, run_past_deadline _ hlive⟩
      rw [hexpired, decide_eq_false_iff_not] at h
      omega

/-! ## The schedule -/

/-- The calls of a send that is repeated, each with its place in the order, and when and how the send ends. -/
structure Scheduled (retries delay : Nat) (ctx : Context) (message : Message) (t : Nat) (attempts : List Attempt)
    (time : Nat) (result : Delivery) : Prop where
  same : ∀ a ∈ attempts, a.ctx = ctx ∧ a.message = message
  first : ∃ a, attempts[0]? = some a ∧ a.began = t
  /-- A call is followed by another exactly when this is due and the wait before it is allowed, -/
  again : ∀ j a, attempts[j]? = some a →
    (j + 1 < attempts.length ↔ a.IsDue retries j ∧ ctx.Allows a.ended (delay * 2 ^ j))
  /-- which begins when the wait is over. -/
  onTime : ∀ j a b, attempts[j]? = some a → attempts[j + 1]? = some b → b.began = a.ended + delay * 2 ^ j
  /-- The caller hears how the last call ended, -/
  told : ∀ j a, attempts[j]? = some a → j + 1 = attempts.length → ¬ a.IsDue retries j →
    result = a.result ∧ time = a.ended
  /-- but of a cancellation when another call was due. -/
  cancelled : ∀ j a, attempts[j]? = some a → j + 1 = attempts.length → a.IsDue retries j →
    result = .error .cancelled ∧ ctx.BreaksOff a.ended time

namespace Scheduled

theorem delay_doubled (delay j : Nat) : delay * 2 ^ (j + 1) = delay * 2 * 2 ^ j := by
  rw [Nat.pow_succ', Nat.mul_assoc]

variable {retries delay t time : Nat} {ctx : Context} {message : Message} {a : Attempt} {rest : List Attempt}
  {result : Delivery}

/-- A send that is over after one call. -/
theorem single (same : a.ctx = ctx ∧ a.message = message) (began : a.began = t)
    (ends : a.IsDue retries 0 → ¬ ctx.Allows a.ended delay)
    (told : ¬ a.IsDue retries 0 → result = a.result ∧ time = a.ended)
    (cancelled : a.IsDue retries 0 → result = .error .cancelled ∧ ctx.BreaksOff a.ended time) :
    Scheduled retries delay ctx message t [a] time result := by
  have honly : ∀ {j b}, [a][j]? = some b → j = 0 ∧ b = a := by
    intro j b hb
    cases j with
    | zero => exact ⟨rfl, by simpa using hb.symm⟩
    | succ j => simp at hb
  refine ⟨List.forall_mem_singleton.mpr same, ⟨a, rfl, began⟩, fun j b hb => ?_, fun j b c hb hc => ?_,
    fun j b hb _ => ?_, fun j b hb _ => ?_⟩
  · obtain ⟨rfl, rfl⟩ := honly hb
    simpa using ends
  · exact absurd (honly hc).1 (Nat.succ_ne_zero j)
  · obtain ⟨rfl, rfl⟩ := honly hb
    exact told
  · obtain ⟨rfl, rfl⟩ := honly hb
    exact cancelled

/-- A send that ends as its last call did. -/
theorem last (same : a.ctx = ctx ∧ a.message = message) (began : a.began = t) (hlast : ¬ a.IsDue retries 0) :
    Scheduled retries delay ctx message t [a] a.ended a.result :=
  .single same began (absurd · hlast) (fun _ => ⟨rfl, rfl⟩) (absurd · hlast)

theorem length_pos (h : Scheduled retries delay ctx message t rest time result) : 0 < rest.length := by
  obtain ⟨b, hb, -⟩ := h.first
  exact (List.getElem?_eq_some_iff.mp hb).1

/-- A call, a wait of the first length, and a send whose first wait is twice as long. -/
theorem cons (same : a.ctx = ctx ∧ a.message = message) (began : a.began = t)
    (passing : ∃ fault, a.result = .error fault ∧ fault.isRetryable = true) (allowed : ctx.Allows a.ended delay)
    (h : Scheduled retries (delay * 2) ctx message (a.ended + delay) rest time result) :
    Scheduled (retries + 1) delay ctx message t (a :: rest) time result where
  same := List.forall_mem_cons.mpr ⟨same, h.same⟩
  first := ⟨a, rfl, began⟩
  again j b hb := by
    cases j with
    | zero =>
      cases hb
      have hlen := h.length_pos
      refine ⟨fun _ => ⟨⟨passing, Nat.succ_pos _⟩, ?_⟩, fun _ => by simpa using hlen⟩
      rwa [Nat.pow_zero, Nat.mul_one]
    | succ j =>
      rw [delay_doubled, Attempt.isDue_succ, ← h.again j b hb, List.length_cons, Nat.add_lt_add_iff_right]
  onTime j b c hb hc := by
    rw [List.getElem?_cons_succ] at hc
    cases j with
    | zero =>
      cases hb
      obtain ⟨c', hc', hbegan⟩ := h.first
      rw [hc'] at hc
      cases hc
      rwa [Nat.pow_zero, Nat.mul_one]
    | succ j =>
      rw [delay_doubled]
      exact h.onTime j b c hb hc
  told j b hb hlast hdue := by
    cases j with
    | zero =>
      cases hb
      exact absurd ⟨passing, Nat.succ_pos _⟩ hdue
    | succ j =>
      rw [Attempt.isDue_succ] at hdue
      exact h.told j b hb (Nat.succ_inj.mp hlast) hdue
  cancelled j b hb hlast hdue := by
    cases j with
    | zero =>
      have hlen := h.length_pos
      rw [List.length_cons] at hlast
      omega
    | succ j =>
      rw [Attempt.isDue_succ] at hdue
      exact h.cancelled j b hb (Nat.succ_inj.mp hlast) hdue

end Scheduled

/-! ## Repeated sends -/

section
variable {sender : Sender σ} {retries delay t t' time : Nat} {ctx : Context} {message : Message} {s s' : σ}
  {fault : SendFault}

theorem Dispatch.retry_sent (h : (sender ctx message).run t s = ⟨t', s', .ok ()⟩) :
    (retry sender (retries + 1) delay ctx message).run t s = ⟨t', s', .ok ()⟩ := by
  rw [retry, Task.run_bind, h]
  rfl

theorem Dispatch.retry_lasting (h : (sender ctx message).run t s = ⟨t', s', .error fault⟩)
    (lasting : fault.isRetryable = false) :
    (retry sender (retries + 1) delay ctx message).run t s = ⟨t', s', .error fault⟩ := by
  rw [retry, Task.run_bind, h]
  simp only [lasting, Bool.false_eq_true, if_false, Task.run_pure]

theorem Dispatch.retry_cutOff (h : (sender ctx message).run t s = ⟨t', s', .error fault⟩)
    (passing : fault.isRetryable = true) (hwait : (ctx.run (Task.sleep delay)).run t' s' = ⟨time, s', none⟩) :
    (retry sender (retries + 1) delay ctx message).run t s = ⟨time, s', .error .cancelled⟩ := by
  rw [retry, Task.run_bind, h]
  simp only [passing, if_true]
  rw [Task.run_bind, hwait]
  rfl

theorem Dispatch.retry_again (h : (sender ctx message).run t s = ⟨t', s', .error fault⟩)
    (passing : fault.isRetryable = true) (hwait : (ctx.run (Task.sleep delay)).run t' s' = ⟨time, s', some ()⟩) :
    (retry sender (retries + 1) delay ctx message).run t s =
      (retry sender retries (delay * 2) ctx message).run time s' := by
  rw [retry, Task.run_bind, h]
  simp only [passing, if_true]
  rw [Task.run_bind, hwait]

end

section
variable (sender : Sender σ) (ctx : Context) (message : Message)

/-- What a repeated send notes follows the schedule, and without the notes it ends as it does with them. -/
theorem retry_scheduled (retries delay t : Nat) (s : Logged Attempt σ) :
    let e := (Dispatch.retry sender.timed retries delay ctx message).run t s
    (∃ attempts, e.state.log = s.log ++ attempts ∧
      Scheduled retries delay ctx message t attempts e.time e.value) ∧
    (Dispatch.retry sender retries delay ctx message).run t s.inner = ⟨e.time, e.state.inner, e.value⟩ := by
  induction retries generalizing delay t s with
  | zero =>
    rw [Dispatch.retry, sender.timed_run]
    exact ⟨⟨_, rfl, .last ⟨rfl, rfl⟩ rfl fun hdue => Nat.not_lt_zero 0 hdue.2⟩, rfl⟩
  | succ retries ih =>
    obtain ⟨t', s', result, hcall⟩ : ∃ t' s' result, (sender ctx message).run t s.inner = ⟨t', s', result⟩ :=
      ⟨_, _, _, rfl⟩
    have hnoted := sender.timed_run ctx message t s
    rw [hcall] at hnoted
    dsimp only at hnoted
    rcases result with fault | ⟨⟩
    · cases hpassing : fault.isRetryable with
      | false =>
        have hlast : ¬ Attempt.IsDue (retries + 1) 0 ⟨ctx, message, t, t', .error fault⟩ := by
          rintro ⟨⟨_, ⟨⟩, hother⟩, -⟩
          rw [hpassing] at hother
          cases hother
        rw [Dispatch.retry_lasting hnoted hpassing, Dispatch.retry_lasting hcall hpassing]
        exact ⟨⟨_, rfl, .last ⟨rfl, rfl⟩ rfl hlast⟩, rfl⟩
      | true =>
        have hdue : Attempt.IsDue (retries + 1) 0 ⟨ctx, message, t, t', .error fault⟩ :=
          ⟨⟨fault, rfl, hpassing⟩, Nat.succ_pos _⟩
        obtain ⟨hallowed, hwait⟩ | ⟨hrefused, time, hbreak, hwait⟩ := ctx.run_sleep_cases delay t'
        · rw [Dispatch.retry_again hnoted hpassing (hwait _), Dispatch.retry_again hcall hpassing (hwait _)]
          obtain ⟨⟨attempts, hlog, hrest⟩, hplain⟩ := ih (delay * 2) (t' + delay)
            ⟨s', s.log ++ [⟨ctx, message, t, t', .error fault⟩]⟩
          refine ⟨⟨_ :: attempts, hlog.trans (List.append_cons ..).symm, ?_⟩, hplain⟩
          exact .cons ⟨rfl, rfl⟩ rfl hdue.1 hallowed hrest
        · rw [Dispatch.retry_cutOff hnoted hpassing (hwait _), Dispatch.retry_cutOff hcall hpassing (hwait _)]
          exact ⟨⟨_, rfl, .single ⟨rfl, rfl⟩ rfl (fun _ => hrefused) (absurd hdue) fun _ => ⟨rfl, hbreak⟩⟩, rfl⟩
    · have hlast : ¬ Attempt.IsDue (retries + 1) 0 ⟨ctx, message, t, t', .ok ()⟩ := by
        rintro ⟨⟨_, ⟨⟩, -⟩, -⟩
      rw [Dispatch.retry_sent hnoted, Dispatch.retry_sent hcall]
      exact ⟨⟨_, rfl, .last ⟨rfl, rfl⟩ rfl hlast⟩, rfl⟩

end

/-- For every sender, number of repetitions and first wait, and whatever the deadline: the sender is called at once,
    and again exactly while its fault may pass, repetitions are left and the doubling wait ends by the
    deadline, at the end of that wait. The caller hears how the last call ended, unless a wait was not
    allowed; then the send is cancelled, at once when the deadline has come and on the deadline otherwise. -/
theorem retries_on_schedule (sender : Sender σ) (ctx : Context) (message : Message) (retries delay t : Nat) (s : σ) :
    let e := (Dispatch.retry sender.timed retries delay ctx message).run t ⟨s, []⟩
    Scheduled retries delay ctx message t e.state.log e.time e.value ∧
      (Dispatch.retry sender retries delay ctx message).run t s = ⟨e.time, e.state.inner, e.value⟩ := by
  intro e
  obtain ⟨⟨attempts, hlog, hscheduled⟩, hplain⟩ := retry_scheduled sender ctx message retries delay t ⟨s, []⟩
  have hattempts : e.state.log = attempts := hlog
  rw [hattempts]
  exact ⟨hscheduled, hplain⟩

/-- The second wait ends on the deadline and the third is not begun. -/
example :
    let slow : Sender Unit := fun _ _ => return .error (.providerTimeout "slow")
    let e := (Dispatch.retry slow.timed 5 100 (.bounded 300) ⟨"verify_code", [], []⟩).run 0 ⟨(), []⟩
    e.state.log.map Attempt.began = [0, 100, 300] ∧ e.time = 300 ∧ e.value = .error .cancelled :=
  ⟨rfl, rfl, rfl⟩

end Passcode
