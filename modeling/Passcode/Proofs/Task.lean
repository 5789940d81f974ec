/-
  Passcode.Proofs.Task — what holds of a task also when it is cut off, and how far it gets at an instant.

  A task keeps `I` when every step of it does, whatever the time, and what it ends with satisfies `P`
  (`Keeps`). Since a deadline only ever takes away the end of a task, what is kept is kept up to any
  deadline (`Keeps.context`, `Keeps.run`). A task that is over in time is not changed by its deadline
  (`within_run`), one that is not ends there (`within_cutOff`), and one whose value survived was over in time
  (`within_eq_some`).

  Tasks that overlap give way to each other where they wait. All that a task does between two waits, it does
  at one instant (`burst`), and a run is nothing else but bursts (`run_burst`).
-/

import Passcode.Context

namespace Passcode

namespace Task

variable {σ α β : Type}

theorem run_map (f : α → β) (task : Task σ α) (t : Nat) (s : σ) :
    (f <$> task).run t s = ⟨(task.run t s).time, (task.run t s).state, f (task.run t s).value⟩ :=
  run_bind task _ t s

/-- Every step keeps `I`, and every value that the task may end with satisfies `P`. -/
def Keeps (I : σ → Prop) (P : α → Prop) : Task σ α → Prop
  | done a => P a
  | step change rest => ∀ t s, I s → I (change t s) ∧ (rest t s).Keeps I P
  | wait _ rest => rest.Keeps I P

variable {I : σ → Prop} {P : α → Prop} {Q : β → Prop}

theorem Keeps.run {task : Task σ α} (h : task.Keeps I P) {t : Nat} {s : σ} (hs : I s) :
    I (task.run t s).state ∧ P (task.run t s).value := by
  induction task generalizing t s with
  | done a => exact ⟨hs, h⟩
  | step change rest ih =>
    obtain ⟨hc, hr⟩ := h t s hs
    exact ih t s hr hc
  | wait d rest ih => exact ih h hs

theorem Keeps.bind {task : Task σ α} {next : α → Task σ β} (h : task.Keeps I P)
    (hn : ∀ a, P a → (next a).Keeps I Q) : (task >>= next).Keeps I Q := by
  show (task.bind next).Keeps I Q
  induction task with
  | done a => exact hn a h
  | step change rest ih => exact fun t s hs => ⟨(h t s hs).1, ih t s (h t s hs).2⟩
  | wait d rest ih => exact ih h

theorem Keeps.map {task : Task σ α} {f : α → β} (h : task.Keeps I P) (hf : ∀ a, P a → Q (f a)) :
    (f <$> task).Keeps I Q :=
  h.bind fun a ha => hf a ha

theorem keeps_act {f : Nat → σ → α × σ} (h : ∀ t s, I s → I (f t s).2 ∧ P (f t s).1) : (act f).Keeps I P :=
  fun t s hs => ⟨(h t s hs).1, (h t s hs).2⟩

/-- Every task keeps what always holds. -/
theorem keeps_true (task : Task σ α) : task.Keeps (fun _ => True) fun _ => True := by
  induction task with
  | done a => trivial
  | step change rest ih => exact fun t s _ => ⟨trivial, ih t s⟩
  | wait d rest ih => exact ih

/-- What work ends with is up to what comes last. -/
theorem keeps_bind {task : Task σ α} {next : α → Task σ β} (h : ∀ a, (next a).Keeps (fun _ => True) Q) :
    (task >>= next).Keeps (fun _ => True) Q :=
  (keeps_true task).bind fun a _ => h a

/-- What a task keeps, it keeps as far as it gets. -/
theorem Keeps.within {task : Task σ α} (h : task.Keeps I P) (left : Nat) :
    (task.within left).Keeps I fun o => ∀ a ∈ o, P a := by
  induction task generalizing left with
  | done a =>
    intro b hb
    cases hb
    exact h
  | step change rest ih => exact fun t s hs => ⟨(h t s hs).1, ih t s (h t s hs).2 left⟩
  | wait d rest ih =>
    unfold Task.within
    by_cases hd : d ≤ left
    · rw [if_pos hd]
      exact ih h (left - d)
    · rw [if_neg hd]
      intro a ha
      cases ha

theorem Keeps.context {task : Task σ α} (h : task.Keeps I P) (ctx : Context) :
    (ctx.run task).Keeps I fun o => ∀ a ∈ o, P a := by
  unfold Context.run
  cases ctx.deadline with
  | none =>
    refine h.map fun a ha b hb => ?_
    cases hb
    exact ha
  | some deadline =>
    refine Keeps.bind (P := fun _ => True) (keeps_act fun _ _ hs => ⟨hs, trivial⟩) fun now _ => ?_
    by_cases hd : deadline ≤ now
    · rw [if_pos hd]
      intro a ha
      cases ha
    · rw [if_neg hd]
      exact h.within _

/-- A wait under a deadline leaves the state as it is. -/
theorem run_sleep_state (ctx : Context) (delay t : Nat) (s : σ) : ((ctx.run (sleep delay)).run t s).state = s := by
  have hsleep : (sleep delay).Keeps (· = s) fun _ => True := trivial
  exact ((hsleep.context ctx).run rfl).1

/-- Work that acts at once and then leaves the state as it is, does so under a deadline as well. -/
theorem run_within_act {f : Nat → σ → β × σ} {next : β → Task σ α}
    (hn : ∀ b s, (next b).Keeps (· = s) fun _ => True) (left t : Nat) (s : σ) :
    (((act f >>= next).within left).run t s).state = (f t s).2 :=
  (((hn (f t s).1 (f t s).2).within left).run rfl).1

/-! ## Parts of a state -/

/-- `put` changes a part of a state, which `part` reads, and nothing else. -/
structure IsPart {τ : Type} (part : τ → σ) (put : σ → τ → τ) : Prop where
  part_put (a : σ) (s : τ) : part (put a s) = a
  put_put (a b : σ) (s : τ) : put a (put b s) = put a s
  put_part (s : τ) : put (part s) s = s

section
variable {τ : Type} {part : τ → σ} {put : σ → τ → τ}

/-- Work on a part does there what it does alone, and changes nothing else. -/
theorem run_focus (h : IsPart part put) (task : Task σ α) (t : Nat) (s : τ) : (task.focus part put).run t s =
    let e := task.run t (part s)
    ⟨e.time, put e.state s, e.value⟩ := by
  induction task generalizing t s with
  | done a => exact congrArg (End.mk t · a) (h.put_part s).symm
  | step change rest ih =>
    have hrest := ih t (part s) t (put (change t (part s)) s)
    rw [h.part_put] at hrest
    simp only [h.put_put] at hrest
    exact hrest
  | wait d rest ih => exact ih (t + d) s

/-- Work on a part ends with what it ends with alone. -/
theorem Keeps.focus {task : Task σ α} (h : task.Keeps (fun _ => True) P) :
    (task.focus part put).Keeps (fun _ => True) P := by
  induction task with
  | done a => exact h
  | step change rest ih => exact fun t s _ => ⟨trivial, ih t (part s) (h t (part s) trivial).2⟩
  | wait d rest ih => exact ih h

theorem focus_bind (task : Task σ α) (next : α → Task σ β) :
    (task >>= next).focus part put = task.focus part put >>= fun a => (next a).focus part put := by
  show (task.bind next).focus part put = (task.focus part put).bind fun a => (next a).focus part put
  induction task with
  | done a => rfl
  | step change rest ih => exact congrArg (step _) (funext fun t => funext fun s => ih t (part s))
  | wait d rest ih => exact congrArg (wait d) ih

theorem within_focus (task : Task σ α) (left : Nat) :
    (task.focus part put).within left = (task.within left).focus part put := by
  induction task generalizing left with
  | done a => rfl
  | step change rest ih => exact congrArg (step _) (funext fun t => funext fun s => ih t (part s) left)
  | wait d rest ih =>
    have hwithin : ((wait d rest).focus part put).within left =
        if d ≤ left then wait d ((rest.focus part put).within (left - d)) else wait left (done none) := rfl
    rw [hwithin, ih, within]
    split <;> rfl

/-- A deadline does to work on a part what it does to the work. -/
theorem context_focus (h : IsPart part put) (ctx : Context) (task : Task σ α) :
    ctx.run (task.focus part put) = (ctx.run task).focus part put := by
  have hnow : now.focus part put = now := by
    have hsame : ∀ s, put (part s) s = s := h.put_part
    simp [now, act, focus, hsame]
  obtain ⟨_ | deadline⟩ := ctx
  · exact (focus_bind task fun a => Pure.pure (some a)).symm
  · show (now >>= fun t => if deadline ≤ t then Pure.pure none else (task.focus part put).within (deadline - t)) =
      (now >>= fun t => if deadline ≤ t then Pure.pure none else task.within (deadline - t)).focus part put
    rw [focus_bind, hnow]
    congr 1
    funext t
    rw [within_focus]
    split <;> rfl

/-- Under a deadline, too, work on a part changes nothing else. -/
theorem run_context_focus (h : IsPart part put) (ctx : Context) (task : Task σ α) (t : Nat) (s : τ) :
    (ctx.run (task.focus part put)).run t s =
      let e := (ctx.run task).run t (part s)
      ⟨e.time, put e.state s, e.value⟩ := by
  rw [context_focus h]
  exact run_focus h (ctx.run task) t s

end

/-! ## Single moves -/

/-- The next move of a task at a time: what is left of it, and the state. A finished task makes none. -/
def move (now : Nat) (s : σ) : Task σ α → Task σ α × σ
  | done a => (done a, s)
  | step change rest => (rest now s, change now s)
  | wait _ rest => (rest, s)

/-- Whether a task has no move left. -/
def isDone : Task σ α → Bool
  | done _ => true
  | _ => false

/-- What a task keeps, its next move keeps, and what is left of it. -/
theorem Keeps.move {task : Task σ α} (h : task.Keeps I P) (now : Nat) {s : σ} (hs : I s) :
    (task.move now s).1.Keeps I P ∧ I (task.move now s).2 := by
  cases task with
  | done a => exact ⟨h, hs⟩
  | step change rest => exact ⟨(h now s hs).2, (h now s hs).1⟩
  | wait d rest => exact ⟨h, hs⟩

theorem isDone_focus {τ : Type} (part : τ → σ) (put : σ → τ → τ) (task : Task σ α) :
    (task.focus part put).isDone = task.isDone := by
  cases task <;> rfl

theorem move_bind {task : Task σ α} (h : task.isDone = false) (next : α → Task σ β) (now : Nat) (s : σ) :
    (task >>= next).move now s = ((task.move now s).1 >>= next, (task.move now s).2) := by
  cases task with
  | done a => cases h
  | step change rest => rfl
  | wait d rest => rfl

theorem move_focus {τ : Type} (part : τ → σ) (put : σ → τ → τ) {task : Task σ α} (h : task.isDone = false)
    (now : Nat) (s : τ) (hput : put (part s) s = s) : (task.focus part put).move now s =
      ((task.move now (part s)).1.focus part put, put (task.move now (part s)).2 s) := by
  cases task with
  | done a => cases h
  | step change rest => rfl
  | wait d rest => exact Prod.ext rfl hput.symm

/-! ## Bursts -/

/-- How far a task gets at an instant: to its end, or to a wait. -/
inductive Halt (σ α : Type) where
  | ended (value : α)
  | asleep (delay : Nat) (rest : Task σ α)

namespace Halt

/-- What is left to do. -/
def task : Halt σ α → Task σ α
  | ended a => done a
  | asleep delay rest => wait delay rest

def focus {τ : Type} (part : τ → σ) (put : σ → τ → τ) : Halt σ α → Halt τ α
  | ended a => ended a
  | asleep delay rest => asleep delay (rest.focus part put)

end Halt

/-- All that a task does at an instant. -/
def burst (now : Nat) : Task σ α → σ → Halt σ α × σ
  | done a, s => (.ended a, s)
  | step change rest, s => (rest now s).burst now (change now s)
  | wait delay rest, s => (.asleep delay rest, s)

namespace Halt

/-- The value of a task that has ended. -/
def value? : Halt σ α → Option α
  | ended a => some a
  | asleep _ _ => none

/-- How far a task gets when it goes on; one that has ended does not. -/
def wake (now : Nat) : Halt σ α → σ → Halt σ α × σ
  | ended a, s => (ended a, s)
  | asleep _ rest, s => rest.burst now s

end Halt

/-- To run a task is to do all that it does at an instant, and then to run what is left. -/
theorem run_burst (task : Task σ α) (t : Nat) (s : σ) :
    task.run t s = (task.burst t s).1.task.run t (task.burst t s).2 := by
  induction task generalizing s with
  | done a => rfl
  | step change rest ih => exact ih t s (change t s)
  | wait d rest ih => rfl

section
variable {task : Task σ α} {now : Nat} {s s' : σ}

theorem burst_bind_ended {a : α} (h : task.burst now s = (.ended a, s')) (next : α → Task σ β) :
    (task >>= next).burst now s = (next a).burst now s' := by
  show (task.bind next).burst now s = _
  induction task generalizing s with
  | done b =>
    cases h
    rfl
  | step change rest ih => exact ih now s h
  | wait d rest ih => cases h

theorem burst_bind_asleep {delay : Nat} {rest : Task σ α} (h : task.burst now s = (.asleep delay rest, s'))
    (next : α → Task σ β) : (task >>= next).burst now s = (.asleep delay (rest >>= next), s') := by
  show (task.bind next).burst now s = _
  induction task generalizing s with
  | done b => cases h
  | step change rest ih => exact ih now s h
  | wait d rest ih =>
    cases h
    rfl

end

theorem burst_focus {τ : Type} {part : τ → σ} {put : σ → τ → τ} (h : IsPart part put) (task : Task σ α) (now : Nat)
    (s : τ) : (task.focus part put).burst now s =
      ((task.burst now (part s)).1.focus part put, put (task.burst now (part s)).2 s) := by
  induction task generalizing s with
  | done a => exact Prod.ext rfl (h.put_part s).symm
  | step change rest ih =>
    have hrest := ih now (part s) (put (change now (part s)) s)
    rw [h.part_put, h.put_put] at hrest
    exact hrest
  | wait d rest ih => exact Prod.ext rfl (h.put_part s).symm

/-! ## Deadlines -/

/-- A value that survived the deadline is the one of the task, as is the state. -/
theorem within_eq_some {task : Task σ α} {left t : Nat} {s : σ} {a : α}
    (h : ((task.within left).run t s).value = some a) :
    (task.run t s).value = a ∧ (task.run t s).state = ((task.within left).run t s).state := by
  induction task generalizing left t s with
  | done b =>
    cases h
    exact ⟨rfl, rfl⟩
  | step change rest ih => exact ih t s h
  | wait d rest ih =>
    by_cases hd : d ≤ left
    · simp only [within, hd, if_true, run_wait] at h ⊢
      exact ih h
    · simp only [within, hd, if_false, run_wait, run_done] at h
      cases h

/-- A task that is over in time is not changed by its deadline. -/
theorem within_run {task : Task σ α} {left t : Nat} {s : σ} (h : (task.run t s).time ≤ t + left) :
    (task.within left).run t s = ⟨(task.run t s).time, (task.run t s).state, some (task.run t s).value⟩ := by
  induction task generalizing left t s with
  | done b => rfl
  | step change rest ih => exact ih t s h
  | wait d rest ih =>
    have hle : t + d ≤ (rest.run (t + d) s).time := le_run_time rest (t + d) s
    simp only [run_wait] at h
    have hd : d ≤ left := by omega
    simp only [within, hd, if_true, run_wait]
    exact ih (by omega)

/-- A task that is not over in time ends there. -/
theorem within_cutOff {task : Task σ α} {left t : Nat} {s : σ} (h : t + left < (task.run t s).time) :
    ((task.within left).run t s).time = t + left ∧ ((task.within left).run t s).value = none := by
  induction task generalizing left t s with
  | done b =>
    simp only [run_done] at h
    omega
  | step change rest ih => exact ih t s h
  | wait d rest ih =>
    by_cases hd : d ≤ left
    · simp only [run_wait] at h
      have hlate : t + d + (left - d) < (rest.run (t + d) s).time := by omega
      obtain ⟨htime, hvalue⟩ := ih hlate
      simp only [within, hd, if_true, run_wait]
      exact ⟨by omega, hvalue⟩
    · simp only [within, hd, if_false, run_wait, run_done, and_self]

end Task

namespace Context

variable {σ α : Type} {ctx : Context} {work : Task σ α} {t : Nat} {s : σ}

theorem isExpired_of_le {t' : Nat} (h : ctx.isExpired t = true) (hle : t ≤ t') : ctx.isExpired t' = true := by
  obtain ⟨_ | deadline⟩ := ctx
  · cases h
  · have hd : deadline ≤ t := by simpa [isExpired] using h
    simpa [isExpired] using Nat.le_trans hd hle

theorem run_without_deadline (work : Task σ α) (t : Nat) (s : σ) : (Context.run ⟨none⟩ work).run t s =
    ⟨(work.run t s).time, (work.run t s).state, some (work.run t s).value⟩ :=
  Task.run_map some work t s

theorem run_past_deadline (work : Task σ α) {t deadline : Nat} (h : ¬ t < deadline) (s : σ) :
    (Context.run ⟨some deadline⟩ work).run t s = ⟨t, s, none⟩ :=
  run_expired _ work t s (by simpa [isExpired] using h)

theorem run_before_deadline (work : Task σ α) {t deadline : Nat} (h : t < deadline) (s : σ) :
    (Context.run ⟨some deadline⟩ work).run t s = (work.within (deadline - t)).run t s := by
  have hd : ¬ deadline ≤ t := by omega
  simp [Context.run, Task.run_bind, Task.now, Task.act, hd]

/-- Work under a deadline is over by the deadline, or at once. -/
theorem run_bounded_time_le (deadline : Nat) (work : Task σ α) (t : Nat) (s : σ) :
    (((bounded deadline).run work).run t s).time ≤ max t deadline := by
  by_cases h : t < deadline
  · have hle := Task.run_within_time_le work (deadline - t) t s
    rw [bounded, run_before_deadline work h]
    omega
  · rw [bounded, run_past_deadline work h]
    exact Nat.le_max_left ..

theorem run_eq_some {a : α} (h : ((ctx.run work).run t s).value = some a) :
    (work.run t s).value = a ∧ (work.run t s).state = ((ctx.run work).run t s).state := by
  obtain ⟨_ | deadline⟩ := ctx
  · rw [run_without_deadline] at h ⊢
    cases h
    exact ⟨rfl, rfl⟩
  · by_cases hd : t < deadline
    · rw [run_before_deadline work hd] at h ⊢
      exact Task.within_eq_some h
    · rw [run_past_deadline work hd] at h
      cases h

/-- Work that is over by the deadline of a context that has not expired is not changed by it. -/
theorem run_whole (h : ∀ deadline ∈ ctx.deadline, t < deadline ∧ (work.run t s).time ≤ deadline) :
    (ctx.run work).run t s = ⟨(work.run t s).time, (work.run t s).state, some (work.run t s).value⟩ := by
  obtain ⟨_ | deadline⟩ := ctx
  · rw [run_without_deadline]
  · obtain ⟨hlt, hle⟩ := h deadline rfl
    rw [run_before_deadline work hlt]
    exact Task.within_run (by omega)

theorem run_in_time (h : ∀ deadline ∈ ctx.deadline, t < deadline ∧ (work.run t s).time ≤ deadline) :
    ((ctx.run work).run t s).value = some (work.run t s).value := by
  rw [run_whole h]

/-- Work that is not over by the deadline ends on it. -/
theorem run_cutOff {deadline : Nat} (hlive : t < deadline) (h : deadline < (work.run t s).time) :
    (((bounded deadline).run work).run t s).time = deadline ∧ (((bounded deadline).run work).run t s).value = none := by
  rw [bounded, run_before_deadline work hlive]
  have hlate : t + (deadline - t) < (work.run t s).time := by omega
  obtain ⟨htime, hvalue⟩ := Task.within_cutOff hlate
  exact ⟨by omega, hvalue⟩

end Context

end Passcode
