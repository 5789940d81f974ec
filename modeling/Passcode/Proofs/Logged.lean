/-
  Passcode.Proofs.Logged — work that is watched.

  A watched part of the program notes in a log when it is called and what it answers. The log is kept
  beside the state, where the work itself does not see it. A deadline that cuts the work off also cuts off
  the note of its answer.

  Proved: watched work ends where it ends unwatched, and its notes are in the log (`around_run`,
  `around_context_run`).
-/

import Passcode.Proofs.Task

namespace Passcode

/-- A state with a log, oldest entry first. -/
structure Logged (ε σ : Type) where
  inner : σ
  log : List ε

namespace Logged

variable {ε σ α : Type}

/-- Notes something at a time. -/
def note (what : Nat → ε) : Task (Logged ε σ) Unit := .act fun now s => ((), { s with log := s.log ++ [what now] })

/-- Work that does not see the log. -/
def lift (work : Task σ α) : Task (Logged ε σ) α := work.focus inner fun inner s => { s with inner }

/-- Work with a note before it and one after. -/
def around (before : Nat → ε) (after : α → Nat → ε) (work : Task σ α) : Task (Logged ε σ) α := do
  note before
  let a ← lift work
  note (after a)
  return a

/-- What is left of work with notes once the first note is made. -/
def ending (after : α → Nat → ε) (work : Task σ α) : Task (Logged ε σ) α := do
  let a ← lift work
  note (after a)
  return a

theorem inner_isPart : Task.IsPart (inner : Logged ε σ → σ) fun inner s => { s with inner } :=
  ⟨fun _ _ => rfl, fun _ _ _ => rfl, fun _ => rfl⟩

theorem run_lift (work : Task σ α) (t : Nat) (s : Logged ε σ) : (lift work).run t s =
    let e := work.run t s.inner
    ⟨e.time, ⟨e.state, s.log⟩, e.value⟩ := Task.run_focus inner_isPart work t s

section
variable (before : Nat → ε) (after : α → Nat → ε) (work : Task σ α)

/-- The first note is made at once, the second when the work is over. -/
theorem around_run (t : Nat) (s : Logged ε σ) : (around before after work).run t s =
    let e := work.run t s.inner
    ⟨e.time, ⟨e.state, s.log ++ [before t, after e.value e.time]⟩, e.value⟩ := by
  simp only [around, note, Task.run_bind, Task.act, Task.run_step, Task.run_done, Task.run_pure, run_lift,
    List.append_assoc, List.cons_append, List.nil_append]

theorem ending_within_run (left t : Nat) (s : Logged ε σ) : ((ending after work).within left).run t s =
    let e := (work.within left).run t s.inner
    ⟨e.time, ⟨e.state, s.log ++ (e.value.map fun a => after a e.time).toList⟩, e.value⟩ := by
  induction work generalizing left t s with
  | done a => rfl
  | step change rest ih => exact ih t s.inner left t { s with inner := change t s.inner }
  | wait delay rest ih =>
    have hwithin : (ending after (.wait delay rest)).within left =
        if delay ≤ left then .wait delay ((ending after rest).within (left - delay)) else .wait left (.done none) := rfl
    rw [hwithin, Task.within]
    by_cases h : delay ≤ left
    · rw [if_pos h, if_pos h]
      exact ih (left - delay) (t + delay) s
    · rw [if_neg h, if_neg h]
      exact congrArg (fun log => (⟨t + left, ⟨s.inner, log⟩, none⟩ : Task.End (Logged ε σ) (Option α)))
        (List.append_nil s.log).symm

/-- Under a deadline the second note is made only if the work is over in time. -/
theorem around_context_run {ctx : Context} {t : Nat} (h : ctx.isExpired t = false) (s : Logged ε σ) :
    (ctx.run (around before after work)).run t s =
      let e := (ctx.run work).run t s.inner
      ⟨e.time, ⟨e.state, s.log ++ before t :: (e.value.map fun a => after a e.time).toList⟩, e.value⟩ := by
  obtain ⟨_ | deadline⟩ := ctx
  · rw [Context.run_without_deadline, Context.run_without_deadline, around_run]
    rfl
  · have hlt : t < deadline := by simpa [Context.isExpired] using h
    rw [Context.run_before_deadline _ hlt, Context.run_before_deadline _ hlt]
    refine (ending_within_run after work (deadline - t) t { s with log := s.log ++ [before t] }).trans ?_
    simp only [List.append_assoc, List.cons_append, List.nil_append]

end

end Logged

end Passcode
