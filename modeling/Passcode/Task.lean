/-
  Passcode.Task — work that reads and changes a state and takes time.

  A task is finished, or does one step, which sees the time and the state and changes the state
  at once, or waits and then goes on. Time is a count of milliseconds, and only waiting takes any.
  Tasks can overlap (`join`): their steps interleave as their waits end, and where waits end at the
  same instant the one that began first ends first. A task that is cut off at a deadline still does
  what falls on the deadline itself.
-/

namespace Passcode

/-- Work on a state `σ` that ends with an `α`. -/
inductive Task (σ : Type) (α : Type) where
  | done (value : α)
  /-- Changes the state, and goes on in a way that depends on the time and the state before. -/
  | step (change : Nat → σ → σ) (rest : Nat → σ → Task σ α)
  | wait (delay : Nat) (rest : Task σ α)

namespace Task

variable {σ τ α β γ : Type}

instance [Inhabited α] : Inhabited (Task σ α) := ⟨.done default⟩

/-- Goes on with what the value of a task leads to. -/
def bind : Task σ α → (α → Task σ β) → Task σ β
  | done a, next => next a
  | step change rest, next => step change fun t s => (rest t s).bind next
  | wait d rest, next => wait d (rest.bind next)

instance : Monad (Task σ) where
  pure := done
  bind := bind

/-- One step that changes the state and ends with a value. -/
def act (f : Nat → σ → α × σ) : Task σ α :=
  step (fun t s => (f t s).2) fun t s => done (f t s).1

/-- The time. -/
def now : Task σ Nat := act fun t s => (t, s)

/-- Something read off the state. -/
def gets (f : σ → α) : Task σ α := act fun _ s => (f s, s)

/-- One change of the state. -/
def modify (f : σ → σ) : Task σ Unit := act fun _ s => ((), f s)

/-- A wait that leads to nothing. -/
def sleep (delay : Nat) : Task σ Unit := wait delay (done ())

/-- Where a task ends: the time, the state and its value. -/
structure End (σ α : Type) where
  time : Nat
  state : σ
  value : α

/-- Does a task from a time and a state. -/
def run : Task σ α → Nat → σ → End σ α
  | done a, t, s => ⟨t, s, a⟩
  | step change rest, t, s => (rest t s).run t (change t s)
  | wait d rest, t, s => rest.run (t + d) s

/-- The task as far as it gets within `left` milliseconds: no value when a wait would go on beyond
    that. -/
def within : Nat → Task σ α → Task σ (Option α)
  | _, done a => done (some a)
  | left, step change rest => step change fun t s => (rest t s).within left
  | left, wait d rest =>
    if d ≤ left then wait d (rest.within (left - d)) else wait left (done none)

/-- A task on a part of a larger state. -/
def focus (part : τ → σ) (put : σ → τ → τ) : Task σ α → Task τ α
  | done a => done a
  | step change rest =>
    step (fun t whole => put (change t (part whole)) whole)
      fun t whole => (rest t (part whole)).focus part put
  | wait d rest => wait d (rest.focus part put)

/-! ## Overlapping tasks -/

/-- What is left of a task after its first move. -/
inductive Rest : Task σ α → Task σ α → Prop where
  | step (change : Nat → σ → σ) (rest : Nat → σ → Task σ α) (t : Nat) (s : σ) :
      Rest (rest t s) (step change rest)
  | wait (delay : Nat) (rest : Task σ α) : Rest rest (wait delay rest)

/-- Every task runs out of moves. -/
theorem acc_rest (task : Task σ α) : Acc Rest task := by
  induction task with
  | done a => exact ⟨_, fun _ h => nomatch h⟩
  | step change rest ih => exact ⟨_, fun _ h => match h with | .step _ _ t s => ih t s⟩
  | wait d rest ih => exact ⟨_, fun _ h => match h with | .wait _ _ => ih⟩

/-- Tasks after one of them has made its next move. -/
inductive OneMoved : List (Task σ α) → List (Task σ α) → Prop where
  | head {a b : Task σ α} (l : List (Task σ α)) : Rest a b → OneMoved (a :: l) (b :: l)
  | tail (a : Task σ α) {l m : List (Task σ α)} : OneMoved l m → OneMoved (a :: l) (a :: m)

/-- Several tasks run out of moves as well, in whatever order they make them. -/
theorem acc_oneMoved (l : List (Task σ α)) : Acc OneMoved l := by
  induction l with
  | nil => exact ⟨_, fun _ h => nomatch h⟩
  | cons a l ih =>
    induction acc_rest a generalizing l with
    | intro a _ iha =>
      induction ih with
      | intro l hl ihl =>
        refine ⟨_, fun _ h => ?_⟩
        cases h with
        | head _ h => exact iha _ h l ⟨l, hl⟩
        | tail _ h => exact ihl _ h

theorem oneMoved_set {l : List (Task σ α)} {i : Nat} {a b : Task σ α} (h : Rest a b)
    (hi : l[i]? = some b) : OneMoved (l.set i a) l := by
  induction l generalizing i with
  | nil => simp at hi
  | cons c l ih =>
    cases i with
    | zero => simp at hi; subst hi; exact .head l h
    | succ i => exact .tail c (ih (by simpa using hi))

/-- One of several tasks that overlap. -/
structure Strand (σ α : Type) where
  task : Task σ α
  /-- Milliseconds until it goes on. -/
  left : Nat
  /-- Where it stands among those that go on at the same instant: they do so in the order in which
      they went to sleep. -/
  turn : Nat

namespace Strand

/-- Whether a strand goes on before another. -/
def precedes (a b : Strand σ α) : Bool :=
  decide (a.left < b.left) || (a.left == b.left && decide (a.turn ≤ b.turn))

/-- The value of a strand that has no move left, though it may still have to wait for it. -/
def value? (a : Strand σ α) : Option α :=
  match a.task with
  | done v => some v
  | _ => none

/-- A strand when some time has passed. -/
def pass (ms : Nat) (a : Strand σ α) : Strand σ α := { a with left := a.left - ms }

/-- Milliseconds until the last strand goes on. -/
def longest (strands : List (Strand σ α)) : Nat := (strands.map left).foldl max 0

/-- The place of the strand that moves next; the number of strands when none has a move left. -/
def next : List (Strand σ α) → Nat
  | [] => 0
  | a :: rest =>
    if a.value?.isNone && rest[next rest]?.all a.precedes then 0 else next rest + 1

/-- The strands when the one at `i` goes on, after `ms` milliseconds, as `a`. -/
def goOn (strands : List (Strand σ α)) (ms i : Nat) (a : Strand σ α) : List (Strand σ α) :=
  (strands.map (pass ms)).set i a

theorem oneMoved_goOn {strands : List (Strand σ α)} {i : Nat} {a b : Strand σ α} (ms : Nat)
    (hi : strands[i]? = some b) (h : Rest a.task b.task) :
    OneMoved ((goOn strands ms i a).map task) (strands.map task) := by
  have same : (strands.map (pass ms)).map task = strands.map task := by
    rw [List.map_map]; rfl
  rw [goOn, List.map_set, same]
  exact oneMoved_set h (by simp [hi])

end Strand

/-- The overlap on lists of strands: one of them makes its next move. -/
instance : WellFoundedRelation (List (Strand σ α)) :=
  ⟨InvImage OneMoved (List.map Strand.task), InvImage.wf _ ⟨acc_oneMoved⟩⟩

/-- Does strands at once. One that goes on does so until it sleeps or ends; `turns` counts how often
    a strand has gone to sleep. -/
def interleave (strands : List (Strand σ α)) (turns : Nat) : Task σ (List α) :=
  match h : strands[Strand.next strands]? with
  | some ⟨step change rest, left, turn⟩ =>
    wait left <| step change fun t s =>
      interleave (Strand.goOn strands left (Strand.next strands) ⟨rest t s, 0, turn⟩) turns
  | some ⟨wait 0 rest, left, turn⟩ =>
    wait left (interleave (Strand.goOn strands left (Strand.next strands) ⟨rest, 0, turn⟩) turns)
  | some ⟨wait (d + 1) rest, left, _⟩ =>
    wait left
      (interleave (Strand.goOn strands left (Strand.next strands) ⟨rest, d + 1, turns⟩) (turns + 1))
  | _ => wait (Strand.longest strands) (done (strands.filterMap Strand.value?))
termination_by strands
decreasing_by
  · exact Strand.oneMoved_goOn _ h (.step change rest t s)
  · exact Strand.oneMoved_goOn _ h (.wait 0 rest)
  · exact Strand.oneMoved_goOn _ h (.wait (d + 1) rest)

/-- Does all tasks of a list at once. -/
def join (tasks : List (Task σ α)) : Task σ (List α) :=
  interleave (tasks.zipIdx.map fun (task, i) => ⟨task, 0, i⟩) tasks.length

/-! ## What running a task means -/

@[simp] theorem run_done (a : α) (t : Nat) (s : σ) : (done a).run t s = ⟨t, s, a⟩ := rfl

@[simp] theorem run_step (change : Nat → σ → σ) (rest : Nat → σ → Task σ α) (t : Nat) (s : σ) :
    (step change rest).run t s = (rest t s).run t (change t s) := rfl

@[simp] theorem run_wait (d : Nat) (rest : Task σ α) (t : Nat) (s : σ) :
    (wait d rest).run t s = rest.run (t + d) s := rfl

@[simp] theorem run_pure (a : α) (t : Nat) (s : σ) : (pure a : Task σ α).run t s = ⟨t, s, a⟩ := rfl

theorem run_bind (task : Task σ α) (next : α → Task σ β) (t : Nat) (s : σ) :
    (task >>= next).run t s =
      (next (task.run t s).value).run (task.run t s).time (task.run t s).state := by
  show (task.bind next).run t s = _
  induction task generalizing t s with
  | done a => rfl
  | step change rest ih => exact ih t s t (change t s)
  | wait d rest ih => exact ih (t + d) s

theorem le_run_time (task : Task σ α) (t : Nat) (s : σ) : t ≤ (task.run t s).time := by
  induction task generalizing t s with
  | done a => exact Nat.le_refl t
  | step change rest ih => exact ih t s t (change t s)
  | wait d rest ih => exact Nat.le_trans (Nat.le_add_right t d) (ih (t + d) s)

theorem run_within_time_le (task : Task σ α) (left t : Nat) (s : σ) :
    ((task.within left).run t s).time ≤ t + left := by
  induction task generalizing left t s with
  | done a => exact Nat.le_add_right t left
  | step change rest ih => exact ih t s left t (change t s)
  | wait d rest ih =>
    by_cases h : d ≤ left
    · have := ih (left - d) (t + d) s
      simp only [within, h, if_true, run_wait]
      omega
    · simp [within, h]

instance : LawfulMonad (Task σ) := by
  refine LawfulMonad.mk' _ ?_ ?_ ?_
  · intro α x
    show x.bind _ = x
    induction x with
    | done a => rfl
    | step change rest ih => simp only [bind]; congr 1; funext t s; exact ih t s
    | wait d rest ih => simp only [bind]; congr 1
  · intro α β a f; rfl
  · intro α β γ x f g
    show (x.bind f).bind g = x.bind fun a => (f a).bind g
    induction x with
    | done a => rfl
    | step change rest ih => simp only [bind]; congr 1; funext t s; exact ih t s
    | wait d rest ih => simp only [bind]; congr 1

end Task

end Passcode
