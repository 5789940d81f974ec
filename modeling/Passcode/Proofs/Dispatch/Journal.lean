/-
  Passcode.Proofs.Dispatch.Journal — what happens in the course of one send, in order.

  The journal of a send notes when a provider is contacted and how it answers, when a limiter is
  consulted and what it replies, when a wait before a repetition is over, and when the caller's deadline
  cuts off a consultation or such a wait; with each entry stand the time and the memory of all policies.
  Providers and limiters are named by their place: positions in the lists around them, outermost first.

  Proved: a send ends where its journal ends (`journal_finish`); and a property that no policy breaks
  (`Passes`) holds of every send through a route, however deep it is nested, whose providers and
  limiters have it (`journal_passes`).
-/

import Mathlib.Data.List.Forall2
import Passcode.Dispatch.Route
import Passcode.Proofs.Task

namespace Passcode

inductive Happening where
  | contacted (place : List Nat)
  | answered (place : List Nat) (result : Delivery)
  | consulted (place : List Nat) (key : String)
  | replied (place : List Nat) (reply : Except LimitFault Bool)
  /-- A wait before a repetition is over. -/
  | waited (place : List Nat) (delay : Nat)
  /-- The caller's deadline has cut off a consultation or a wait, or let none begin. -/
  | cutOff (place : List Nat)

structure Entry (σ : Type) where
  time : Nat
  deck : Deck σ
  what : Happening

/-- What work told, and where it ended. -/
structure Account (σ α : Type) where
  entries : List (Entry σ)
  finish : Task.End (Deck σ) α

/-- Work that keeps a journal. -/
def Teller (σ α : Type) := Nat → Deck σ → Account σ α

namespace Teller

variable {σ α β : Type}

instance : Monad (Teller σ) where
  pure a := fun t d => ⟨[], t, d, a⟩
  bind first next := fun t d =>
    let a := first t d
    let b := next a.finish.value a.finish.time a.finish.state
    ⟨a.entries ++ b.entries, b.finish⟩

def tell (what : Happening) : Teller σ Unit := fun t d => ⟨[⟨t, d, what⟩], t, d, ()⟩

/-- Work that tells nothing. -/
def doing (work : Task (Deck σ) α) : Teller σ α := fun t d => ⟨[], work.run t d⟩

theorem doing_bind (work : Task (Deck σ) α) (next : α → Teller σ β) (t : Nat) (d : Deck σ) :
    (doing work >>= next) t d = next (work.run t d).value (work.run t d).time (work.run t d).state := rfl

theorem now_bind (next : Nat → Teller σ α) (t : Nat) (d : Deck σ) :
    (doing Task.now >>= next) t d = next t t d := rfl

end Teller

open Teller (tell doing)

/-- A sender that keeps a journal. -/
abbrev Narrator (σ : Type) := Context → Message → Teller σ Delivery

namespace Narrator

variable {σ : Type}

def provider (place : List Nat) (sender : Sender σ) : Narrator σ := fun ctx message => do
  tell (.contacted place)
  let result ← doing (Deck.lift (sender ctx message))
  tell (.answered place result)
  return result

def tryEach (attempts : Nat) : List (Narrator σ) → Narrator σ
  | [] => fun _ _ => return .error (.allProvidersFailed attempts)
  | narrator :: rest => fun ctx message => do
    if ctx.isExpired (← doing Task.now) then return .error .cancelled
    match ← narrator ctx message with
    | .ok () => return .ok ()
    | .error .cancelled => return .error .cancelled
    | .error _ => tryEach attempts rest ctx message

def failover (narrators : List (Narrator σ)) : Narrator σ := tryEach narrators.length narrators

def rotating (cursor : Nat) (narrators : List (Narrator σ)) : Narrator σ :=
  if narrators.isEmpty then failover []
  else fun ctx message => do
    let start ← doing (Task.act fun _ d => (d.cursor cursor, d.advance cursor))
    failover (narrators.rotateLeft start.toNat) ctx message

def sticky (streak threshold : Nat) (narrators : List (Narrator σ)) : Narrator σ := fun ctx message => do
  let index ← doing (Task.gets fun d => (d.streak streak).pick narrators.length)
  match narrators[index]? with
  | none => return .error (.allProvidersFailed 0)
  | some narrator =>
    let result ← narrator ctx message
    let _next ← doing (Task.act fun _ d => d.hear streak index (max threshold 1) narrators.length result)
    return result

/-- Goes on after a wait. -/
def resting (place : List Nat) (delay : Nat) (ctx : Context) (next : Teller σ Delivery) : Teller σ Delivery := do
  match ← doing (ctx.run (Task.sleep delay)) with
  | none => do
    tell (.cutOff place)
    return .error .cancelled
  | some () => do
    tell (.waited place delay)
    next

def retry (place : List Nat) (narrator : Narrator σ) : (retries delay : Nat) → Narrator σ
  | 0, _ => narrator
  | retries + 1, delay => fun ctx message => do
    match ← narrator ctx message with
    | .ok () => return .ok ()
    | .error e =>
      if e.isRetryable then resting place delay ctx (retry place narrator retries (delay * 2) ctx message)
      else return .error e

/-- What the reply of a limiter leads to; there is none when the deadline cut it off. -/
def replying (place : List Nat) (narrator : Narrator σ) (ctx : Context) (message : Message) :
    Option (Except LimitFault Bool) → Teller σ Delivery
  | none => do
    tell (.cutOff place)
    return .error .cancelled
  | some reply => do
    tell (.replied place reply)
    match reply with
    | .ok false => narrator ctx message
    | _ => return .error .rateLimited

def limited (place : List Nat) (limiter : Limiter σ) (key : String) (narrator : Narrator σ) : Narrator σ :=
  fun ctx message => do
    if ctx.isExpired (← doing Task.now) then do
      tell (.cutOff place)
      return .error .cancelled
    else do
      tell (.consulted place key)
      replying place narrator ctx message (← doing (ctx.run (Deck.lift (limiter key))))

def authorized (clock : σ → Int) (secret : String) (narrator : Narrator σ) : Narrator σ := fun ctx message => do
  let now ← doing (Task.gets fun d : Deck σ => clock d.outer)
  match Dispatch.authorize secret message.template now with
  | .error e => return .error e
  | .ok template => narrator ctx { message with template }

end Narrator

namespace Route

variable {σ : Type}

mutual

/-- The journal of sends through a route that stands in a place. -/
def journal (clock : σ → Int) : List Nat → Route σ → Narrator σ
  | place, provider _ sender => Narrator.provider place sender
  | place, failover inner => Narrator.failover (journals clock place 0 inner)
  | place, rotating cursor inner => Narrator.rotating cursor (journals clock place 0 inner)
  | place, sticky streak threshold inner => Narrator.sticky streak threshold (journals clock place 0 inner)
  | place, retry retries delay inner => Narrator.retry place (journal clock place inner) retries delay
  | place, limited limiter key inner => Narrator.limited place limiter key (journal clock place inner)
  | place, authorized secret inner => Narrator.authorized clock secret (journal clock place inner)

/-- Those of the routes of a list, from a position on. -/
def journals (clock : σ → Int) : List Nat → Nat → List (Route σ) → List (Narrator σ)
  | _, _, [] => []
  | place, i, route :: rest => journal clock (place ++ [i]) route :: journals clock place (i + 1) rest

end

end Route

/-! ## A send ends where its journal ends -/

/-- A teller ends where a task does. -/
def Tells {σ α : Type} (teller : Teller σ α) (task : Task (Deck σ) α) : Prop :=
  ∀ t d, (teller t d).finish = task.run t d

namespace Tells

variable {σ α β : Type}

theorem pure (a : α) : Tells (Pure.pure a : Teller σ α) (Pure.pure a) := fun _ _ => rfl

theorem doing (work : Task (Deck σ) α) : Tells (Teller.doing work) work := fun _ _ => rfl

theorem bind {teller : Teller σ α} {task : Task (Deck σ) α} {next : α → Teller σ β} {next' : α → Task (Deck σ) β}
    (h : Tells teller task) (hn : ∀ a, Tells (next a) (next' a)) : Tells (teller >>= next) (task >>= next') := by
  intro t d
  rw [Task.run_bind, ← h t d]
  exact hn ..

/-- What is told does not change where work ends. -/
theorem tell {what : Happening} {next : Unit → Teller σ β} {task : Task (Deck σ) β} (h : Tells (next ()) task) :
    Tells (Teller.tell what >>= next) task := fun t d => h t d

end Tells

/-- A narrator ends where a sender does. -/
def Narrates {σ : Type} (narrator : Narrator σ) (sender : Sender (Deck σ)) : Prop :=
  ∀ ctx message, Tells (narrator ctx message) (sender ctx message)

namespace Narrates

variable {σ : Type} {narrator : Narrator σ} {sender : Sender (Deck σ)} {narrators : List (Narrator σ)}
  {senders : List (Sender (Deck σ))}

theorem provider (place : List Nat) (send : Sender σ) :
    Narrates (Narrator.provider place send) fun ctx message => Deck.lift (send ctx message) := by
  intro ctx message t d
  rfl

theorem tryEach (h : List.Forall₂ Narrates narrators senders) (attempts : Nat) :
    Narrates (Narrator.tryEach attempts narrators) (Dispatch.tryEach attempts senders) := by
  induction h with
  | nil => exact fun _ _ => .pure _
  | cons hfirst _ ih =>
    intro ctx message
    refine (Tells.doing _).bind fun now => ?_
    by_cases hexpired : ctx.isExpired now = true
    · rw [if_pos hexpired, if_pos hexpired]
      exact .pure _
    · rw [if_neg hexpired, if_neg hexpired]
      refine (hfirst ctx message).bind fun result => ?_
      rcases result with e | ⟨⟩
      · cases e with
        | cancelled => exact .pure _
        | _ => exact ih ctx message
      · exact .pure _

theorem failover (h : List.Forall₂ Narrates narrators senders) :
    Narrates (Narrator.failover narrators) (Dispatch.failover senders) := by
  rw [Narrator.failover, Dispatch.failover, h.length_eq]
  exact tryEach h _

theorem rotateLeft (h : List.Forall₂ Narrates narrators senders) (n : Nat) :
    List.Forall₂ Narrates (narrators.rotateLeft n) (senders.rotateLeft n) := by
  unfold List.rotateLeft
  rw [h.length_eq]
  dsimp only
  split
  · exact h
  · exact List.rel_append (List.forall₂_drop _ h) (List.forall₂_take _ h)

theorem rotating (h : List.Forall₂ Narrates narrators senders) (cursor : Nat) :
    Narrates (Narrator.rotating cursor narrators) (Dispatch.rotating cursor senders) := by
  cases h with
  | nil => exact failover .nil
  | cons hfirst hrest =>
    intro ctx message
    exact (Tells.doing _).bind fun start => failover (rotateLeft (.cons hfirst hrest) start.toNat) ctx message

theorem getElem? (h : List.Forall₂ Narrates narrators senders) (index : Nat) :
    (narrators[index]? = none ∧ senders[index]? = none) ∨
      ∃ narrator sender, narrators[index]? = some narrator ∧ senders[index]? = some sender ∧
        Narrates narrator sender := by
  induction h generalizing index with
  | nil => exact Or.inl ⟨rfl, rfl⟩
  | cons hfirst _ ih =>
    cases index with
    | zero => exact Or.inr ⟨_, _, rfl, rfl, hfirst⟩
    | succ index => exact ih index

theorem sticky (h : List.Forall₂ Narrates narrators senders) (streak threshold : Nat) :
    Narrates (Narrator.sticky streak threshold narrators) (Dispatch.sticky streak threshold senders) := by
  intro ctx message
  unfold Narrator.sticky Dispatch.sticky
  rw [h.length_eq]
  refine (Tells.doing _).bind fun index => ?_
  rcases getElem? h index with ⟨hn, hs⟩ | ⟨narrator, sender, hn, hs, hboth⟩
  · rw [hn, hs]
    exact .pure _
  · rw [hn, hs]
    exact (hboth ctx message).bind fun result => (Tells.doing _).bind fun _ => .pure _

theorem retry (place : List Nat) (h : Narrates narrator sender) (retries delay : Nat) :
    Narrates (Narrator.retry place narrator retries delay) (Dispatch.retry sender retries delay) := by
  induction retries generalizing delay with
  | zero => exact h
  | succ retries ih =>
    intro ctx message
    refine (h ctx message).bind fun result => ?_
    rcases result with e | ⟨⟩
    · dsimp only
      by_cases hretry : e.isRetryable = true
      · rw [if_pos hretry, if_pos hretry]
        refine (Tells.doing _).bind fun o => ?_
        rcases o with _ | ⟨⟩
        · exact .tell (.pure _)
        · exact .tell (ih _ ctx message)
      · rw [if_neg hretry, if_neg hretry]
        exact .pure _
    · exact .pure _

theorem replying (place : List Nat) (limiter : Limiter σ) (key : String) (h : Narrates narrator sender) :
    Narrates (fun ctx message => do
        Narrator.replying place narrator ctx message (← Teller.doing (ctx.run (Deck.lift (limiter key)))))
      (Dispatch.limited (fun k => Deck.lift (limiter k)) key sender) := by
  intro ctx message
  refine (Tells.doing _).bind fun o => ?_
  rcases o with _ | _ | _ | _
  · exact .tell (.pure _)
  · exact .tell (.pure _)
  · exact .tell (h ctx message)
  · exact .tell (.pure _)

theorem limited (place : List Nat) (limiter : Limiter σ) (key : String) (h : Narrates narrator sender) :
    Narrates (Narrator.limited place limiter key narrator)
      (Dispatch.limited (fun k => Deck.lift (limiter k)) key sender) := by
  intro ctx message t d
  unfold Narrator.limited
  rw [Teller.now_bind]
  by_cases hexpired : ctx.isExpired t = true
  · rw [if_pos hexpired, Dispatch.limited, Task.run_bind, Context.run_expired _ _ _ _ hexpired]
    rfl
  · rw [if_neg hexpired]
    exact Tells.tell (replying place limiter key h ctx message) t d

theorem authorized (clock : σ → Int) (secret : String) (h : Narrates narrator sender) :
    Narrates (Narrator.authorized clock secret narrator)
      (Dispatch.authorized (fun d => clock d.outer) secret sender) := by
  intro ctx message
  refine (Tells.doing _).bind fun now => ?_
  cases Dispatch.authorize secret message.template now with
  | error e => exact .pure _
  | ok template => exact h ctx _

end Narrates

namespace Route

variable {σ : Type} (clock : σ → Int)

mutual

theorem narrates (place : List Nat) : (route : Route σ) → Narrates (journal clock place route) (send clock route)
  | provider _ sender => .provider place sender
  | failover inner => .failover (narrates_list place 0 inner)
  | rotating cursor inner => .rotating (narrates_list place 0 inner) cursor
  | sticky streak threshold inner => .sticky (narrates_list place 0 inner) streak threshold
  | retry retries delay inner => .retry place (narrates place inner) retries delay
  | limited limiter key inner => .limited place limiter key (narrates place inner)
  | authorized secret inner => .authorized clock secret (narrates place inner)

theorem narrates_list (place : List Nat) (i : Nat) :
    (inner : List (Route σ)) → List.Forall₂ Narrates (journals clock place i inner) (senders clock inner)
  | [] => .nil
  | route :: rest => .cons (narrates (place ++ [i]) route) (narrates_list place (i + 1) rest)

end

/-- A send ends where its journal ends. -/
theorem journal_finish (route : Route σ) (ctx : Context) (message : Message) (t : Nat) (d : Deck σ) :
    (route.journal clock [] ctx message t d).finish = (route.send clock ctx message).run t d :=
  narrates clock [] route ctx message t d

end Route

/-! ## What policies pass on -/

/-- A property of work under a deadline that a send has when the sends and waits have it that it is
    made of. What a policy does by itself takes no time and does not reach providers and limiters; and
    it does nothing at all once a send was cancelled. -/
structure Passes {σ : Type} (ctx : Context) (P : Teller σ Delivery → Prop) : Prop where
  pure (result : Delivery) : P (Pure.pure result)
  glance {α : Type} {work : Task (Deck σ) α} {next : α → Teller σ Delivery}
    (hw : ∀ t d, (work.run t d).time = t ∧ (work.run t d).state.outer = d.outer) (hn : ∀ a, P (next a)) :
    P (doing work >>= next)
  send {first : Teller σ Delivery} {next : Delivery → Teller σ Delivery} (h : P first)
    (hn : ∀ result, P (next result))
    (hc : ∀ t d, next (.error .cancelled) t d = ⟨[], t, d, .error .cancelled⟩) : P (first >>= next)
  rest (place : List Nat) (delay : Nat) {next : Teller σ Delivery} (hn : P next) :
    P (Narrator.resting place delay ctx next)

theorem length_rotateLeft {α : Type} (l : List α) (n : Nat) : (l.rotateLeft n).length = l.length := by
  unfold List.rotateLeft
  dsimp only
  split
  · rfl
  · rw [List.length_append, List.length_drop, List.length_take]
    omega

theorem map_rotateLeft {α β : Type} (f : α → β) (l : List α) (n : Nat) :
    (l.map f).rotateLeft n = (l.rotateLeft n).map f := by
  unfold List.rotateLeft
  rw [List.length_map]
  dsimp only
  split
  · rfl
  · rw [List.map_append, List.map_drop, List.map_take]

theorem rotateLeft_perm {α : Type} (l : List α) (n : Nat) : (l.rotateLeft n).Perm l := by
  unfold List.rotateLeft
  dsimp only
  split
  · exact .refl l
  · exact List.perm_append_comm.trans (.of_eq (List.take_append_drop ..))

theorem mem_of_mem_rotateLeft {α : Type} {l : List α} {n : Nat} {a : α} (h : a ∈ l.rotateLeft n) : a ∈ l := by
  unfold List.rotateLeft at h
  dsimp only at h
  split at h
  · exact h
  · rcases List.mem_append.mp h with h | h
    · exact List.mem_of_mem_drop h
    · exact List.mem_of_mem_take h

theorem Deck.outer_isPart {σ : Type} : Task.IsPart (Deck.outer : Deck σ → σ) fun outer d => { d with outer } :=
  ⟨fun _ _ => rfl, fun _ _ _ => rfl, fun _ => rfl⟩

theorem Deck.hear_outer {σ : Type} (d : Deck σ) (slot index threshold count : Nat) (result : Delivery) :
    (d.hear slot index threshold count result).2.outer = d.outer := by
  rcases result with e | ⟨⟩
  · unfold Deck.hear
    dsimp only
    split <;> rfl
  · rfl

namespace Passes

variable {σ : Type} {ctx : Context} {P : Teller σ Delivery → Prop} {narrator : Narrator σ}
  {narrators : List (Narrator σ)}

theorem tryEach (hP : Passes ctx P) (h : ∀ narrator ∈ narrators, ∀ message, P (narrator ctx message))
    (attempts : Nat) (message : Message) : P (Narrator.tryEach attempts narrators ctx message) := by
  induction narrators with
  | nil => exact hP.pure _
  | cons first rest ih =>
    refine hP.glance (fun _ _ => ⟨rfl, rfl⟩) fun now => ?_
    by_cases hexpired : ctx.isExpired now = true
    · rw [if_pos hexpired]
      exact hP.pure _
    · rw [if_neg hexpired]
      refine hP.send (h first (List.mem_cons_self ..) message) (fun result => ?_) fun _ _ => rfl
      have hrest := ih fun narrator hm => h narrator (List.mem_cons_of_mem _ hm)
      rcases result with e | ⟨⟩
      · cases e with
        | cancelled => exact hP.pure _
        | _ => exact hrest
      · exact hP.pure _

theorem failover (hP : Passes ctx P) (h : ∀ narrator ∈ narrators, ∀ message, P (narrator ctx message))
    (message : Message) : P (Narrator.failover narrators ctx message) := hP.tryEach h _ message

theorem rotating (hP : Passes ctx P) (h : ∀ narrator ∈ narrators, ∀ message, P (narrator ctx message))
    (cursor : Nat) (message : Message) : P (Narrator.rotating cursor narrators ctx message) := by
  cases narrators with
  | nil => exact hP.failover h message
  | cons first rest =>
    refine hP.glance (fun _ _ => ⟨rfl, rfl⟩) fun start => ?_
    exact hP.failover (fun narrator hm => h narrator (mem_of_mem_rotateLeft hm)) message

theorem sticky (hP : Passes ctx P) (h : ∀ narrator ∈ narrators, ∀ message, P (narrator ctx message))
    (streak threshold : Nat) (message : Message) : P (Narrator.sticky streak threshold narrators ctx message) := by
  refine hP.glance (fun _ _ => ⟨rfl, rfl⟩) fun index => ?_
  cases hn : narrators[index]? with
  | none => exact hP.pure _
  | some narrator =>
    -- a cancellation is no timeout, so the streak stays as it is
    refine hP.send (h narrator (List.mem_of_getElem? hn) message) (fun result => ?_) fun _ _ => rfl
    exact hP.glance (fun t d => ⟨rfl, Deck.hear_outer ..⟩) fun _ => hP.pure _

theorem retry (hP : Passes ctx P) (place : List Nat) (h : ∀ message, P (narrator ctx message))
    (retries delay : Nat) (message : Message) : P (Narrator.retry place narrator retries delay ctx message) := by
  induction retries generalizing delay with
  | zero => exact h message
  | succ retries ih =>
    refine hP.send (h message) (fun result => ?_) fun _ _ => rfl
    rcases result with e | ⟨⟩
    · dsimp only
      by_cases hretry : e.isRetryable = true
      · rw [if_pos hretry]
        exact hP.rest place delay (ih (delay * 2))
      · rw [if_neg hretry]
        exact hP.pure _
    · exact hP.pure _

theorem authorized (hP : Passes ctx P) (clock : σ → Int) (secret : String) (h : ∀ message, P (narrator ctx message))
    (message : Message) : P (Narrator.authorized clock secret narrator ctx message) := by
  refine hP.glance (fun _ _ => ⟨rfl, rfl⟩) fun now => ?_
  cases Dispatch.authorize secret message.template now with
  | error e => exact hP.pure _
  | ok template => exact h _

end Passes

namespace Route

variable {σ : Type} {p : List Nat → Sender σ → Prop} {l : List Nat → Limiter σ → Prop}

mutual

/-- All providers satisfy `p` and all limiters `l`, each in its place. -/
def Leaves (p : List Nat → Sender σ → Prop) (l : List Nat → Limiter σ → Prop) : List Nat → Route σ → Prop
  | place, provider _ sender => p place sender
  | place, failover inner => LeavesFrom p l place 0 inner
  | place, rotating _ inner => LeavesFrom p l place 0 inner
  | place, sticky _ _ inner => LeavesFrom p l place 0 inner
  | place, retry _ _ inner => Leaves p l place inner
  | place, limited limiter _ inner => l place limiter ∧ Leaves p l place inner
  | place, authorized _ inner => Leaves p l place inner

def LeavesFrom (p : List Nat → Sender σ → Prop) (l : List Nat → Limiter σ → Prop) :
    List Nat → Nat → List (Route σ) → Prop
  | _, _, [] => True
  | place, i, route :: rest => Leaves p l (place ++ [i]) route ∧ LeavesFrom p l place (i + 1) rest

end

mutual

theorem Leaves.of_forall (hp : ∀ place sender, p place sender) (hl : ∀ place limiter, l place limiter) :
    (place : List Nat) → (route : Route σ) → route.Leaves p l place
  | place, provider _ sender => hp place sender
  | place, failover inner => LeavesFrom.of_forall hp hl place 0 inner
  | place, rotating _ inner => LeavesFrom.of_forall hp hl place 0 inner
  | place, sticky _ _ inner => LeavesFrom.of_forall hp hl place 0 inner
  | place, retry _ _ inner => Leaves.of_forall hp hl place inner
  | place, limited limiter _ inner => ⟨hl place limiter, Leaves.of_forall hp hl place inner⟩
  | place, authorized _ inner => Leaves.of_forall hp hl place inner

theorem LeavesFrom.of_forall (hp : ∀ place sender, p place sender) (hl : ∀ place limiter, l place limiter) :
    (place : List Nat) → (i : Nat) → (inner : List (Route σ)) → LeavesFrom p l place i inner
  | _, _, [] => trivial
  | place, i, route :: rest =>
    ⟨Leaves.of_forall hp hl (place ++ [i]) route, LeavesFrom.of_forall hp hl place (i + 1) rest⟩

end

section
variable (clock : σ → Int) {ctx : Context} {P : Teller σ Delivery → Prop}

mutual

/-- What policies pass on, every route has whose providers have it and whose limiters pass it on. -/
theorem journal_passes (hP : Passes ctx P) : (place : List Nat) → (route : Route σ) →
    route.Leaves (fun place sender => ∀ message, P (Narrator.provider place sender ctx message))
      (fun place limiter => ∀ key narrator, (∀ message, P (narrator ctx message)) →
        ∀ message, P (Narrator.limited place limiter key narrator ctx message)) place →
    ∀ message, P (journal clock place route ctx message)
  | _, provider _ _, h => h
  | place, failover inner, h => hP.failover (journals_pass hP place 0 inner h)
  | place, rotating cursor inner, h => hP.rotating (journals_pass hP place 0 inner h) cursor
  | place, sticky streak threshold inner, h => hP.sticky (journals_pass hP place 0 inner h) streak threshold
  | place, retry retries delay inner, h => hP.retry place (journal_passes hP place inner h) retries delay
  | place, limited _ key inner, h => h.1 key _ (journal_passes hP place inner h.2)
  | place, authorized secret inner, h => hP.authorized clock secret (journal_passes hP place inner h)

theorem journals_pass (hP : Passes ctx P) : (place : List Nat) → (i : Nat) → (inner : List (Route σ)) →
    LeavesFrom (fun place sender => ∀ message, P (Narrator.provider place sender ctx message))
      (fun place limiter => ∀ key narrator, (∀ message, P (narrator ctx message)) →
        ∀ message, P (Narrator.limited place limiter key narrator ctx message)) place i inner →
    ∀ narrator ∈ journals clock place i inner, ∀ message, P (narrator ctx message)
  | _, _, [], _ => fun _ h => nomatch h
  | place, i, route :: rest, h => List.forall_mem_cons.mpr
    ⟨journal_passes hP (place ++ [i]) route h.1, journals_pass hP place (i + 1) rest h.2⟩

end

end

end Route

end Passcode
