/-
  Passcode.Proofs.Dispatch.Sightings — the journal of a send against what providers and limiters see.

  Here providers and limiters note themselves, in the state that they share, when they are called and
  what they answer. What they note in a send is what the journal of that send says of them: it
  leaves out no call and makes up none (`send_log`).
-/

import Passcode.Proofs.Dispatch.Journal
import Passcode.Proofs.Logged

namespace Passcode

theorem Deck.context_lift {σ α : Type} (ctx : Context) (work : Task σ α) :
    ctx.run (Deck.lift work) = Deck.lift (ctx.run work) := Task.context_focus Deck.outer_isPart ctx work

namespace Logged

variable {ε σ α : Type}

/-- Work that does not see the log leaves it as it is. -/
theorem lift_keeps (work : Task σ α) (log : List ε) :
    (Deck.lift (lift work : Task (Logged ε σ) α)).Keeps (·.outer.log = log) fun _ => True := by
  induction work with
  | done a => trivial
  | step change rest ih => exact fun t d hd => ⟨hd, ih t d.outer.inner⟩
  | wait delay rest ih => exact ih

section
variable (before : Nat → ε) (after : α → Nat → ε) (work : Task σ α)

theorem around_log (t : Nat) (d : Deck (Logged ε σ)) :
    let e := (Deck.lift (around before after work)).run t d
    e.state.outer.log = d.outer.log ++ [before t, after e.value e.time] := by
  rw [Deck.run_lift, around_run]

theorem around_context_log {ctx : Context} {t : Nat} (h : ctx.isExpired t = false) (d : Deck (Logged ε σ)) :
    let e := (ctx.run (Deck.lift (around before after work))).run t d
    e.state.outer.log = d.outer.log ++ before t :: (e.value.map fun a => after a e.time).toList := by
  rw [Deck.context_lift, Deck.run_lift, around_context_run before after work h]

end

end Logged

/-- When and what. -/
abbrev Sighting := Nat × Happening

variable {σ : Type}

def Sender.logged (place : List Nat) (sender : Sender σ) : Sender (Logged Sighting σ) := fun ctx message =>
  Logged.around (fun now => (now, .contacted place)) (fun result now => (now, .answered place result))
    (sender ctx message)

def Limiter.logged (place : List Nat) (limiter : Limiter σ) : Limiter (Logged Sighting σ) := fun key =>
  Logged.around (fun now => (now, .consulted place key)) (fun reply now => (now, .replied place reply)) (limiter key)

namespace Route

mutual

/-- A route whose providers and limiters note what they see. -/
def logged : List Nat → Route σ → Route (Logged Sighting σ)
  | place, provider name sender => provider name (Sender.logged place sender)
  | place, failover inner => failover (loggedList place 0 inner)
  | place, rotating cursor inner => rotating cursor (loggedList place 0 inner)
  | place, sticky streak threshold inner => sticky streak threshold (loggedList place 0 inner)
  | place, retry retries delay inner => retry retries delay (logged place inner)
  | place, limited limiter key inner => limited (Limiter.logged place limiter) key (logged place inner)
  | place, authorized secret inner => authorized secret (logged place inner)

def loggedList : List Nat → Nat → List (Route σ) → List (Route (Logged Sighting σ))
  | _, _, [] => []
  | place, i, route :: rest => logged (place ++ [i]) route :: loggedList place (i + 1) rest

end

end Route

/-- What a provider or limiter can see of an entry. -/
def Entry.sighting? {σ : Type} (e : Entry σ) : Option Sighting :=
  match e.what with
  | .waited .. | .cutOff _ => none
  | what => some (e.time, what)

/-- What is noted is what is told. -/
def Faithful {α : Type} (teller : Teller (Logged Sighting σ) α) : Prop :=
  ∀ t d, (teller t d).finish.state.outer.log = d.outer.log ++ (teller t d).entries.filterMap Entry.sighting?

namespace Faithful

variable {α β : Type}

theorem pure (a : α) : Faithful (Pure.pure a : Teller (Logged Sighting σ) α) :=
  fun _ _ => (List.append_nil _).symm

theorem bind {first : Teller (Logged Sighting σ) α} {next : α → Teller (Logged Sighting σ) β} (h : Faithful first)
    (hn : ∀ a, Faithful (next a)) : Faithful (first >>= next) := by
  intro t d
  have hlog := hn (first t d).finish.value (first t d).finish.time (first t d).finish.state
  rw [h t d, List.append_assoc, ← List.filterMap_append] at hlog
  exact hlog

/-- Work that does not touch the log. -/
theorem doing {work : Task (Deck (Logged Sighting σ)) α} (h : ∀ t d, (work.run t d).state.outer.log = d.outer.log) :
    Faithful (Teller.doing work) := fun t d => (h t d).trans (List.append_nil _).symm

theorem cutOff (place : List Nat) : Faithful (Teller.tell (.cutOff place) : Teller (Logged Sighting σ) Unit) :=
  fun _ _ => (List.append_nil _).symm

theorem waited (place : List Nat) (delay : Nat) :
    Faithful (Teller.tell (.waited place delay) : Teller (Logged Sighting σ) Unit) :=
  fun _ _ => (List.append_nil _).symm

end Faithful

theorem Faithful.passes (ctx : Context) : Passes ctx (Faithful (σ := σ) (α := Delivery)) where
  pure := Faithful.pure
  glance hw hn := (Faithful.doing fun t d => congrArg Logged.log (hw t d).2).bind hn
  send h hn _ := h.bind hn
  rest place delay _ hn := by
    refine (Faithful.doing fun t d => ?_).bind fun o => ?_
    · exact congrArg (fun d => d.outer.log) (Task.run_sleep_state ctx delay t d)
    · rcases o with _ | ⟨⟩
      · exact (Faithful.cutOff place).bind fun _ => .pure _
      · exact (Faithful.waited place delay).bind fun _ => hn

namespace Faithful

theorem provider (place : List Nat) (sender : Sender σ) (ctx : Context) (message : Message) :
    Faithful (Narrator.provider place (Sender.logged place sender) ctx message) :=
  fun t d => Logged.around_log _ _ (sender ctx message) t d

theorem replying {place : List Nat} {narrator : Narrator (Logged Sighting σ)} {ctx : Context} {message : Message}
    (h : Faithful (narrator ctx message)) (o : Option (Except LimitFault Bool)) {t : Nat}
    {d : Deck (Logged Sighting σ)} {log : List Sighting}
    (hlog : d.outer.log = log ++ (o.map fun reply => (t, Happening.replied place reply)).toList) :
    (Narrator.replying place narrator ctx message o t d).finish.state.outer.log =
      log ++ (Narrator.replying place narrator ctx message o t d).entries.filterMap Entry.sighting? := by
  rcases o with _ | _ | _ | _
  · exact hlog
  · exact hlog
  · refine (h t d).trans ?_
    rw [hlog]
    exact List.append_assoc ..
  · exact hlog

theorem limited (ctx : Context) (place : List Nat) (limiter : Limiter σ) (key : String)
    (narrator : Narrator (Logged Sighting σ)) (h : ∀ message, Faithful (narrator ctx message)) (message : Message) :
    Faithful (Narrator.limited place (Limiter.logged place limiter) key narrator ctx message) := by
  intro t d
  unfold Narrator.limited
  rw [Teller.now_bind]
  by_cases hexpired : ctx.isExpired t = true
  · rw [if_pos hexpired]
    exact ((Faithful.cutOff place).bind fun _ => .pure _) t d
  · rw [if_neg hexpired]
    have hlog := Logged.around_context_log (fun now => (now, .consulted place key))
      (fun reply now => (now, .replied place reply)) (limiter key) (Bool.eq_false_iff.mpr hexpired) d
    refine (replying (h message) _ (hlog.trans (List.append_cons ..))).trans ?_
    exact (List.append_cons ..).symm

end Faithful

namespace Route

section
variable {p : List Nat → Sender (Logged Sighting σ) → Prop} {l : List Nat → Limiter (Logged Sighting σ) → Prop}

mutual

theorem leaves_logged (hp : ∀ place sender, p place (Sender.logged place sender))
    (hl : ∀ place limiter, l place (Limiter.logged place limiter)) :
    (place : List Nat) → (route : Route σ) → (route.logged place).Leaves p l place
  | place, provider _ sender => hp place sender
  | place, failover inner => leaves_loggedList hp hl place 0 inner
  | place, rotating _ inner => leaves_loggedList hp hl place 0 inner
  | place, sticky _ _ inner => leaves_loggedList hp hl place 0 inner
  | place, retry _ _ inner => leaves_logged hp hl place inner
  | place, limited limiter _ inner => ⟨hl place limiter, leaves_logged hp hl place inner⟩
  | place, authorized _ inner => leaves_logged hp hl place inner

theorem leaves_loggedList (hp : ∀ place sender, p place (Sender.logged place sender))
    (hl : ∀ place limiter, l place (Limiter.logged place limiter)) :
    (place : List Nat) → (i : Nat) → (inner : List (Route σ)) → LeavesFrom p l place i (loggedList place i inner)
  | _, _, [] => trivial
  | place, i, route :: rest =>
    ⟨leaves_logged hp hl (place ++ [i]) route, leaves_loggedList hp hl place (i + 1) rest⟩

end

end

/-- What providers and limiters note in a send is what its journal says of them. -/
theorem send_log (clock : Logged Sighting σ → Int) (route : Route σ) (ctx : Context) (message : Message) (t : Nat)
    (d : Deck (Logged Sighting σ)) :
    (((route.logged []).send clock ctx message).run t d).state.outer.log = d.outer.log ++
      ((route.logged []).journal clock [] ctx message t d).entries.filterMap Entry.sighting? := by
  rw [← journal_finish]
  refine journal_passes clock (Faithful.passes ctx) [] (route.logged []) ?_ message t d
  exact leaves_logged (fun place sender => Faithful.provider place sender ctx) (Faithful.limited ctx) [] route

end Route

end Passcode
