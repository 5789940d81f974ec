/-
  Passcode.Proofs.Keyspace.Site — a server at the end of a connection that may be slow or fail.

  A request takes its time to the server, and the reply its time back (`Passage`). A request may be lost,
  before the server ran it or after, or get an error instead of its reply; nothing else is heard in place
  of a reply. The clock of the server runs on meanwhile: what has expired is judged at the instant at
  which the server runs the request.

  Proved: what a server keeps for every request, a command keeps however often it is sent
  (`repeated_keeps`); and a command is answered as the passages say (`timing?`): by a server that ran it
  then, or not at all (`repeated_ends`).
-/

import Passcode.Keyspace.Client
import Passcode.Proofs.Task

namespace Passcode

open Keyspace (Reply Request Client)

/-- What is heard instead of a reply. -/
inductive Mishap where
  | error (text : String)
  | lost
  deriving DecidableEq

def Mishap.reply : Mishap → Reply
  | error text => .error text
  | lost => .lost

inductive Fate where
  | answered
  /-- The server may have run the request all the same. -/
  | failed (wasServed : Bool) (heard : Mishap)
  deriving DecidableEq

/-- How a request fares: milliseconds to the server and back. -/
structure Passage where
  out : Nat := 0
  back : Nat := 0
  fate : Fate := .answered
  deriving DecidableEq

/-- A keyspace, the clock of its server, in milliseconds since 1970 by the time of tasks, and how the next
    requests fare; all others are answered at once. -/
structure Site where
  clock : Nat → Int
  keyspace : Keyspace
  passages : List Passage

/-- A command keeps what each sending of it keeps. -/
theorem Keyspace.Client.repeated_keeps {σ : Type} (client : Client σ) {I : σ → Prop} {P : Reply → Prop}
    {words : List String} (h : (client.call (.command words)).Keeps I P) (retries delay : Nat) :
    (client.repeated words retries delay).Keeps I P := by
  induction retries generalizing delay with
  | zero => exact h
  | succ retries ih =>
    refine h.bind fun reply hr => ?_
    by_cases hb : reply.isPassing = true
    · rw [if_pos hb]
      exact Task.Keeps.bind (P := fun _ => True) trivial fun _ _ => ih _
    · rw [if_neg hb]
      exact hr

namespace Site

/-- What the server does with a request that reaches it at a time, and what is heard of it. -/
def serve (s : Site) (t : Nat) (p : Passage) (r : Request) : Reply × Site :=
  let served := s.keyspace.serve (s.clock t) r
  match p.fate with
  | .answered => (served.1, { s with keyspace := served.2 })
  | .failed true heard => (heard.reply, { s with keyspace := served.2 })
  | .failed false heard => (heard.reply, s)

/-- How the next request fares. -/
def passage : Task Site Passage := .act fun _ s => (s.passages.headD {}, { s with passages := s.passages.tail })

/-- A connection to the server. -/
def client (settings : CacheSettings) : Client Site where
  settings
  call r := do
    let p ← passage
    Task.sleep p.out
    let reply ← Task.act fun t s => s.serve t p r
    Task.sleep p.back
    return reply
  member := return ""

theorem call_run (settings : CacheSettings) (r : Request) (t : Nat) (s : Site) :
    ((client settings).call r).run t s =
      let p := s.passages.headD {}
      let end_ := { s with passages := s.passages.tail }.serve (t + p.out) p r
      ⟨t + p.out + p.back, end_.2, end_.1⟩ := rfl

/-! ## What a request does -/

section
variable {s : Site} {t : Nat} {p : Passage} {r : Request}

theorem serve_of_answered (h : p.fate = .answered) : s.serve t p r =
    ((s.keyspace.serve (s.clock t) r).1, { s with keyspace := (s.keyspace.serve (s.clock t) r).2 }) := by
  rw [serve, h]

theorem serve_of_failed {wasServed : Bool} {heard : Mishap} (h : p.fate = .failed wasServed heard) : s.serve t p r =
    (heard.reply, { s with
      keyspace := if wasServed then (s.keyspace.serve (s.clock t) r).2 else s.keyspace }) := by
  rw [serve, h]
  cases wasServed <;> rfl

theorem serve_clock (s : Site) (t : Nat) (p : Passage) (r : Request) : (s.serve t p r).2.clock = s.clock := by
  cases h : p.fate with
  | answered => rw [serve_of_answered h]
  | failed wasServed heard => rw [serve_of_failed h]

/-- Whatever becomes of a request, the keyspace is as the server left it or as it was. -/
theorem serve_keyspace {J : Keyspace → Prop} (hj : J s.keyspace) (hk : J (s.keyspace.serve (s.clock t) r).2)
    (p : Passage) : J (s.serve t p r).2.keyspace := by
  cases h : p.fate with
  | answered =>
    rw [serve_of_answered h]
    exact hk
  | failed wasServed heard =>
    rw [serve_of_failed h]
    cases wasServed with
    | false => exact hj
    | true => exact hk

/-- What is heard of a request is the reply of the server, or no reply. -/
theorem serve_reply {P : Reply → Prop} (hk : P (s.keyspace.serve (s.clock t) r).1)
    (hp : ∀ heard : Mishap, P heard.reply) (p : Passage) : P (s.serve t p r).1 := by
  cases h : p.fate with
  | answered =>
    rw [serve_of_answered h]
    exact hk
  | failed wasServed heard =>
    rw [serve_of_failed h]
    exact hp heard

end

/-! ## What a command keeps -/

/-- A clock that shows no instant before a given one, and a keyspace of some kind. -/
def Since (since : Int) (J : Keyspace → Prop) (s : Site) : Prop := (∀ t, since ≤ s.clock t) ∧ J s.keyspace

section
variable {J : Keyspace → Prop} {P : Reply → Prop} {since : Int} {words : List String}

/-- A call keeps what the way to the server does not change and the server keeps. -/
theorem call_keeps_of_serve (settings : CacheSettings) {I : Site → Prop} {r : Request}
    (hpassages : ∀ s passages, I s → I { s with passages })
    (hserve : ∀ t p s, I s → I (s.serve t p r).2 ∧ P (s.serve t p r).1) : ((client settings).call r).Keeps I P := by
  have hact : ∀ p, (Task.act fun t s => s.serve t p r).Keeps I P :=
    fun p => Task.keeps_act fun t s hs => hserve t p s hs
  refine Task.Keeps.bind (P := fun _ => True) (Task.keeps_act fun _ s hs => ⟨hpassages s _ hs, trivial⟩) fun p _ => ?_
  refine Task.Keeps.bind (P := fun _ => True) trivial fun _ _ => ?_
  refine (hact p).bind fun reply hr => ?_
  exact Task.Keeps.bind (P := fun _ => True) trivial fun _ _ => hr

theorem call_keeps (settings : CacheSettings) {r : Request}
    (hk : ∀ now k, since ≤ now → J k → J (k.serve now r).2 ∧ P (k.serve now r).1)
    (hp : ∀ heard : Mishap, P heard.reply) : ((client settings).call r).Keeps (Since since J) P := by
  refine call_keeps_of_serve settings (fun _ _ hs => hs) fun t p s hs => ?_
  obtain ⟨hclock, hj⟩ := hs
  obtain ⟨hserved, hreply⟩ := hk (s.clock t) s.keyspace (hclock t) hj
  refine ⟨⟨?_, serve_keyspace hj hserved p⟩, serve_reply hreply hp p⟩
  rw [serve_clock]
  exact hclock

/-- What the server keeps for every request, is kept however often the request is sent. -/
theorem repeated_keeps (settings : CacheSettings) (retries delay : Nat)
    (hk : ∀ now k, since ≤ now → J k → J (k.serve now (.command words)).2 ∧ P (k.serve now (.command words)).1)
    (hp : ∀ heard : Mishap, P heard.reply) :
    ((client settings).repeated words retries delay).Keeps (Since since J) P :=
  (client settings).repeated_keeps (call_keeps settings hk hp) retries delay

end

/-! ## Answers -/

/-- Milliseconds from when a command was first sent: until the server runs it for the answer that is heard,
    and until that is heard. -/
structure Timing where
  served : Nat
  heard : Nat
  deriving DecidableEq

def Timing.after (ms : Nat) (a : Timing) : Timing := ⟨ms + a.served, ms + a.heard⟩

/-- When a command is answered that is sent up to `retries` times more: each time that something went
    wrong in passing. -/
def timing? : (retries delay : Nat) → List Passage → Option Timing
  | 0, _, passages =>
    let p := passages.headD {}
    match p.fate with
    | .answered => some ⟨p.out, p.out + p.back⟩
    | .failed .. => none
  | retries + 1, delay, passages =>
    let p := passages.headD {}
    match p.fate with
    | .answered => some ⟨p.out, p.out + p.back⟩
    | .failed _ heard =>
      if heard.reply.isPassing then
        (timing? retries (min (delay * 2) Client.longestDelay) passages.tail).map (.after (p.out + p.back + delay))
      else none

/-- What is sent to a server that answers at once is answered at once. -/
theorem timing?_nil (retries delay : Nat) : timing? retries delay [] = some ⟨0, 0⟩ := by
  cases retries <;> rfl

/-- When a command is answered that is sent as the settings say. -/
def commandTiming? (settings : CacheSettings) (passages : List Passage) : Option Timing :=
  timing? (settings.maxRetries.toNat - 1) settings.retryDelayMs.toNat passages

/-- How a command ends that is sent at a time: it is answered by a server that ran it when the timing says, on a
    keyspace of some kind, or what is heard in the end is no reply. -/
inductive Ends (J : Keyspace → Prop) (words : List String) (t : Nat) (s : Site) (e : Task.End Site Reply) :
    Option Timing → Prop where
  | answered {a : Timing} {k : Keyspace} (kind : J k) (time : e.time = t + a.heard)
      (value : e.value = (k.serve (s.clock (t + a.served)) (.command words)).1)
      (keyspace : e.state.keyspace = (k.serve (s.clock (t + a.served)) (.command words)).2) :
      Ends J words t s e (some a)
  | failed (heard : Mishap) (value : e.value = heard.reply) : Ends J words t s e none

theorem repeated_run (settings : CacheSettings) (words : List String) (retries delay t : Nat) (s : Site) :
    ((client settings).repeated words (retries + 1) delay).run t s =
      let e := ((client settings).call (.command words)).run t s
      if e.value.isPassing then
        ((client settings).repeated words retries (min (delay * 2) Client.longestDelay)).run (e.time + delay) e.state
      else e := by
  rw [Client.repeated, Task.run_bind]
  dsimp only
  split <;> rfl

section
variable {J : Keyspace → Prop} {words : List String} (settings : CacheSettings) {t : Nat} {s : Site}

theorem call_run_answered (h : (s.passages.headD {}).fate = .answered) (r : Request) :
    let p := s.passages.headD {}
    let served := s.keyspace.serve (s.clock (t + p.out)) r
    ((client settings).call r).run t s =
      ⟨t + p.out + p.back, { s with keyspace := served.2, passages := s.passages.tail }, served.1⟩ := by
  rw [call_run]
  dsimp only
  rw [serve_of_answered h]

theorem call_run_failed {wasServed : Bool} {heard : Mishap}
    (h : (s.passages.headD {}).fate = .failed wasServed heard) (r : Request) :
    let p := s.passages.headD {}
    let keyspace := if wasServed then (s.keyspace.serve (s.clock (t + p.out)) r).2 else s.keyspace
    ((client settings).call r).run t s =
      ⟨t + p.out + p.back, { s with keyspace, passages := s.passages.tail }, heard.reply⟩ := by
  rw [call_run]
  dsimp only
  rw [serve_of_failed h]

/-- What follows after some time, on the same clock. -/
theorem Ends.later {s' : Site} {e : Task.End Site Reply} {ms : Nat} {o : Option Timing}
    (h : Ends J words (t + ms) s' e o) (hclock : s'.clock = s.clock) : Ends J words t s e (o.map (.after ms)) := by
  cases h with
  | @answered a k kind time value keyspace =>
    have hat : t + ms + a.served = t + (a.after ms).served := Nat.add_assoc ..
    rw [hclock, hat] at value keyspace
    exact .answered kind (time.trans (Nat.add_assoc ..)) value keyspace
  | failed heard value => exact .failed heard value

/-- A command that the server does not ask to send again ends as the passages say. -/
theorem repeated_ends {retries delay : Nat} (hj : J s.keyspace)
    (hk : ∀ now k, J k → J (k.serve now (.command words)).2)
    (final : ∀ now (k : Keyspace), (k.serve now (.command words)).1.isPassing = false) :
    Ends J words t s (((client settings).repeated words retries delay).run t s) (timing? retries delay s.passages) := by
  induction retries generalizing delay t s with
  | zero =>
    unfold timing? Client.repeated
    dsimp only
    cases hf : (s.passages.headD {}).fate with
    | answered =>
      rw [call_run_answered settings hf]
      exact .answered hj (Nat.add_assoc ..) rfl rfl
    | failed wasServed heard =>
      rw [call_run_failed settings hf]
      exact .failed heard rfl
  | succ retries ih =>
    unfold timing?
    rw [repeated_run]
    dsimp only
    cases hf : (s.passages.headD {}).fate with
    | answered =>
      rw [call_run_answered settings hf]
      dsimp only
      rw [if_neg (by rw [final]; exact Bool.false_ne_true)]
      exact .answered hj (Nat.add_assoc ..) rfl rfl
    | failed wasServed heard =>
      rw [call_run_failed settings hf]
      dsimp only
      by_cases hb : heard.reply.isPassing = true
      · rw [if_pos hb, if_pos hb, Nat.add_assoc, Nat.add_assoc, ← Nat.add_assoc (s.passages.headD {}).out]
        refine (ih ?_).later rfl
        dsimp only
        cases wasServed with
        | false => exact hj
        | true => exact hk _ _ hj
      · rw [if_neg hb, if_neg hb]
        exact .failed heard rfl

/-- What a command comes to is what the reply says with which it ends. -/
theorem command_ends {α : Type} (read : Reply → Option α) (hj : J s.keyspace)
    (hk : ∀ now k, J k → J (k.serve now (.command words)).2)
    (final : ∀ now (k : Keyspace), (k.serve now (.command words)).1.isPassing = false) :
    ∃ e, Ends J words t s e (commandTiming? settings s.passages) ∧
      ((client settings).command words read).run t s = ⟨e.time, e.state, Client.reading read e.value⟩ :=
  ⟨_, repeated_ends settings hj hk final, Task.run_map ..⟩

end

end Site

end Passcode
