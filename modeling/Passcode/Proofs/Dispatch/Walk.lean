/-
  Passcode.Proofs.Dispatch.Walk — sends that walk through a list of providers while others do the same.

  A walk goes round the list, from the first provider on or from where the cursor stands, which each walk
  moves on by one. Walks overlap: at an instant a walk does all that it can until it has to wait, and the
  waits of all walks end in any order, and at any time. A cursor counts to `2 ^ 64` and begins again; unless
  the number of providers divides that, the turn is broken off there.

  Proved: walks that note their contacts are the sends themselves (`Walker.pool_run`), and each goes one of
  the ways that a walk can go (`Walk.Sound.wake`); so after any run each has begun where it should and has
  gone exactly as far as it should (`Walker.walks_exact`).
-/

import Passcode.Proofs.Dispatch.Course
import Passcode.Proofs.Dispatch.Journal

namespace Passcode

variable {σ : Type}

/-! ## Going round a list -/

/-- The places of a list going round from one on. -/
def roundFrom (count start : Nat) : List Nat := (List.range count).map fun j => (start + j) % count

theorem roundFrom_of_lt {n start : Nat} (h : start < n) :
    (List.range n).drop start ++ (List.range n).take start = roundFrom n start := by
  apply List.ext_getElem
  · simp only [roundFrom, List.length_append, List.length_drop, List.length_take, List.length_map, List.length_range]
    omega
  · intro j _ hj
    rw [roundFrom, List.length_map, List.length_range] at hj
    simp only [roundFrom, List.getElem_map, List.getElem_append, List.length_drop, List.length_range,
      List.getElem_drop, List.getElem_take, List.getElem_range]
    split
    · rw [Nat.mod_eq_of_lt (by omega)]
    · rw [Nat.mod_eq_sub_mod (by omega), Nat.mod_eq_of_lt (by omega)]
      omega

theorem rotateLeft_range (n start : Nat) : (List.range n).rotateLeft start = roundFrom n start := by
  unfold List.rotateLeft
  rw [List.length_range]
  dsimp only
  split
  · obtain rfl | rfl : n = 0 ∨ n = 1 := by omega
    · rfl
    · simp [roundFrom, Nat.mod_one]
  · rw [roundFrom_of_lt (Nat.mod_lt start (by omega))]
    simp only [roundFrom, Nat.mod_add_mod]

theorem roundFrom_perm (n start : Nat) : (roundFrom n start).Perm (List.range n) := by
  rw [← rotateLeft_range]
  exact rotateLeft_perm ..

theorem rotateLeft_mod {α : Type} (l : List α) (k : Nat) : l.rotateLeft (k % l.length) = l.rotateLeft k := by
  simp only [List.rotateLeft, Nat.mod_mod]

/-! ## Sends under way -/

/-- Sends through one sender, in the order in which they began, and the state that they share. -/
structure Pool (σ : Type) where
  state : σ
  sends : List (Task.Halt σ Delivery) := []

/-- A new send, or the next burst of a send under way, at a time. -/
inductive Pool.Turn where
  | start (now : Nat) (ctx : Context) (message : Message)
  | wake (send now : Nat)

namespace Pool

def turn (sender : Sender σ) (x : Pool σ) : Turn → Pool σ
  | .start now ctx message =>
    let (halt, state) := (sender ctx message).burst now x.state
    { state, sends := x.sends ++ [halt] }
  | .wake i now =>
    match x.sends[i]? with
    | none => x
    | some halt =>
      let (halt, state) := halt.wake now x.state
      { state, sends := x.sends.set i halt }

def run (sender : Sender σ) (x : Pool σ) (turns : List Turn) : Pool σ := turns.foldl (turn sender) x

end Pool

/-! ## Walks -/

/-- Where a walk stands: the work of the provider that it waits for, and those that it has not come to. -/
inductive Stage (σ : Type) where
  | asking (delay : Nat) (work : Task σ Delivery) (rest : List (Nat × Sender σ))
  | finished (result : Delivery)

def Stage.progress : Stage σ → Progress
  | asking _ _ rest => .asking (rest.map Prod.fst)
  | finished result => .finished result

/-- What a walk comes to at an instant. -/
structure Leg (σ : Type) where
  contacts : List Contact
  stage : Stage σ
  outer : σ

namespace Leg

/-- A walk that comes to some providers; `attempts` is what the caller is told when none of them is left. -/
def walk (attempts : Nat) (ctx : Context) (message : Message) (now : Nat) : List (Nat × Sender σ) → σ → Leg σ
  | [], s => ⟨[], .finished (.error (.allProvidersFailed attempts)), s⟩
  | (place, provider) :: rest, s =>
    if ctx.isExpired now then ⟨[], .finished (.error .cancelled), s⟩
    else
      match (provider ctx message).burst now s with
      | (.asleep delay work, s') => ⟨[⟨place, now, none⟩], .asking delay work rest, s'⟩
      | (.ended result, s') =>
        let leg : Leg σ := match result with
          | .ok () => ⟨[], .finished (.ok ()), s'⟩
          | .error .cancelled => ⟨[], .finished (.error .cancelled), s'⟩
          | .error _ => walk attempts ctx message now rest s'
        { leg with contacts := ⟨place, now, some (now, result)⟩ :: leg.contacts }

/-- A walk that heeds an answer. -/
def heed (attempts : Nat) (ctx : Context) (message : Message) (now : Nat) (rest : List (Nat × Sender σ)) (s : σ) :
    Delivery → Leg σ
  | .ok () => ⟨[], .finished (.ok ()), s⟩
  | .error .cancelled => ⟨[], .finished (.error .cancelled), s⟩
  | .error _ => walk attempts ctx message now rest s

section
variable {attempts now : Nat} {ctx : Context} {message : Message} {target : Nat × Sender σ}
  {rest : List (Nat × Sender σ)} {s s' : σ}

theorem walk_expired (h : ctx.isExpired now = true) :
    walk attempts ctx message now (target :: rest) s = ⟨[], .finished (.error .cancelled), s⟩ := if_pos h

theorem walk_pending (live : ctx.isExpired now = false) {delay : Nat} {work : Task σ Delivery}
    (h : (target.2 ctx message).burst now s = (.asleep delay work, s')) :
    walk attempts ctx message now (target :: rest) s = ⟨[⟨target.1, now, none⟩], .asking delay work rest, s'⟩ := by
  rw [walk, if_neg (Bool.eq_false_iff.mp live), h]

theorem walk_answered (live : ctx.isExpired now = false) {result : Delivery}
    (h : (target.2 ctx message).burst now s = (.ended result, s')) :
    let leg := heed attempts ctx message now rest s' result
    walk attempts ctx message now (target :: rest) s =
      { leg with contacts := ⟨target.1, now, some (now, result)⟩ :: leg.contacts } := by
  rw [walk, if_neg (Bool.eq_false_iff.mp live), h]
  rcases result with fault | ⟨⟩
  · cases fault <;> rfl
  · rfl

end

section
variable (attempts : Nat) (ctx : Context) (message : Message) (now : Nat)

theorem heed_continues {rest : List (Nat × Sender σ)}
    (hwalk : ∀ s, let leg := walk attempts ctx message now rest s
      Course attempts ctx now (rest.map Prod.fst) leg.contacts leg.stage.progress) (s : σ) (result : Delivery) :
    let leg := heed attempts ctx message now rest s result
    Continues attempts ctx now result (rest.map Prod.fst) leg.contacts leg.stage.progress := by
  rcases result with fault | ⟨⟩
  · cases fault with
    | cancelled => exact .cancelled
    | _ => exact .onward nofun (hwalk s)
  · exact .sent

theorem walk_course (targets : List (Nat × Sender σ)) (s : σ) :
    let leg := walk attempts ctx message now targets s
    Course attempts ctx now (targets.map Prod.fst) leg.contacts leg.stage.progress := by
  induction targets generalizing s with
  | nil => exact .exhausted
  | cons target rest ih =>
    cases hexpired : ctx.isExpired now with
    | true =>
      rw [walk_expired hexpired]
      exact .expired hexpired
    | false =>
      obtain ⟨halt, s', hburst⟩ : ∃ halt s', (target.2 ctx message).burst now s = (halt, s') := ⟨_, _, rfl⟩
      cases halt with
      | asleep delay work =>
        rw [walk_pending hexpired hburst]
        exact .pending hexpired
      | ended result =>
        rw [walk_answered hexpired hburst]
        exact (heed_continues attempts ctx message now ih s' result).course hexpired

end

end Leg

/-- A send that has begun, the provider that it starts with, its contacts, and where it stands. -/
structure Walk (σ : Type) where
  ctx : Context
  message : Message
  start : Nat
  began : Nat
  contacts : List Contact
  stage : Stage σ

namespace Walk

/-- A walk through some providers, when it goes on at a time. -/
def wake (attempts now : Nat) (w : Walk σ) (s : σ) : Walk σ × σ :=
  match w.stage with
  | .finished _ => (w, s)
  | .asking _ work rest =>
    match work.burst now s with
    | (.asleep delay work, s') => ({ w with stage := .asking delay work rest }, s')
    | (.ended result, s') =>
      let leg := Leg.heed attempts w.ctx w.message now rest s' result
      ({ w with contacts := w.contacts.map (Contact.hear now result) ++ leg.contacts, stage := leg.stage }, leg.outer)

/-- A walk has gone one of the ways that it can go. -/
def Sound (count : Nat) (w : Walk σ) : Prop :=
  Course count w.ctx w.began (roundFrom count w.start) w.contacts w.stage.progress

section
variable {count now : Nat} {w : Walk σ} {s s' : σ} {delay : Nat} {work : Task σ Delivery} {rest : List (Nat × Sender σ)}

theorem wake_finished {result : Delivery} (hstage : w.stage = .finished result) : w.wake count now s = (w, s) := by
  rw [wake, hstage]

theorem wake_pending (hstage : w.stage = .asking delay work rest) {delay' : Nat} {work' : Task σ Delivery}
    (h : work.burst now s = (.asleep delay' work', s')) :
    w.wake count now s = ({ w with stage := .asking delay' work' rest }, s') := by
  rw [wake, hstage]
  simp only [h]

theorem wake_answered (hstage : w.stage = .asking delay work rest) {result : Delivery}
    (h : work.burst now s = (.ended result, s')) :
    let leg := Leg.heed count w.ctx w.message now rest s' result
    w.wake count now s = ({ w with
      contacts := w.contacts.map (Contact.hear now result) ++ leg.contacts, stage := leg.stage }, leg.outer) := by
  rw [wake, hstage]
  simp only [h]

theorem wake_start (count now : Nat) (w : Walk σ) (s : σ) : (w.wake count now s).1.start = w.start := by
  unfold wake
  split
  · rfl
  · split <;> rfl

theorem Sound.wake (h : w.Sound count) (now : Nat) (s : σ) : (w.wake count now s).1.Sound count := by
  cases hstage : w.stage with
  | finished result => rwa [wake_finished hstage]
  | asking delay work rest =>
    obtain ⟨halt, s', hburst⟩ : ∃ halt s', work.burst now s = (halt, s') := ⟨_, _, rfl⟩
    unfold Sound at h
    rw [hstage] at h
    cases halt with
    | asleep delay' work' =>
      rw [wake_pending hstage hburst]
      exact h
    | ended result =>
      rw [wake_answered hstage hburst]
      exact h.hear (Leg.heed_continues count w.ctx w.message now (Leg.walk_course count w.ctx w.message now rest) s' result)

end

end Walk

/-- A list of providers that sends walk through. It rotates when it has a cursor, which is kept in a slot. -/
structure Walker (σ : Type) where
  cursor : Option Nat
  providers : List (Sender σ)

/-- What is shared by walks that overlap, and these in the order in which they began. -/
structure Crowd (σ : Type) where
  deck : Deck σ
  walks : List (Walk σ) := []

/-- Providers as senders around which policies have a memory. -/
def lifts (senders : List (Sender σ)) : List (Sender (Deck σ)) :=
  senders.map fun sender ctx message => Deck.lift (sender ctx message)

namespace Walker

variable (c : Walker σ)

/-- The sender that the walks are sends through. -/
def sender : Sender (Deck σ) :=
  match c.cursor with
  | none => Dispatch.failover (lifts c.providers)
  | some slot => Dispatch.rotating slot (lifts c.providers)

/-- The providers, each with its place. -/
def targets : List (Nat × Sender σ) := (List.range c.providers.length).zip c.providers

/-- The place where the next walk starts. -/
def start (d : Deck σ) : Nat :=
  match c.cursor with
  | none => 0
  | some slot => (d.cursor slot).toNat % c.providers.length

/-- The memory when one more walk has begun. -/
def advance (d : Deck σ) : Deck σ :=
  match c.cursor with
  | none => d
  | some slot => d.advance slot

/-- A new walk, or the next burst of a walk under way. Only a new one moves the cursor. -/
def turn (x : Crowd σ) : Pool.Turn → Crowd σ
  | .start now ctx message =>
    let leg := Leg.walk c.providers.length ctx message now (c.targets.rotateLeft (c.start x.deck)) x.deck.outer
    { deck := { c.advance x.deck with outer := leg.outer }
      walks := x.walks ++ [⟨ctx, message, c.start x.deck, now, leg.contacts, leg.stage⟩] }
  | .wake i now =>
    match x.walks[i]? with
    | none => x
    | some w =>
      let (w, outer) := w.wake c.providers.length now x.deck.outer
      { deck := { x.deck with outer }, walks := x.walks.set i w }

def run (x : Crowd σ) (turns : List Pool.Turn) : Crowd σ := turns.foldl c.turn x

end Walker

/-! ### Walks are the sends themselves -/

/-- What a walk does with an answer. -/
def onward (attempts : Nat) (rest : List (Sender σ)) (ctx : Context) (message : Message) : Delivery → Task σ Delivery
  | .ok () => return .ok ()
  | .error .cancelled => return .error .cancelled
  | .error _ => Dispatch.tryEach attempts rest ctx message

theorem Dispatch.tryEach_cons (attempts : Nat) (sender : Sender σ) (rest : List (Sender σ)) (ctx : Context)
    (message : Message) : tryEach attempts (sender :: rest) ctx message = (Task.now >>= fun now =>
      if ctx.isExpired now then return .error .cancelled
      else sender ctx message >>= onward attempts rest ctx message) := by
  rw [tryEach]
  congr 1

/-- What is left of a walk. -/
def Stage.halt (attempts : Nat) (ctx : Context) (message : Message) : Stage σ → Task.Halt (Deck σ) Delivery
  | asking delay work rest => .asleep delay (Deck.lift work >>= onward attempts (lifts (rest.map Prod.snd)) ctx message)
  | finished result => .ended result

section
variable {attempts now : Nat} {ctx : Context} {message : Message} {rest : List (Nat × Sender σ)} {d : Deck σ}
  {work : Task σ Delivery} {s : σ}

theorem Deck.lift_burst_asleep {delay : Nat} {left : Task σ Delivery}
    (h : work.burst now d.outer = (.asleep delay left, s)) :
    (Deck.lift work).burst now d = (.asleep delay (Deck.lift left), { d with outer := s }) := by
  rw [Deck.lift, Task.burst_focus Deck.outer_isPart, h]
  rfl

theorem Deck.lift_burst_ended {result : Delivery} (h : work.burst now d.outer = (.ended result, s)) :
    (Deck.lift work).burst now d = (.ended result, { d with outer := s }) := by
  rw [Deck.lift, Task.burst_focus Deck.outer_isPart, h]
  rfl

theorem onward_burst (htry : ∀ d : Deck σ, let leg := Leg.walk attempts ctx message now rest d.outer
      (Dispatch.tryEach attempts (lifts (rest.map Prod.snd)) ctx message).burst now d =
        (leg.stage.halt attempts ctx message, { d with outer := leg.outer })) (d : Deck σ) (result : Delivery) :
    let leg := Leg.heed attempts ctx message now rest d.outer result
    (onward attempts (lifts (rest.map Prod.snd)) ctx message result).burst now d =
      (leg.stage.halt attempts ctx message, { d with outer := leg.outer }) := by
  rcases result with fault | ⟨⟩
  · cases fault with
    | cancelled => rfl
    | _ => exact htry d
  · rfl

theorem tryEach_burst (attempts now : Nat) (ctx : Context) (message : Message) (targets : List (Nat × Sender σ))
    (d : Deck σ) :
    let leg := Leg.walk attempts ctx message now targets d.outer
    (Dispatch.tryEach attempts (lifts (targets.map Prod.snd)) ctx message).burst now d =
      (leg.stage.halt attempts ctx message, { d with outer := leg.outer }) := by
  induction targets generalizing d with
  | nil => rfl
  | cons target rest ih =>
    have hnow : ∀ next : Nat → Task (Deck σ) Delivery, (Task.now >>= next).burst now d = (next now).burst now d :=
      fun _ => rfl
    rw [lifts, List.map_cons, List.map_cons, ← lifts, Dispatch.tryEach_cons, hnow]
    cases hexpired : ctx.isExpired now with
    | true =>
      rw [Leg.walk_expired hexpired]
      rfl
    | false =>
      rw [if_neg Bool.false_ne_true]
      obtain ⟨halt, s, hburst⟩ : ∃ halt s, (target.2 ctx message).burst now d.outer = (halt, s) := ⟨_, _, rfl⟩
      cases halt with
      | asleep delay left =>
        rw [Leg.walk_pending hexpired hburst, Task.burst_bind_asleep (Deck.lift_burst_asleep hburst)]
        rfl
      | ended result =>
        rw [Leg.walk_answered hexpired hburst, Task.burst_bind_ended (Deck.lift_burst_ended hburst)]
        exact onward_burst ih { d with outer := s } result

end

namespace Walk

/-- What is left of a send that walks. -/
def halt (count : Nat) (w : Walk σ) : Task.Halt (Deck σ) Delivery := w.stage.halt count w.ctx w.message

theorem halt_value? (count : Nat) (w : Walk σ) : (w.halt count).value? = w.stage.progress.result? := by
  unfold halt
  cases w.stage <;> rfl

theorem halt_wake (count now : Nat) (w : Walk σ) (d : Deck σ) :
    (w.halt count).wake now d =
      ((w.wake count now d.outer).1.halt count, { d with outer := (w.wake count now d.outer).2 }) := by
  cases hstage : w.stage with
  | finished result =>
    rw [wake_finished hstage, halt, hstage]
    rfl
  | asking delay work rest =>
    have hhalt : (w.halt count).wake now d =
        (Deck.lift work >>= onward count (lifts (rest.map Prod.snd)) w.ctx w.message).burst now d := by
      rw [halt, hstage]
      rfl
    obtain ⟨halt, s, hburst⟩ : ∃ halt s, work.burst now d.outer = (halt, s) := ⟨_, _, rfl⟩
    rw [hhalt]
    cases halt with
    | asleep delay' left =>
      rw [wake_pending hstage hburst, Task.burst_bind_asleep (Deck.lift_burst_asleep hburst)]
      rfl
    | ended result =>
      rw [wake_answered hstage hburst, Task.burst_bind_ended (Deck.lift_burst_ended hburst)]
      exact onward_burst (tryEach_burst count now w.ctx w.message rest) { d with outer := s } result

end Walk

namespace Walker

variable {c : Walker σ} {x : Crowd σ}

theorem targets_providers (c : Walker σ) : c.targets.map Prod.snd = c.providers :=
  List.map_snd_zip (Nat.le_of_eq List.length_range.symm)

theorem targets_places (c : Walker σ) : c.targets.map Prod.fst = List.range c.providers.length :=
  List.map_fst_zip (Nat.le_of_eq List.length_range)

/-- A new send does what a walk does that begins where it should. -/
theorem sender_burst (hp : c.providers ≠ []) (now : Nat) (ctx : Context) (message : Message) (d : Deck σ) :
    let leg := Leg.walk c.providers.length ctx message now (c.targets.rotateLeft (c.start d)) d.outer
    (c.sender ctx message).burst now d =
      (leg.stage.halt c.providers.length ctx message, { c.advance d with outer := leg.outer }) := by
  have hturned : ∀ k, lifts ((c.targets.rotateLeft k).map Prod.snd) = (lifts c.providers).rotateLeft k := fun k => by
    rw [← map_rotateLeft, targets_providers, lifts, lifts, map_rotateLeft]
  have hcount : (lifts c.providers).length = c.providers.length := List.length_map ..
  unfold sender start advance
  cases c.cursor with
  | none =>
    have hwalk := tryEach_burst c.providers.length now ctx message (c.targets.rotateLeft 0) d
    rw [hturned, List.rotateLeft_zero, List.rotateLeft_zero] at hwalk
    dsimp only
    rw [Dispatch.failover, hcount, List.rotateLeft_zero]
    exact hwalk
  | some slot =>
    have hwalk := tryEach_burst c.providers.length now ctx message
      (c.targets.rotateLeft ((d.cursor slot).toNat % c.providers.length)) (d.advance slot)
    rw [hturned, ← hcount, rotateLeft_mod] at hwalk
    have hsome : ¬ (lifts c.providers).isEmpty := by simpa [lifts] using hp
    dsimp only
    rw [Dispatch.rotating, if_neg hsome]
    show (Dispatch.failover ((lifts c.providers).rotateLeft (d.cursor slot).toNat) ctx message).burst now
      (d.advance slot) = _
    rw [Dispatch.failover, length_rotateLeft, ← hcount]
    exact hwalk

/-- The sends that the walks are. -/
def pool (c : Walker σ) (x : Crowd σ) : Pool (Deck σ) := ⟨x.deck, x.walks.map (Walk.halt c.providers.length)⟩

theorem pool_turn (hp : c.providers ≠ []) (x : Crowd σ) (turn : Pool.Turn) :
    c.pool (c.turn x turn) = Pool.turn c.sender (c.pool x) turn := by
  cases turn with
  | start now ctx message =>
    have hburst := sender_burst hp now ctx message x.deck
    simp only [Pool.turn, pool, hburst, Walker.turn, List.map_append, List.map_cons, List.map_nil]
    rfl
  | wake i now =>
    have hsend : (c.pool x).sends[i]? = x.walks[i]?.map (Walk.halt c.providers.length) := List.getElem?_map ..
    unfold Pool.turn Walker.turn
    dsimp only
    rw [hsend]
    cases x.walks[i]? with
    | none => rfl
    | some w =>
      have hwake := w.halt_wake c.providers.length now x.deck
      simp only [Option.map_some, pool, hwake, List.map_set]

theorem pool_run (hp : c.providers ≠ []) (x : Crowd σ) (turns : List Pool.Turn) :
    c.pool (c.run x turns) = Pool.run c.sender (c.pool x) turns := by
  induction turns generalizing x with
  | nil => rfl
  | cons turn turns ih =>
    show c.pool (c.run (c.turn x turn) turns) = Pool.run c.sender (Pool.turn c.sender (c.pool x) turn) turns
    rw [ih, pool_turn hp]

/-! ### Runs -/

/-- Where the walk starts that is the `k`-th to begin, counted from 0. -/
def startOf (c : Walker σ) (k : Nat) : Nat :=
  match c.cursor with
  | none => 0
  | some _ => k % UInt64.size % c.providers.length

/-- The cursor counts the walks, and each has begun where it should and gone one of the ways it can go. -/
structure Proper (c : Walker σ) (x : Crowd σ) : Prop where
  counted : ∀ slot ∈ c.cursor, (x.deck.cursor slot).toNat = x.walks.length % UInt64.size
  walks : ∀ k w, x.walks[k]? = some w → w.start = c.startOf k ∧ w.Sound c.providers.length

namespace Proper

theorem start_eq (h : c.Proper x) : c.start x.deck = c.startOf x.walks.length := by
  have hcounted := h.counted
  unfold start startOf
  cases hcursor : c.cursor with
  | none => rfl
  | some slot => exact congrArg (· % c.providers.length) (hcounted slot hcursor)

theorem advance_cursor {slot k : Nat} (hslot : slot ∈ c.cursor) {d : Deck σ}
    (h : (d.cursor slot).toNat = k % UInt64.size) : ((c.advance d).cursor slot).toNat = (k + 1) % UInt64.size := by
  have hnext : (c.advance d).cursor slot = d.cursor slot + 1 := by
    rw [advance, Option.mem_def.mp hslot]
    simp [Deck.advance, Deck.cursor]
  rw [hnext, UInt64.toNat_add, h]
  exact Nat.mod_add_mod ..

/-- A walk that begins comes to the providers in the order in which they stand from its start on. -/
theorem begun (c : Walker σ) (now : Nat) (ctx : Context) (message : Message) (start : Nat) (s : σ) :
    let leg := Leg.walk c.providers.length ctx message now (c.targets.rotateLeft start) s
    (⟨ctx, message, start, now, leg.contacts, leg.stage⟩ : Walk σ).Sound c.providers.length := by
  have hplaces : (c.targets.rotateLeft start).map Prod.fst = roundFrom c.providers.length start := by
    rw [← map_rotateLeft, targets_places, rotateLeft_range]
  intro leg
  rw [Walk.Sound, ← hplaces]
  exact Leg.walk_course ..

theorem turn (h : c.Proper x) (turn : Pool.Turn) : c.Proper (c.turn x turn) := by
  cases turn with
  | start now ctx message =>
    refine ⟨fun slot hslot => ?_, fun k w hw => ?_⟩
    · rw [Walker.turn, List.length_append]
      exact advance_cursor hslot (h.counted slot hslot)
    · rw [Walker.turn, List.getElem?_append] at hw
      split at hw
      · exact h.walks k w hw
      · rw [List.getElem?_singleton] at hw
        split at hw
        · next hlast =>
          have hk : k = x.walks.length := by omega
          cases hw
          rw [hk, ← h.start_eq]
          exact ⟨rfl, begun ..⟩
        · cases hw
  | wake i now =>
    cases hi : x.walks[i]? with
    | none =>
      simp only [Walker.turn, hi]
      exact h
    | some woken =>
      obtain ⟨hstart, hsound⟩ := h.walks i woken hi
      simp only [Walker.turn, hi]
      refine ⟨fun slot hslot => ?_, fun k w hw => ?_⟩
      · rw [List.length_set]
        exact h.counted slot hslot
      · rw [List.getElem?_set] at hw
        split at hw
        · next heq =>
          subst heq
          split at hw
          · cases hw
            exact ⟨(Walk.wake_start ..).trans hstart, hsound.wake now _⟩
          · cases hw
        · exact h.walks k w hw

theorem run (h : c.Proper x) (turns : List Pool.Turn) : c.Proper (c.run x turns) := by
  induction turns generalizing x with
  | nil => exact h
  | cons turn turns ih => exact ih (h.turn turn)

end Proper

/-- Where a count is not begun again, or it makes no difference, starts follow each other round the list. -/
theorem mod_start {size n m j : Nat} (h : m % size + n ≤ size ∨ n ∣ size) (hj : j < n) :
    (m + j) % size % n = (m % size + j) % n := by
  rcases h with hroom | hdvd
  · have hcount : m % size + j < size := by omega
    rw [← Nat.mod_add_mod, Nat.mod_eq_of_lt hcount]
  · rw [Nat.mod_mod_of_dvd _ hdvd, Nat.add_mod, Nat.add_mod (m % size), Nat.mod_mod_of_dvd _ hdvd]

/-- Walks that begin one after the other start one place further on each, as long as the cursor does not begin
    again. -/
theorem Proper.starts (h : c.Proper x) {slot : Nat} (hslot : c.cursor = some slot) {m : Nat}
    (hm : m + c.providers.length ≤ x.walks.length)
    (hturn : m % UInt64.size + c.providers.length ≤ UInt64.size ∨ c.providers.length ∣ UInt64.size) :
    ((x.walks.drop m).take c.providers.length).map Walk.start = roundFrom c.providers.length (m % UInt64.size) := by
  apply List.ext_getElem
  · simp only [roundFrom, List.length_map, List.length_take, List.length_drop, List.length_range]
    omega
  · intro j hj _
    have hj : j < c.providers.length := by
      rw [List.length_map, List.length_take] at hj
      omega
    have hstart := (h.walks (m + j) _ (List.getElem?_eq_getElem (by omega))).1
    simp only [startOf, hslot, mod_start hturn hj] at hstart
    simpa only [roundFrom, List.getElem_map, List.getElem_take, List.getElem_drop, List.getElem_range] using hstart

/-- For any list of providers, whatever they answer, change and wait for, and whatever the deadlines: after any run
    of sends that overlap, in a list that rotates the `k`-th to begin has started at provider `k` modulo
    their number, with `k` counted in 64 bits, and in another at the first. Each has gone on from there exactly as
    long as it should, and ended as it should. So as many rotating sends in a row as there are providers start once
    at each of them, unless the count begins again among them and their number does not divide `2 ^ 64`. -/
theorem walks_exact (c : Walker σ) (hp : c.providers ≠ []) (d : Deck σ) (fresh : ∀ slot ∈ c.cursor, d.cursor slot = 0)
    (turns : List Pool.Turn) :
    let n := c.providers.length
    let x := c.run { deck := d } turns
    Pool.run c.sender { state := d } turns = c.pool x ∧
    (∀ k w, x.walks[k]? = some w → w.start = c.startOf k ∧
      Exact n w.ctx (roundFrom n w.start) w.began w.contacts (w.halt n).value?) ∧
    (c.cursor.isSome → ∀ m, m + n ≤ x.walks.length → m % UInt64.size + n ≤ UInt64.size ∨ n ∣ UInt64.size →
      (((x.walks.drop m).take n).map Walk.start).Perm (List.range n)) := by
  intro n x
  have hempty : c.Proper { deck := d } := by
    refine ⟨fun slot hslot => ?_, fun k w hw => by cases hw⟩
    rw [fresh slot hslot]
    rfl
  have hproper : c.Proper x := hempty.run turns
  refine ⟨(pool_run hp { deck := d } turns).symm, fun k w hw => ?_, fun hrotates m hm hturn => ?_⟩
  · obtain ⟨hstart, hsound⟩ := hproper.walks k w hw
    refine ⟨hstart, ?_⟩
    have hdistinct : (roundFrom n w.start).Nodup := (roundFrom_perm ..).nodup_iff.mpr List.nodup_range
    rw [w.halt_value?]
    exact Course.exact hsound hdistinct
  · obtain ⟨slot, hslot⟩ := Option.isSome_iff_exists.mp hrotates
    rw [hproper.starts hslot hm hturn]
    exact roundFrom_perm ..

/-- One provider fails when some time has passed, one works, and one times out at once. -/
def sampleRota : Walker Unit := ⟨some 0, [
  fun _ _ => do
    Task.sleep 5
    return .error (.provider "first" "unreachable"),
  fun _ _ => return .ok (),
  fun _ _ => return .error (.providerTimeout "third")]⟩

/-- The first send hears of the failure on its deadline, and long after the second is over. -/
def rotaTurns : List Pool.Turn :=
  let message : Message := ⟨"verify_code", [], ["+4915112345678"]⟩
  [.start 0 (.bounded 5) message, .start 1 .unbounded message, .start 2 .unbounded message, .wake 0 5]

theorem walks_exact_sample :
    sampleRota.providers ≠ [] ∧ (∀ slot ∈ sampleRota.cursor, Deck.cursor { outer := () } slot = 0) ∧
    let x := sampleRota.run { deck := { outer := () } } rotaTurns
    (x.walks.map fun w => w.contacts.map Contact.place) = [[0], [1], [2, 0]] ∧
      (x.walks.map fun w => (w.halt 3).value?) = [some (.error .cancelled), some (.ok ()), none] ∧
      ((x.walks.take 3).map Walk.start).Perm (List.range 3) ∧
      ∃ w, x.walks[2]? = some w ∧ Exact 3 .unbounded (roundFrom 3 2) 2 w.contacts none := by
  have hp : sampleRota.providers ≠ [] := List.cons_ne_nil _ _
  have fresh : ∀ slot ∈ sampleRota.cursor, Deck.cursor { outer := () } slot = 0 := fun _ _ => rfl
  obtain ⟨-, hwalks, hstarts⟩ := sampleRota.walks_exact hp { outer := () } fresh rotaTurns
  exact ⟨hp, fresh, rfl, rfl, hstarts rfl 0 (by decide) (.inl (by decide)), _, rfl, (hwalks 2 _ rfl).2⟩

theorem length_run_starts (c : Walker σ) (now : Nat) (ctx : Context) (message : Message) (k : Nat) (x : Crowd σ) :
    (c.run x (List.replicate k (.start now ctx message))).walks.length = x.walks.length + k := by
  induction k generalizing x with
  | zero => rfl
  | succ k ih =>
    have hfirst : (c.turn x (.start now ctx message)).walks.length = x.walks.length + 1 := List.length_append
    rw [List.replicate_succ, run, List.foldl_cons, ← run, ih, hfirst]
    omega

/-- The send that begins when the cursor has counted through its 64 bits starts at the first of three providers, not
    at the second, where its number says that it should. -/
theorem started_over : ∃ turns w,
    (sampleRota.run { deck := { outer := () } } turns).walks[UInt64.size]? = some w ∧ w.start = 0 ∧
      w.start ≠ UInt64.size % sampleRota.providers.length := by
  have hproper : sampleRota.Proper { deck := { outer := () } } := ⟨fun _ _ => rfl, fun k w hw => by cases hw⟩
  have hstarts : ∀ k, ∃ turns w, (sampleRota.run { deck := { outer := () } } turns).walks[k]? = some w ∧
      w.start = k % UInt64.size % 3 := by
    intro k
    let turns := List.replicate (k + 1) (Pool.Turn.start 0 .unbounded ⟨"verify_code", [], ["+4915112345678"]⟩)
    have hlength := length_run_starts sampleRota 0 .unbounded ⟨"verify_code", [], ["+4915112345678"]⟩ (k + 1)
      { deck := { outer := () } }
    have hk : k < (sampleRota.run { deck := { outer := () } } turns).walks.length := by
      rw [hlength]
      exact Nat.lt_of_lt_of_le (Nat.lt_succ_self k) (Nat.le_add_left ..)
    exact ⟨turns, _, List.getElem?_eq_getElem hk, ((hproper.run turns).walks k _ (List.getElem?_eq_getElem hk)).1⟩
  obtain ⟨turns, w, hw, hstart⟩ := hstarts UInt64.size
  have hzero : w.start = 0 := by rw [hstart, Nat.mod_self, Nat.zero_mod]
  have hdue : UInt64.size % sampleRota.providers.length = 1 := by decide
  refine ⟨turns, w, hw, hzero, ?_⟩
  rw [hzero, hdue]
  exact Nat.zero_ne_one

end Walker

end Passcode
