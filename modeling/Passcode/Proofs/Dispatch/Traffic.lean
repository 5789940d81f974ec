/-
  Passcode.Proofs.Dispatch.Traffic — sends that overlap while they share one provider in use.

  A send picks the provider in use when it starts, makes the moves of that provider one by one, and
  reports how it ended with its last move. The moves of all sends under way come in any order, so a
  report may be about a provider that was replaced long before, or is back in use after a whole round.

  Proved: these are the moves of the sender itself (`tasks_start`, `tasks_move`); what a report can do
  (`hears`), and that it keeps what the streak says of the reports before it (`Follows.hears`); so after
  any run, the counter is the number of timeouts of the provider in use since it came into use or last
  succeeded, and only the report that brings this number to the threshold changes providers
  (`streak_follows_reports`).
-/

import Mathlib.Data.List.InsertIdx
import Passcode.Dispatch.Policy
import Passcode.Proofs.Task

namespace Passcode

/-! ## Reports -/

/-- How a send ended, through which provider, and which provider came into use at its report, when
    one did. -/
structure Report where
  place : Nat
  result : Delivery
  next : Option Nat

namespace Report

def isSuccess (r : Report) : Bool :=
  match r.result with
  | .ok () => true
  | .error _ => false

def isTimeout (r : Report) : Bool :=
  match r.result with
  | .ok () => false
  | .error e => e.isTimeout

/-- Whether a report ends the streak of a provider. -/
def resets (active : Nat) (r : Report) : Bool := r.next.isSome || (r.place == active && r.isSuccess)

/-- Timeouts reported for a provider since the provider in use changed last, or it succeeded last. -/
def misses (active : Nat) (reports : List Report) : Nat :=
  (reports.reverse.takeWhile fun r => !r.resets active).countP fun r => r.place == active && r.isTimeout

/-- How often the provider in use changed. -/
def rotations (reports : List Report) : Nat := reports.countP (·.next.isSome)

def timeouts (reports : List Report) : Nat := reports.countP isTimeout

theorem misses_append (active : Nat) (reports : List Report) (r : Report) :
    misses active (reports ++ [r]) =
      if r.resets active then 0
      else misses active reports + if r.place == active && r.isTimeout then 1 else 0 := by
  cases h : r.resets active <;> simp [misses, List.countP_cons, h]

theorem rotations_append (reports : List Report) (r : Report) :
    rotations (reports ++ [r]) = rotations reports + if r.next.isSome then 1 else 0 := by
  simp [rotations, List.countP_cons]

theorem timeouts_append (reports : List Report) (r : Report) :
    timeouts (reports ++ [r]) = timeouts reports + if r.isTimeout then 1 else 0 := by
  simp [timeouts, List.countP_cons]

theorem isSuccess_of_isTimeout {r : Report} (h : r.isTimeout = true) : r.isSuccess = false := by
  obtain ⟨place, _ | ⟨⟩, next⟩ := r
  · rfl
  · cases h

theorem isTimeout_of_isSuccess {r : Report} (h : r.isSuccess = true) : r.isTimeout = false := by
  obtain ⟨place, _ | ⟨⟩, next⟩ := r
  · cases h
  · rfl

end Report

namespace Deck

variable {σ : Type} (d : Deck σ) (slot index threshold count : Nat) {e : SendFault}

@[simp] theorem streak_setStreak (s : Streak) : (d.setStreak slot s).streak slot = s := by
  simp [streak, setStreak]

theorem hear_timeout (h : e.isTimeout = true) :
    (d.hear slot index threshold count (.error e)).1 = ((d.streak slot).timeout index threshold count).1 ∧
      (d.hear slot index threshold count (.error e)).2.streak slot =
        ((d.streak slot).timeout index threshold count).2 := by
  simp [hear, h]

/-- An error that is no timeout is not heeded. -/
theorem hear_other (h : e.isTimeout = false) : d.hear slot index threshold count (.error e) = (none, d) := by
  simp [hear, h]

end Deck

/-! ## What one report does -/

/-- What a report makes of a streak. -/
inductive Hears (count threshold : Nat) (s : Streak) (r : Report) : Streak → Prop where
  | success (own : r.place = s.active) (ok : r.isSuccess = true) (told : r.next = none) :
    Hears count threshold s r { s with timeouts := 0 }
  | miss (own : r.place = s.active) (late : r.isTimeout = true) (room : s.timeouts + 1 < threshold)
      (told : r.next = none) : Hears count threshold s r { s with timeouts := s.timeouts + 1 }
  | rotation (own : r.place = s.active) (late : r.isTimeout = true) (full : threshold ≤ s.timeouts + 1)
      (told : r.next = some ((s.active + 1) % count)) : Hears count threshold s r ⟨(s.active + 1) % count, 0⟩
  | dropped (foreign : r.place = s.active → r.isSuccess = false ∧ r.isTimeout = false) (told : r.next = none) :
    Hears count threshold s r s

theorem hears {σ : Type} (d : Deck σ) (slot place threshold count : Nat) (result : Delivery) :
    Hears count threshold (d.streak slot) ⟨place, result, (d.hear slot place threshold count result).1⟩
      ((d.hear slot place threshold count result).2.streak slot) := by
  rcases result with e | ⟨⟩
  case ok =>
    rw [Deck.hear, Deck.streak_setStreak]
    by_cases h : (d.streak slot).active = place
    · rw [Streak.success, if_pos h]
      exact .success h.symm rfl rfl
    · rw [Streak.success, if_neg h]
      exact .dropped (fun own => absurd own.symm h) rfl
  case error =>
    cases ht : e.isTimeout with
    | false =>
      rw [d.hear_other slot place threshold count ht]
      exact .dropped (fun _ => ⟨rfl, ht⟩) rfl
    | true =>
      obtain ⟨hnext, hstreak⟩ := d.hear_timeout slot place threshold count ht
      rw [hnext, hstreak, Streak.timeout]
      by_cases h : (d.streak slot).active = place
      · subst h
        rw [if_neg (not_not_intro rfl)]
        by_cases hroom : (d.streak slot).timeouts + 1 < threshold
        · rw [if_pos hroom]
          exact .miss rfl ht hroom rfl
        · rw [if_neg hroom]
          exact .rotation rfl ht (by omega) rfl
      · rw [if_pos h]
        exact .dropped (fun own => absurd own.symm h) rfl

/-- What a streak says of the reports so far. -/
structure Follows (count threshold : Nat) (reports : List Report) (s : Streak) : Prop where
  active_lt : s.active < count
  timeouts_lt : s.timeouts < threshold
  counted : s.timeouts = Report.misses s.active reports
  /-- Each change of providers took as many timeouts as the threshold. -/
  paid : threshold * Report.rotations reports + s.timeouts ≤ Report.timeouts reports

section
variable {count threshold : Nat} {reports : List Report} {s s' : Streak} {r : Report}

/-- A report moves on to the next provider when it tells so, and else to none. -/
theorem Hears.active (h : Hears count threshold s r s') (hs : s.active < count) :
    s'.active = (s.active + if r.next.isSome then 1 else 0) % count := by
  cases h with
  | success _ _ told | miss _ _ _ told | dropped _ told => simp [told, Nat.mod_eq_of_lt hs]
  | rotation _ _ _ told => simp [told]

/-- A change of providers spends the timeouts counted so far, this one among them. -/
theorem Hears.spent (h : Hears count threshold s r s') :
    threshold * (if r.next.isSome then 1 else 0) + s'.timeouts ≤ s.timeouts + if r.isTimeout then 1 else 0 := by
  cases h with
  | success _ _ told | dropped _ told => simp [told]
  | miss _ late _ told => simp [told, late]
  | rotation _ late full told => simpa [told, late] using full

theorem Follows.hears (h : Follows count threshold reports s) (hr : Hears count threshold s r s') :
    Follows count threshold (reports ++ [r]) s' := by
  obtain ⟨hactive, htimeouts, hcounted, hpaid⟩ := h
  have hspent := hr.spent
  have hpaid' : threshold * Report.rotations (reports ++ [r]) + s'.timeouts ≤ Report.timeouts (reports ++ [r]) := by
    rw [Report.rotations_append, Report.timeouts_append, Nat.mul_add]
    omega
  cases hr with
  | success own ok told =>
    have hreset : r.resets s.active = true := by simp [Report.resets, own, ok]
    refine ⟨hactive, by dsimp only; omega, ?_, hpaid'⟩
    rw [Report.misses_append, if_pos hreset]
  | miss own late room told =>
    have hreset : r.resets s.active = false := by simp [Report.resets, told, Report.isSuccess_of_isTimeout late]
    refine ⟨hactive, room, ?_, hpaid'⟩
    simp only [Report.misses_append, hreset, own, late, beq_self_eq_true, Bool.and_self, Bool.false_eq_true,
      if_false, if_true, hcounted]
  | rotation own late full told =>
    have hreset : r.resets ((s.active + 1) % count) = true := by simp [Report.resets, told]
    refine ⟨Nat.mod_lt _ (by omega), by dsimp only; omega, ?_, hpaid'⟩
    rw [Report.misses_append, if_pos hreset]
  | dropped foreign told =>
    have hreset : r.resets s.active = false := by
      by_cases own : r.place = s.active
      · simp [Report.resets, told, foreign own]
      · simp [Report.resets, told, own]
    have hmiss : (r.place == s.active && r.isTimeout) = false := by
      by_cases own : r.place = s.active
      · simp [foreign own]
      · simp [own]
    refine ⟨hactive, htimeouts, ?_, hpaid'⟩
    simp only [Report.misses_append, hreset, hmiss, Bool.false_eq_true, if_false, hcounted, Nat.add_zero]

/-- What the reports so far say about the effect of the next one. -/
structure Heard (count threshold : Nat) (reports : List Report) (s : Streak) (r : Report) (s' : Streak) :
    Prop where
  /-- The timeout that brings the timeouts of the provider in use to the threshold, and no other report,
      tells that the next provider comes into use. -/
  next : r.next = if r.place = s.active ∧ r.isTimeout = true ∧ Report.misses s.active reports + 1 = threshold then
    some ((s.active + 1) % count) else none
  rotated : ∀ place ∈ r.next, s' = ⟨place, 0⟩
  kept : r.next = none → s'.active = s.active
  /-- A report about another provider than the one in use changes nothing. -/
  foreign : r.place ≠ s.active → s' = s
  /-- Neither does one of another error. -/
  unheeded : r.isSuccess = false → r.isTimeout = false → s' = s

theorem Follows.heard (h : Follows count threshold reports s) (hr : Hears count threshold s r s') :
    Heard count threshold reports s r s' := by
  obtain ⟨-, htimeouts, hcounted, -⟩ := h
  cases hr with
  | success own ok told =>
    have hlate := Report.isTimeout_of_isSuccess ok
    refine ⟨?_, ?_, fun _ => rfl, fun foreign => absurd own foreign, fun hok => ?_⟩
    · simp [told, hlate]
    · simp [told]
    · simp [ok] at hok
  | miss own late room told =>
    have hroom : Report.misses s.active reports + 1 ≠ threshold := by omega
    refine ⟨?_, ?_, fun _ => rfl, fun foreign => absurd own foreign, fun _ hlate => ?_⟩
    · simp [told, hroom]
    · simp [told]
    · simp [late] at hlate
  | rotation own late full told =>
    have hfull : Report.misses s.active reports + 1 = threshold := by omega
    refine ⟨?_, ?_, fun hnone => ?_, fun foreign => absurd own foreign, fun _ hlate => ?_⟩
    · simp [told, own, late, hfull]
    · simp [told]
    · simp [told] at hnone
    · simp [late] at hlate
  | dropped foreign told =>
    refine ⟨?_, ?_, fun _ => rfl, fun _ => rfl, fun _ _ => rfl⟩
    · by_cases own : r.place = s.active
      · simp [told, foreign own]
      · simp [told, own]
    · simp [told]

end

/-! ## Sends under way -/

/-- A sender that stays with one of its providers, which see nothing of its memory. -/
structure Sticky (σ : Type) where
  slot : Nat
  threshold : Nat
  providers : List (Sender σ)

/-- A send that has picked its provider, and what is left of the provider's work. -/
structure Flight (σ : Type) where
  place : Nat
  work : Task σ Delivery

/-- What is shared by sends that overlap, and what has been reported, oldest first. -/
structure Traffic (σ : Type) where
  deck : Deck σ
  flights : List (Flight σ) := []
  reports : List Report := []

/-- A new send, or the next move of a send under way, at a time. -/
inductive Turn where
  | start (ctx : Context) (message : Message)
  | move (flight now : Nat)

namespace Sticky

variable {σ : Type} (c : Sticky σ)

def sender : Sender (Deck σ) :=
  Dispatch.sticky c.slot c.threshold (c.providers.map fun provider ctx message => Deck.lift (provider ctx message))

/-- The streak, and the provider that a new send goes to. -/
def streak (x : Traffic σ) : Streak := x.deck.streak c.slot

def pick (x : Traffic σ) : Nat := (c.streak x).pick c.providers.length

def hear (place : Nat) (result : Delivery) (d : Deck σ) : Option Nat × Deck σ :=
  d.hear c.slot place (max c.threshold 1) c.providers.length result

/-- What is left of a send under way: the provider's work, and the report. -/
def task (f : Flight σ) : Task (Deck σ) Delivery := do
  let result ← Deck.lift f.work
  let _next ← Task.act fun _ d => c.hear f.place result d
  return result

def tasks (x : Traffic σ) : List (Task (Deck σ) Delivery) := x.flights.map c.task

/-- One move of one send. The last one is its report. -/
def turn (x : Traffic σ) : Turn → Traffic σ
  | .start ctx message =>
    match c.providers[c.pick x]? with
    | none => x
    | some provider => { x with flights := x.flights ++ [⟨c.pick x, provider ctx message⟩] }
  | .move i now =>
    match x.flights[i]? with
    | none => x
    | some ⟨place, .done result⟩ =>
      let (next, deck) := c.hear place result x.deck
      { deck, flights := x.flights.eraseIdx i, reports := x.reports ++ [⟨place, result, next⟩] }
    | some ⟨place, work⟩ =>
      let (rest, outer) := work.move now x.deck.outer
      { x with deck := { x.deck with outer }, flights := x.flights.set i ⟨place, rest⟩ }

/-- After turns of any sends, in any order. -/
def run (x : Traffic σ) (turns : List Turn) : Traffic σ := turns.foldl c.turn x

variable {x : Traffic σ} {i now : Nat} {f : Flight σ}

/-- A new send goes to the provider in use and changes nothing else. -/
theorem turn_start (hp : c.providers ≠ []) (x : Traffic σ) (ctx : Context) (message : Message) :
    ∃ provider, c.providers[c.pick x]? = some provider ∧
      c.turn x (.start ctx message) = { x with flights := x.flights ++ [⟨c.pick x, provider ctx message⟩] } := by
  have hpick : c.pick x < c.providers.length := Nat.mod_lt _ (List.length_pos_iff.mpr hp)
  have hprovider := List.getElem?_eq_getElem hpick
  exact ⟨_, hprovider, by simp only [turn, hprovider]⟩

theorem turn_working (hf : x.flights[i]? = some f) (h : f.work.isDone = false) :
    c.turn x (.move i now) = { x with
      deck := { x.deck with outer := (f.work.move now x.deck.outer).2 }
      flights := x.flights.set i ⟨f.place, (f.work.move now x.deck.outer).1⟩ } := by
  obtain ⟨place, work⟩ := f
  cases work with
  | done result => cases h
  | step change rest => simp only [turn, hf]
  | wait d rest => simp only [turn, hf]

theorem turn_reporting {place : Nat} {result : Delivery} (hf : x.flights[i]? = some ⟨place, .done result⟩) :
    c.turn x (.move i now) = {
      deck := (c.hear place result x.deck).2
      flights := x.flights.eraseIdx i
      reports := x.reports ++ [⟨place, result, (c.hear place result x.deck).1⟩] } := by
  simp only [turn, hf]

/-! ### Turns are moves of the sender -/

theorem sender_move {provider : Sender σ} (hp : c.providers[c.pick x]? = some provider) (ctx : Context)
    (message : Message) :
    (c.sender ctx message).move now x.deck = (c.task ⟨c.pick x, provider ctx message⟩, x.deck) := by
  have hgets : ∀ (g : Deck σ → Nat) (next : Nat → Task (Deck σ) Delivery),
      (Task.gets g >>= next).move now x.deck = (next (g x.deck), x.deck) := fun _ _ => rfl
  have hpick : (x.deck.streak c.slot).pick c.providers.length = c.pick x := rfl
  unfold sender Dispatch.sticky
  rw [hgets]
  simp only [List.length_map, hpick, List.getElem?_map, hp, Option.map_some]
  rfl

theorem task_move (h : f.work.isDone = false) (d : Deck σ) : (c.task f).move now d =
    (c.task ⟨f.place, (f.work.move now d.outer).1⟩, { d with outer := (f.work.move now d.outer).2 }) := by
  have hlift : (Deck.lift f.work).isDone = false := (Task.isDone_focus ..).trans h
  have hmove := Task.move_focus Deck.outer (fun outer (d : Deck σ) => { d with outer }) h now d rfl
  unfold task
  rw [Task.move_bind hlift, Deck.lift, hmove]
  rfl

/-- A new send makes its first move. -/
theorem tasks_start (hp : c.providers ≠ []) (ctx : Context) (message : Message) :
    let moved := (c.sender ctx message).move now x.deck
    (c.turn x (.start ctx message)).deck = moved.2 ∧
      c.tasks (c.turn x (.start ctx message)) = c.tasks x ++ [moved.1] := by
  obtain ⟨provider, hprovider, hturn⟩ := c.turn_start hp x ctx message
  intro moved
  have hm : moved = _ := c.sender_move hprovider ctx message
  rw [hm, hturn]
  exact ⟨rfl, List.map_append ..⟩

/-- A send under way makes its next move; with the last one it is no longer under way. -/
theorem tasks_move (hf : x.flights[i]? = some f) :
    let moved := (c.task f).move now x.deck
    (c.turn x (.move i now)).deck = moved.2 ∧ c.tasks (c.turn x (.move i now)) =
      if f.work.isDone then (c.tasks x).eraseIdx i else (c.tasks x).set i moved.1 := by
  obtain ⟨place, work⟩ := f
  intro moved
  cases hd : work.isDone with
  | true =>
    cases work with
    | done result =>
      rw [c.turn_reporting hf, if_pos rfl]
      exact ⟨rfl, (List.eraseIdx_map ..).symm⟩
    | step change rest => cases hd
    | wait d rest => cases hd
  | false =>
    have hm : moved = _ := c.task_move hd x.deck
    rw [hm, c.turn_working hf hd, if_neg Bool.false_ne_true]
    exact ⟨rfl, List.map_set ..⟩

/-! ### Runs -/

/-- A move is a report, or it leaves the streak as it is. -/
theorem turn_hears (x : Traffic σ) (i now : Nat) :
    let y := c.turn x (.move i now)
    (y.reports = x.reports ∧ c.streak y = c.streak x) ∨
      ∃ r, x.flights[i]? = some ⟨r.place, .done r.result⟩ ∧ y.reports = x.reports ++ [r] ∧
        Hears c.providers.length (max c.threshold 1) (c.streak x) r (c.streak y) := by
  intro y
  cases hf : x.flights[i]? with
  | none =>
    have hy : y = x := by simp only [y, turn, hf]
    rw [hy]
    exact Or.inl ⟨rfl, rfl⟩
  | some f =>
    obtain ⟨place, work⟩ := f
    cases hd : work.isDone with
    | false =>
      have hy : y = _ := c.turn_working hf hd
      rw [hy]
      exact Or.inl ⟨rfl, rfl⟩
    | true =>
      cases work with
      | done result =>
        have hy : y = _ := c.turn_reporting hf
        rw [hy]
        exact Or.inr ⟨_, rfl, rfl, hears x.deck c.slot place (max c.threshold 1) c.providers.length result⟩
      | step change rest => cases hd
      | wait d rest => cases hd

theorem turn_follows (hp : c.providers ≠ [])
    (h : Follows c.providers.length (max c.threshold 1) x.reports (c.streak x)) (turn : Turn) :
    Follows c.providers.length (max c.threshold 1) (c.turn x turn).reports (c.streak (c.turn x turn)) := by
  cases turn with
  | start ctx message =>
    obtain ⟨provider, -, hturn⟩ := c.turn_start hp x ctx message
    rw [hturn]
    exact h
  | move i now =>
    obtain ⟨hreports, hstreak⟩ | ⟨r, -, hreports, hr⟩ := c.turn_hears x i now
    · rw [hreports, hstreak]
      exact h
    · rw [hreports]
      exact h.hears hr

/-- Before the first report. -/
theorem fresh_follows (hp : c.providers ≠ []) (d : Deck σ) (fresh : d.streak c.slot = {}) :
    Follows c.providers.length (max c.threshold 1) [] (c.streak { deck := d }) := by
  rw [streak, fresh]
  exact ⟨List.length_pos_iff.mpr hp, by dsimp only; omega, rfl, Nat.le_refl _⟩

theorem run_follows (hp : c.providers ≠ [])
    (h : Follows c.providers.length (max c.threshold 1) x.reports (c.streak x)) (turns : List Turn) :
    Follows c.providers.length (max c.threshold 1) (c.run x turns).reports (c.streak (c.run x turns)) := by
  induction turns generalizing x with
  | nil => exact h
  | cons turn turns ih => exact ih (c.turn_follows hp h turn)

/-- After any run of overlapping sends the streak says what the reports say: the provider in use exists,
    its counter is below the threshold and counts its timeouts since it came into use or last
    succeeded, and each change of providers took as many timeouts as the threshold. A new send goes to
    the provider in use, and a report has the effect that the reports before it call for. -/
theorem streak_follows_reports (hp : c.providers ≠ []) (ht : 1 ≤ c.threshold) (d : Deck σ)
    (fresh : d.streak c.slot = {}) (turns : List Turn) :
    let x := c.run { deck := d } turns
    Follows c.providers.length c.threshold x.reports (c.streak x) ∧
    (∀ ctx message, ∃ provider, c.providers[(c.streak x).active]? = some provider ∧
      c.turn x (.start ctx message) =
        { x with flights := x.flights ++ [⟨(c.streak x).active, provider ctx message⟩] }) ∧
    ∀ i now, let y := c.turn x (.move i now)
      (y.reports = x.reports ∧ c.streak y = c.streak x) ∨
        ∃ r, x.flights[i]? = some ⟨r.place, .done r.result⟩ ∧ y.reports = x.reports ++ [r] ∧
          Heard c.providers.length c.threshold x.reports (c.streak x) r (c.streak y) := by
  intro x
  have hthreshold : max c.threshold 1 = c.threshold := by omega
  have hfollows := c.run_follows (x := { deck := d }) hp (c.fresh_follows hp d fresh) turns
  rw [hthreshold] at hfollows
  refine ⟨hfollows, fun ctx message => ?_, fun i now => ?_⟩
  · have hpick : c.pick x = (c.streak x).active := Nat.mod_eq_of_lt hfollows.active_lt
    rw [← hpick]
    exact c.turn_start hp x ctx message
  · obtain hsame | ⟨r, hf, hreports, hr⟩ := c.turn_hears x i now
    · exact Or.inl hsame
    · rw [hthreshold] at hr
      exact Or.inr ⟨r, hf, hreports, hfollows.heard hr⟩

/-- The first of two providers times out twice in a row before its third timeout is reported. -/
def sampleSticky : Sticky Unit :=
  ⟨0, 2, [fun _ _ => return .error (.providerTimeout "slow"), fun _ _ => return .ok ()]⟩

def sampleTurns : List Turn :=
  let message : Message := ⟨"verify_code", [], ["+4915112345678"]⟩
  [.start .unbounded message, .start .unbounded message, .start .unbounded message, .move 2 10, .move 0 20, .move 0 30]

theorem streak_follows_reports_sample : sampleSticky.providers ≠ [] ∧ 1 ≤ sampleSticky.threshold ∧
    Follows 2 2 (sampleSticky.run { deck := { outer := () } } sampleTurns).reports ⟨1, 0⟩ := by
  have hp : sampleSticky.providers ≠ [] := List.cons_ne_nil _ _
  have hs : sampleSticky.streak (sampleSticky.run { deck := { outer := () } } sampleTurns) = ⟨1, 0⟩ := rfl
  have h := (sampleSticky.streak_follows_reports hp (by decide) { outer := () } rfl sampleTurns).1
  rw [hs] at h
  exact ⟨hp, by decide, h⟩

end Sticky

end Passcode
