/-
  Passcode.Proofs.Limit.History — calls of a limiter one after the other, and the answer that a sliding
  window owes to each of them.

  A call that is not refused is counted. The window behind a call at an instant holds the counted calls
  of its key that are younger than the window is long, and the call is refused when they are as many as
  the limit allows, or more (`due`). That is said of the whole history, not of what a limiter keeps.

  Proved, of any history that keeps to this rule (`Follows`): in no stretch as long as the window are
  more calls of a key counted than allowed (`countP_within_le`); calls may be left out of it without a
  change to the answers that stay, as long as the counted calls of their keys stay (`Follows.filter`); and
  it is the only history of its calls (`Follows.eq`). A limiter whose every call gives the answer due and
  keeps an invariant follows the rule in every run (`history_follows`).
-/

import Mathlib.Data.List.Induction
import Passcode.Limit.Window

namespace Passcode

/-- A call of a limiter that was made, and how it was answered. -/
structure LimitEvent where
  time : Nat
  key : String
  answer : Except LimitFault Bool

namespace LimitEvent

/-- When the call was made and under which key. -/
def call (e : LimitEvent) : Nat × String := (e.time, e.key)

/-- Whether the call was let pass. -/
def isCounted (e : LimitEvent) : Bool :=
  match e.answer with
  | .ok false => true
  | _ => false

theorem isCounted_iff (e : LimitEvent) : e.isCounted = true ↔ e.answer = .ok false := by
  obtain ⟨t, key, _ | _ | _⟩ := e <;> simp [isCounted]

end LimitEvent

/-! ## Runs -/

namespace Limiter

variable {σ : Type} (limiter : Limiter σ)

/-- The calls of a run, each with its answer. -/
def history : σ → List (Nat × String) → List LimitEvent
  | _, [] => []
  | s, (t, key) :: rest =>
    let r := (limiter key).run t s
    ⟨t, key, r.value⟩ :: history r.state rest

/-- A history has the calls of its run. -/
theorem history_calls (s : σ) (calls : List (Nat × String)) :
    (limiter.history s calls).map LimitEvent.call = calls := by
  induction calls generalizing s with
  | nil => rfl
  | cons c calls ih => simp only [history, List.map_cons, ih, LimitEvent.call]

end Limiter

/-! ## The rule -/

namespace CallLog.Limit

variable (limit : Limit)

/-- How many calls of a key were counted within the window behind an instant. -/
def counted (past : List LimitEvent) (t : Nat) (key : String) : Nat :=
  past.countP fun e => decide (e.key = key) && e.isCounted && decide (t - e.time < limit.window)

/-- The answer due to a call by what came before. -/
def due (past : List LimitEvent) (t : Nat) (key : String) : Except LimitFault Bool :=
  .ok (decide (limit.threshold ≤ limit.counted past t key))

/-- Every call of a history that some past precedes has the answer due to it. -/
def Follows : List LimitEvent → List LimitEvent → Prop
  | _, [] => True
  | past, e :: later => e.answer = limit.due past e.time e.key ∧ Follows (past ++ [e]) later

/-- Whether a call of a key was counted in the stretch, as long as the window, that begins at `a`. -/
def within (key : String) (a : Nat) (e : LimitEvent) : Bool :=
  decide (e.key = key) && e.isCounted && decide (a ≤ e.time ∧ e.time < a + limit.window)

variable {limit}

theorem counted_append (past : List LimitEvent) (e : LimitEvent) (t : Nat) (key : String) :
    limit.counted (past ++ [e]) t key = limit.counted past t key +
      if e.key = key ∧ e.isCounted = true ∧ t - e.time < limit.window then 1 else 0 := by
  simp [counted, List.countP_append, List.countP_singleton, and_assoc]

/-- A call that is refused, or made under another key, is not counted. -/
theorem counted_append_other {past : List LimitEvent} {e : LimitEvent} {key : String}
    (h : e.key = key → e.isCounted = false) (t : Nat) :
    limit.counted (past ++ [e]) t key = limit.counted past t key := by
  rw [counted_append, if_neg, Nat.add_zero]
  rintro ⟨hk, hc, -⟩
  rw [h hk] at hc
  cases hc

/-- Nothing is left in the window once it has moved past all calls. -/
theorem counted_eq_zero {past : List LimitEvent} {t : Nat} (h : ∀ a ∈ past, a.time + limit.window ≤ t)
    (key : String) : limit.counted past t key = 0 := by
  rw [counted, List.countP_eq_zero]
  intro a ha hc
  simp only [Bool.and_eq_true, decide_eq_true_eq] at hc
  have := h a ha
  omega

theorem follows_append {past xs ys : List LimitEvent} :
    limit.Follows past (xs ++ ys) ↔ limit.Follows past xs ∧ limit.Follows (past ++ xs) ys := by
  induction xs generalizing past with
  | nil => simp [Follows]
  | cons x xs ih => simp [Follows, ih, and_assoc]

/-- In a history that follows the rule from the start, every answer is due by what came before it. -/
theorem Follows.answer {h : List LimitEvent} (hf : limit.Follows [] h) {past later : List LimitEvent}
    {e : LimitEvent} (hs : h = past ++ e :: later) : e.answer = limit.due past e.time e.key := by
  rw [hs, follows_append] at hf
  exact hf.2.1

/-! ## What the rule entails -/

/-- No stretch as long as the window has more calls of a key counted than the limit allows. -/
theorem countP_within_le {h : List LimitEvent} (hf : limit.Follows [] h) (key : String) (a : Nat) :
    h.countP (limit.within key a) ≤ limit.threshold := by
  induction h using List.reverseRecOn with
  | nil => exact Nat.zero_le _
  | append_singleton past e ih =>
    obtain ⟨hpast, hanswer, -⟩ := follows_append.mp hf
    rw [List.countP_append, List.countP_singleton]
    by_cases he : limit.within key a e = true
    · -- the calls of the stretch before the last one were all in the window behind it
      rw [if_pos he]
      simp only [within, Bool.and_eq_true, decide_eq_true_eq] at he
      obtain ⟨⟨rfl, hcounted⟩, hfrom, huntil⟩ := he
      have hroom : limit.counted past e.time e.key < limit.threshold := by
        rw [LimitEvent.isCounted_iff, hanswer] at hcounted
        simpa [due] using hcounted
      have hbehind : past.countP (limit.within e.key a) ≤ limit.counted past e.time e.key := by
        refine List.countP_mono_left fun b _ hb => ?_
        simp only [within, Bool.and_eq_true, decide_eq_true_eq] at hb ⊢
        exact ⟨hb.1, by omega⟩
      omega
    · rw [if_neg he, Nat.add_zero]
      exact ih hpast

/-- Calls are left out of a history such that those counted under the key of a call that stays do. -/
def Spares (p : LimitEvent → Bool) (h : List LimitEvent) : Prop :=
  ∀ e ∈ h, p e = true → ∀ b ∈ h, b.key = e.key → b.isCounted = true → p b = true

theorem counted_filter {p : LimitEvent → Bool} {past : List LimitEvent} {key : String}
    (hp : ∀ b ∈ past, b.key = key → b.isCounted = true → p b = true) (t : Nat) :
    limit.counted (past.filter p) t key = limit.counted past t key := by
  rw [counted, counted, List.countP_filter]
  refine List.countP_congr fun b hb => ?_
  simp only [Bool.and_eq_true, decide_eq_true_eq]
  constructor
  · exact fun h => h.1
  · exact fun h => ⟨h, hp b hb h.1.1 h.1.2⟩

/-- What is left of a history when calls are left out of it follows the rule as well. -/
theorem Follows.filter {p : LimitEvent → Bool} {past h : List LimitEvent} (hf : limit.Follows past h)
    (hp : Spares p (past ++ h)) : limit.Follows (past.filter p) (h.filter p) := by
  induction h generalizing past with
  | nil => trivial
  | cons e later ih =>
    have hlater := ih hf.2 (by rwa [List.append_assoc, List.singleton_append])
    by_cases he : p e = true
    · have hsame : limit.counted (past.filter p) e.time e.key = limit.counted past e.time e.key :=
        counted_filter (fun b hb => hp e (by simp) he b (List.mem_append_left _ hb)) e.time
      rw [List.filter_append, List.filter_cons_of_pos he, List.filter_nil] at hlater
      rw [List.filter_cons_of_pos he]
      refine ⟨?_, hlater⟩
      rw [hf.1, due, due, hsame]
    · rw [List.filter_append, List.filter_cons_of_neg he, List.filter_nil, List.append_nil] at hlater
      rw [List.filter_cons_of_neg he]
      exact hlater

/-- Two histories of the same calls that follow the rule are the same. -/
theorem Follows.eq {past xs ys : List LimitEvent} (hx : limit.Follows past xs) (hy : limit.Follows past ys)
    (same : xs.map LimitEvent.call = ys.map LimitEvent.call) : xs = ys := by
  induction xs generalizing past ys with
  | nil => exact (List.map_eq_nil_iff.mp same.symm).symm
  | cons x xs ih =>
    cases ys with
    | nil => cases same
    | cons y ys =>
      obtain ⟨tx, kx, ax⟩ := x
      obtain ⟨ty, ky, ay⟩ := y
      simp only [List.map_cons, List.cons.injEq, LimitEvent.call, Prod.mk.injEq] at same
      obtain ⟨⟨rfl, rfl⟩, same⟩ := same
      have ha : ax = ay := hx.1.trans hy.1.symm
      subst ha
      rw [ih hx.2 hy.2 same]

/-! ## Limiters that follow the rule -/

/-- A limiter whose every call gives the answer due, and keeps what is so of past and state, follows
    the rule in a run at times that never go back. -/
theorem history_follows {σ : Type} {limiter : Limiter σ} {calls : List (Nat × String)}
    (Inv : List LimitEvent → σ → Prop)
    (step : ∀ past s t key, (t, key) ∈ calls → past.length < calls.length → (∀ a ∈ past, a.time ≤ t) → Inv past s →
      let r := (limiter key).run t s
      r.value = limit.due past t key ∧ Inv (past ++ [⟨t, key, r.value⟩]) r.state)
    {init : σ} (start : Inv [] init) (ordered : calls.Pairwise fun a b => a.1 ≤ b.1) :
    limit.Follows [] (limiter.history init calls) := by
  -- Over the calls still to come, with those made behind them.
  have main : ∀ rest past s, calls = past.map LimitEvent.call ++ rest → Inv past s →
      limit.Follows past (limiter.history s rest) := by
    intro rest
    induction rest with
    | nil => exact fun _ _ _ _ => trivial
    | cons c rest ih =>
      obtain ⟨t, key⟩ := c
      intro past s hsplit hI
      have hmem : (t, key) ∈ calls := by
        rw [hsplit]
        exact List.mem_append_right _ List.mem_cons_self
      have hlength : past.length < calls.length := by
        rw [hsplit, List.length_append, List.length_map, List.length_cons]
        omega
      have hle : ∀ a ∈ past, a.time ≤ t := by
        rw [hsplit] at ordered
        exact fun a ha => (List.pairwise_append.mp ordered).2.2 _ (List.mem_map_of_mem ha) _ List.mem_cons_self
      obtain ⟨hvalue, hnext⟩ := step past s t key hmem hlength hle hI
      refine ⟨hvalue, ih _ _ ?_ hnext⟩
      rw [hsplit, List.map_append, List.append_assoc]
      rfl
  exact main calls [] init rfl start

end CallLog.Limit

end Passcode
