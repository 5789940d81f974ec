/-
  Passcode.Proofs.Dispatch.Cancellation — a cancellation ends a send, wherever it comes from.

  A send is cancelled when a provider answers that it was, and when the caller's deadline cuts off a
  limiter or a wait before a repetition. No policy takes this for a failure: it is passed on at once,
  through any nesting, with the memory of all policies as it is.

  Proved: providers and limiters heed a cancellation, and policies pass that on (`Heeds.passes`), so the
  journal of a send has nothing after one, and the send ends there, cancelled (`cancellation_final`).
-/

import Passcode.Proofs.Dispatch.Journal

namespace Passcode

/-- Whether the send is cancelled by what happens. -/
def Happening.isCancellation : Happening → Bool
  | answered _ (.error .cancelled) | cutOff _ => true
  | _ => false

/-- Work is over at a cancellation. -/
def Account.Final {σ : Type} (a : Account σ Delivery) : Prop :=
  ∀ before e after, a.entries = before ++ e :: after → e.what.isCancellation = true →
    after = [] ∧ a.finish = ⟨e.time, e.deck, .error .cancelled⟩

/-- Work that is over at a cancellation, whenever it begins. -/
def Heeds {σ : Type} (teller : Teller σ Delivery) : Prop := ∀ t d, (teller t d).Final

namespace Heeds

variable {σ α : Type}

theorem pure (result : Delivery) : Heeds (Pure.pure result : Teller σ Delivery) := by
  intro t d before e after h
  exact absurd h (by simp [Pure.pure])

theorem doing {work : Task (Deck σ) α} {next : α → Teller σ Delivery} (h : ∀ a, Heeds (next a)) :
    Heeds (Teller.doing work >>= next) := fun _ _ => h _ _ _

/-- What is told first does not cancel. -/
theorem tell {what : Happening} {next : Unit → Teller σ Delivery} (hw : what.isCancellation = false)
    (h : Heeds (next ())) : Heeds (Teller.tell what >>= next) := by
  intro t d before e after hsplit hc
  cases before with
  | nil =>
    obtain ⟨rfl, -⟩ := List.cons_eq_cons.mp hsplit
    rw [hw] at hc
    cases hc
  | cons first before => exact h t d before e after (List.cons_eq_cons.mp hsplit).2 hc

/-- Work that ends with what it tells is cancelled if that is a cancellation. -/
theorem last {what : Happening} {result : Delivery} (h : what.isCancellation = true → result = .error .cancelled) :
    Heeds (Teller.tell what >>= fun _ => (Pure.pure result : Teller σ Delivery)) := by
  intro t d before e after hsplit hc
  cases before with
  | nil =>
    obtain ⟨rfl, rfl⟩ := List.cons_eq_cons.mp hsplit
    rw [h hc]
    exact ⟨rfl, rfl⟩
  | cons first before =>
    have hnil : [] = before ++ e :: after := (List.cons_eq_cons.mp hsplit).2
    cases before <;> cases hnil

theorem cutOff (place : List Nat) :
    Heeds (Teller.tell (.cutOff place) >>= fun _ => (Pure.pure (.error .cancelled) : Teller σ Delivery)) :=
  last fun _ => rfl

theorem answered (place : List Nat) (result : Delivery) :
    Heeds (Teller.tell (.answered place result) >>= fun _ => (Pure.pure result : Teller σ Delivery)) := by
  refine last fun hc => ?_
  rcases result with fault | ⟨⟩
  · cases fault with
    | cancelled => rfl
    | _ => cases hc
  · cases hc

/-- What follows heeds a cancellation as well, and does nothing at one. -/
theorem send {first : Teller σ Delivery} {next : Delivery → Teller σ Delivery} (h : Heeds first)
    (hn : ∀ result, Heeds (next result))
    (hc : ∀ t d, next (.error .cancelled) t d = ⟨[], t, d, .error .cancelled⟩) : Heeds (first >>= next) := by
  intro t d before e after hsplit hcancel
  obtain ⟨rest, -, hrest⟩ | ⟨rest, hfirst, hrest⟩ := List.append_eq_append_iff.mp hsplit
  · exact hn _ _ _ rest e after hrest hcancel
  · cases rest with
    | nil => exact hn _ _ _ [] e after hrest.symm hcancel
    | cons own rest =>
      obtain ⟨rfl, rfl⟩ := List.cons_eq_cons.mp hrest
      obtain ⟨rfl, hfinish⟩ := h t d before e rest hfirst hcancel
      have hnext : next (first t d).finish.value (first t d).finish.time (first t d).finish.state =
          ⟨[], e.time, e.deck, .error .cancelled⟩ := by
        rw [hfinish]
        exact hc e.time e.deck
      exact ⟨congrArg Account.entries hnext, congrArg Account.finish hnext⟩

theorem resting (place : List Nat) (delay : Nat) (ctx : Context) {next : Teller σ Delivery} (h : Heeds next) :
    Heeds (Narrator.resting place delay ctx next) := by
  refine doing fun o => ?_
  rcases o with _ | ⟨⟩
  · exact cutOff place
  · exact tell rfl h

theorem passes (ctx : Context) : Passes ctx (Heeds (σ := σ)) where
  pure := pure
  glance _ hn := doing hn
  send := send
  rest place delay _ hn := resting place delay ctx hn

/-! ### Providers and limiters -/

theorem provider (place : List Nat) (sender : Sender σ) (ctx : Context) (message : Message) :
    Heeds (Narrator.provider place sender ctx message) :=
  tell rfl (doing fun result => answered place result)

theorem limited (ctx : Context) (place : List Nat) (limiter : Limiter σ) (key : String) (narrator : Narrator σ)
    (h : ∀ message, Heeds (narrator ctx message)) (message : Message) :
    Heeds (Narrator.limited place limiter key narrator ctx message) := by
  refine doing fun now => ?_
  by_cases hexpired : ctx.isExpired now = true
  · rw [if_pos hexpired]
    exact cutOff place
  · rw [if_neg hexpired]
    refine tell rfl (doing fun o => ?_)
    rcases o with _ | _ | _ | _
    · exact cutOff place
    · exact tell rfl (pure _)
    · exact tell rfl (h message)
    · exact tell rfl (pure _)

end Heeds

/-- Nothing happens in a send after a cancellation, whatever the policies around the providers and
    however deep they are nested: the send ends at once, cancelled, with the state as it is. -/
theorem cancellation_final {σ : Type} (clock : σ → Int) (route : Route σ) (ctx : Context) (message : Message)
    (t : Nat) (d : Deck σ) {before after : List (Entry σ)} {e : Entry σ}
    (h : (route.journal clock [] ctx message t d).entries = before ++ e :: after)
    (hc : e.what.isCancellation = true) :
    after = [] ∧ (route.send clock ctx message).run t d = ⟨e.time, e.deck, .error .cancelled⟩ := by
  have hleaves := Route.Leaves.of_forall (fun place sender => Heeds.provider place sender ctx)
    (Heeds.limited ctx) [] route
  rw [← Route.journal_finish]
  exact Route.journal_passes clock (Heeds.passes ctx) [] route hleaves message t d before e after h hc

/-- The second of three providers is cancelled, under a limiter and retries. -/
def sampleRoute : Route Unit :=
  .retry 2 100 (.limited (fun _ => return .ok false) "sms:verify" (.failover [
    .provider "first" fun _ _ => return .error (.provider "first" "down"),
    .provider "second" fun _ _ => return .error .cancelled,
    .provider "third" fun _ _ => return .ok ()]))

theorem cancellation_final_sample : ∃ before e after,
    (sampleRoute.journal (fun _ => 0) [] .unbounded ⟨"verify_code", [], []⟩ 5 { outer := () }).entries =
      before ++ e :: after ∧ e.what = .answered [1] (.error .cancelled) ∧ after = [] ∧
    (sampleRoute.send (fun _ => 0) .unbounded ⟨"verify_code", [], []⟩).run 5 { outer := () } =
      ⟨e.time, e.deck, .error .cancelled⟩ := by
  have h : (sampleRoute.journal (fun _ => 0) [] .unbounded ⟨"verify_code", [], []⟩ 5 { outer := () }).entries =
      [_, _, _, _, _] ++ _ :: _ := rfl
  obtain ⟨hafter, hrun⟩ := cancellation_final (fun _ => 0) sampleRoute .unbounded ⟨"verify_code", [], []⟩ 5
    { outer := () } h rfl
  exact ⟨_, _, _, h, rfl, hafter, hrun⟩

end Passcode
