/-
  Passcode.Proofs.Dispatch.Deadline — a chain does nothing at or after the caller's deadline.

  What a chain does to the outside is noted, with its time: a limiter is consulted, a request is posted,
  and a provider in the process keeps messages. Every wait on the way is cut off at the deadline, and
  where one ends just then, what comes next finds that the caller has given up.

  Proved: the providers and the limiter of a chain are timely (`DeliverySettings.provider_timely`,
  `consultation_timely`) and policies pass that on (`Prompt.passes`), so in every send through a chain
  that settings describe all deeds come before the deadline, and the send is over by the deadline, or
  at once (`deadline_kept`).
-/

import Passcode.Proofs.Dispatch.Chain
import Passcode.Proofs.Dispatch.Sightings

namespace Passcode

/-- What a chain does to the outside. -/
inductive Deed where
  | consulted (key : String)
  | posted (request : Http.Request)
  | kept (accepted : Outbox)

abbrev DeedLog := List (Nat × Deed)

/-- A state with the deeds so far, each with its time. -/
abbrev Watched (σ : Type) := Logged (Nat × Deed) σ

variable {σ : Type}

/-- The limiter, noting when it is consulted. -/
def Limiter.noted (limiter : Limiter σ) : Limiter (Watched σ) := fun key => do
  Logged.note fun now => (now, .consulted key)
  Logged.lift (limiter key)

/-- The carrier, noting when it is used. -/
def Carrier.noted (carrier : Carrier σ) : Carrier (Watched σ) where
  keep place now accepted s := ⟨carrier.keep place now accepted s.inner, s.log ++ [(now, .kept accepted)]⟩
  line place now request s :=
    let (reply, inner) := carrier.line place now request s.inner
    (reply, ⟨inner, s.log ++ [(now, .posted request)]⟩)

/-- Between a start and a finish, everything that is noted comes before the deadline, and the finish is
    by the deadline, or at once. -/
structure Timely (deadline start : Nat) (log : DeedLog) (finish : Nat) (log' : DeedLog) : Prop where
  noted : ∃ deeds, log' = log ++ deeds ∧ ∀ deed ∈ deeds, deed.1 < deadline
  ends : finish ≤ max start deadline

namespace Timely

variable {deadline start middle finish : Nat} {log log' log'' : DeedLog}

/-- Nothing is noted. -/
theorem quiet (h : finish ≤ max start deadline) : Timely deadline start log finish log :=
  ⟨⟨[], (List.append_nil _).symm, fun _ h => nomatch h⟩, h⟩

theorem refl : Timely deadline start log start log := quiet (Nat.le_max_left ..)

theorem trans (h : Timely deadline start log middle log') (h' : Timely deadline middle log' finish log'') :
    Timely deadline start log finish log'' := by
  obtain ⟨⟨deeds, rfl, hdeeds⟩, hover⟩ := h
  obtain ⟨⟨deeds', rfl, hdeeds'⟩, hover'⟩ := h'
  refine ⟨⟨deeds ++ deeds', List.append_assoc .., fun deed hm => ?_⟩, by omega⟩
  rcases List.mem_append.mp hm with hm | hm
  · exact hdeeds deed hm
  · exact hdeeds' deed hm

/-- A deed before the deadline. -/
theorem deed (what : Deed) (h : start < deadline) (hf : finish ≤ deadline) :
    Timely deadline start log finish (log ++ [(start, what)]) := by
  refine ⟨⟨[(start, what)], rfl, fun deed hm => ?_⟩, by omega⟩
  rw [List.mem_singleton.mp hm]
  exact h

end Timely

/-- Work that is timely whenever it starts. -/
def Task.Punctual {α : Type} (deadline : Nat) (task : Task (Watched σ) α) : Prop :=
  ∀ t s, Timely deadline t s.log (task.run t s).time (task.run t s).state.log

namespace Task.Punctual

variable {α β : Type} {deadline : Nat}

theorem pure (a : α) : (Pure.pure a : Task (Watched σ) α).Punctual deadline := fun _ _ => .refl

theorem bind {task : Task (Watched σ) α} {next : α → Task (Watched σ) β} (h : task.Punctual deadline)
    (hn : ∀ a, (next a).Punctual deadline) : (task >>= next).Punctual deadline := by
  intro t s
  rw [Task.run_bind]
  exact (h t s).trans (hn ..)

end Task.Punctual

/-! ## Providers -/

theorem outbox_timely (deadline : Nat) (name : String) (templates : Templates) (carrier : Carrier σ) (place : Nat)
    (message : Message) :
    (Outbox.provider name templates (carrier.noted.keep place) (.bounded deadline) message).Punctual deadline := by
  intro t s
  have hnow : ∀ next : Nat → Task (Watched σ) Delivery, (Task.now >>= next).run t s = (next t).run t s :=
    fun _ => rfl
  unfold Outbox.provider
  rw [hnow]
  by_cases hexpired : (Context.bounded deadline).isExpired t = true
  · rw [if_pos hexpired]
    exact .refl
  · rw [if_neg hexpired]
    have hlt : t < deadline := by simpa [Context.bounded, Context.isExpired] using hexpired
    cases Outbox.compose name templates message with
    | error e => exact .refl
    | ok accepted => exact .deed (.kept accepted) hlt (Nat.le_of_lt hlt)

/-- Once a request is made, what follows only waits. -/
theorem hear_keeps (c : ProviderSettings) (limit : Nat) (reply : Http.Reply) (s : σ) :
    (Twilio.hear c limit reply).Keeps (· = s) fun _ => True := by
  have await_keeps : ∀ delay, (Twilio.await limit delay).Keeps (· = s) fun _ => True := fun _ => trivial
  unfold Twilio.hear
  cases reply.exchange with
  | answer status body =>
    refine (await_keeps _).bind fun came _ => ?_
    cases came with
    | false => trivial
    | true => exact Task.Keeps.bind (P := fun _ => True) trivial fun came _ => by cases came <;> trivial
  | dropped => exact (await_keeps _).bind fun came _ => by cases came <;> trivial
  | silent => trivial

/-- A post under a deadline makes its request at once, or not at all. -/
theorem post_timely (deadline : Nat) (c : ProviderSettings) (carrier : Carrier σ) (place : Nat) (number body : String) :
    ((Context.bounded deadline).run (Twilio.post (carrier.noted.line place) c number body)).Punctual deadline := by
  intro t s
  by_cases hlt : t < deadline
  · rw [Context.bounded, Context.run_before_deadline _ hlt]
    unfold Twilio.post
    dsimp only
    split
    · exact .refl
    · split
      · exact .refl
      · rw [Task.run_within_act fun reply s => hear_keeps c _ reply s]
        refine .deed (.posted (Twilio.request c number body)) hlt ?_
        exact Nat.le_trans (Task.run_within_time_le ..) (by omega)
  · rw [Context.bounded, Context.run_past_deadline _ hlt]
    exact .refl

theorem postEach_timely (deadline : Nat) (c : ProviderSettings) (carrier : Carrier σ) (place : Nat) (body : String)
    (numbers failures : List String) :
    (Twilio.postEach (carrier.noted.line place) c (.bounded deadline) body numbers failures).Punctual deadline := by
  induction numbers generalizing failures with
  | nil => cases failures <;> exact .pure _
  | cons number rest ih =>
    refine (post_timely deadline c carrier place number body).bind fun o => ?_
    rcases o with _ | e | ⟨⟩
    · exact .pure _
    · dsimp only
      by_cases htimeout : e.isTimeout = true
      · rw [if_pos htimeout]
        exact .pure _
      · rw [if_neg htimeout]
        exact ih _
    · exact ih failures

theorem twilio_timely (deadline : Nat) (c : ProviderSettings) (templates : Templates) (carrier : Carrier σ)
    (place : Nat) (message : Message) :
    (Twilio.provider c templates (carrier.noted.line place) (.bounded deadline) message).Punctual deadline := by
  unfold Twilio.provider
  cases Twilio.compose c templates message with
  | error e => exact .pure _
  | ok composed => exact postEach_timely deadline c carrier place composed.1 composed.2 []

/-! ## Policies -/

/-- A limiter is consulted at once, or not at all. -/
theorem consultation_timely (deadline : Nat) (limiter : Limiter σ) (key : String) (t : Nat) (d : Deck (Watched σ)) :
    let e := ((Context.bounded deadline).run (Deck.lift (limiter.noted key))).run t d
    Timely deadline t d.outer.log e.time e.state.outer.log := by
  intro e
  have hover : e.time ≤ max t deadline := Context.run_bounded_time_le ..
  by_cases hlt : t < deadline
  · have hlog : e.state.outer.log = d.outer.log ++ [(t, .consulted key)] := by
      simp only [e]
      rw [Context.bounded, Context.run_before_deadline _ hlt]
      exact ((Logged.lift_keeps (limiter key) _).within (deadline - t)).run rfl |>.1
    rw [hlog]
    exact .deed (.consulted key) hlt (by omega)
  · rw [show e = ⟨t, d, none⟩ from Context.run_past_deadline _ hlt d]
    exact .refl

/-- Work of a send that is timely whenever it starts. -/
def Prompt (deadline : Nat) (teller : Teller (Watched σ) Delivery) : Prop :=
  ∀ t d, Timely deadline t d.outer.log (teller t d).finish.time (teller t d).finish.state.outer.log

namespace Prompt

variable {deadline : Nat}

theorem pure (result : Delivery) : Prompt deadline (Pure.pure result : Teller (Watched σ) Delivery) :=
  fun _ _ => .refl

theorem tell {what : Happening} {next : Unit → Teller (Watched σ) Delivery} (h : Prompt deadline (next ())) :
    Prompt deadline (Teller.tell what >>= next) := fun t d => h t d

theorem doing {α : Type} {work : Task (Deck (Watched σ)) α} {next : α → Teller (Watched σ) Delivery}
    (hw : ∀ t d, Timely deadline t d.outer.log (work.run t d).time (work.run t d).state.outer.log)
    (hn : ∀ a, Prompt deadline (next a)) : Prompt deadline (Teller.doing work >>= next) :=
  fun t d => (hw t d).trans (hn ..)

theorem passes : Passes (.bounded deadline) (Prompt deadline (σ := σ)) where
  pure := pure
  glance hw hn := by
    refine doing (fun t d => ?_) hn
    rw [(hw t d).1, (hw t d).2]
    exact .refl
  send h hn _ := fun t d => (h t d).trans (hn ..)
  rest place delay _ hn := by
    refine doing (fun t d => ?_) fun o => ?_
    · rw [Task.run_sleep_state]
      exact .quiet (Context.run_bounded_time_le ..)
    · rcases o with _ | ⟨⟩
      · exact tell (pure _)
      · exact tell hn

theorem provider {sender : Sender (Watched σ)}
    (h : ∀ message, (sender (.bounded deadline) message).Punctual deadline) (place : List Nat) (message : Message) :
    Prompt deadline (Narrator.provider place sender (.bounded deadline) message) := by
  refine tell (doing (fun t d => ?_) fun result => tell (pure result))
  rw [Deck.run_lift]
  exact h message t d.outer

theorem limited (place : List Nat) (limiter : Limiter σ) (key : String) (narrator : Narrator (Watched σ))
    (h : ∀ message, Prompt deadline (narrator (.bounded deadline) message)) (message : Message) :
    Prompt deadline (Narrator.limited place limiter.noted key narrator (.bounded deadline) message) := by
  refine doing (fun _ _ => .refl) fun now => ?_
  by_cases hexpired : (Context.bounded deadline).isExpired now = true
  · rw [if_pos hexpired]
    exact tell (pure _)
  · rw [if_neg hexpired]
    refine tell (doing (consultation_timely deadline limiter key) fun o => ?_)
    rcases o with _ | _ | _ | _
    · exact tell (pure _)
    · exact tell (pure _)
    · exact tell (h message)
    · exact tell (pure _)

end Prompt

/-! ## Chains -/

/-- The providers of a chain do nothing after the deadline. -/
theorem DeliverySettings.provider_timely (deadline : Nat) (templates : Templates) (carrier : Carrier σ) (place : Nat)
    (settings : ProviderSettings) {leaf : Route (Watched σ)}
    (h : DeliverySettings.provider templates carrier.noted place settings = .ok leaf) :
    ∃ name sender, leaf = .provider name sender ∧
      ∀ message, (sender (.bounded deadline) message).Punctual deadline := by
  rcases DeliverySettings.provider_eq_ok h with rfl | rfl
  · exact ⟨_, _, rfl, outbox_timely deadline _ _ _ _⟩
  · exact ⟨_, _, rfl, twilio_timely deadline _ _ _ _⟩

/-- In a send through any chain that settings describe, whatever the limiter, the providers and the APIs
    do, all that is done is done before the caller's deadline, and the send is over by then. -/
theorem deadline_kept (c : DeliverySettings) (limiter : Limiter σ) (carrier : Carrier σ) (slot : Nat)
    {route : Route (Watched σ)} (h : c.route limiter.noted carrier.noted slot = .ok route)
    (clock : Watched σ → Int) (message : Message) (deadline start : Nat) (d : Deck (Watched σ)) :
    let e := (route.send clock (.bounded deadline) message).run start d
    (∃ deeds, e.state.outer.log = d.outer.log ++ deeds ∧ ∀ deed ∈ deeds, deed.1 < deadline) ∧
      e.time ≤ max start deadline := by
  have htimely : Prompt deadline (route.journal clock [] (.bounded deadline) message) := by
    refine Route.journal_passes clock Prompt.passes [] route ?_ message
    refine DeliverySettings.route_leaves h (fun place => Prompt.limited place limiter) ?_
    intro place settings leaf hleaf inRoute
    obtain ⟨name, sender, rfl, hsender⟩ := DeliverySettings.provider_timely deadline _ _ _ _ hleaf
    exact Prompt.provider hsender inRoute
  have hsend := htimely start d
  rw [Route.journal_finish] at hsend
  exact ⟨hsend.noted, hsend.ends⟩

/-! ### A post that is never answered, after a limiter that takes its time -/

def stalledSettings : DeliverySettings := {
  providers := [
    { name := "api", kind := .twilio, accountSid := "AC0", authToken := "token", fromNumber := "+15550001111" },
    { name := "memory", kind := .memory }] }

def slowLimiter : Limiter Unit := fun _ => do
  Task.sleep 30
  return .ok false

def silentCarrier : Carrier Unit where
  keep _ _ _ s := s
  line _ _ _ s := ({ exchange := .silent }, s)

theorem deadline_kept_sample :
    ∃ route, stalledSettings.route slowLimiter.noted silentCarrier.noted 0 = .ok route ∧
      let message := ⟨defaultCodeTemplate, [⟨"code", "123456"⟩], ["+8613800138000"]⟩
      let e := (route.send (fun _ => 0) (.bounded 5000) message).run 0 { outer := ⟨(), []⟩ }
      e.state.outer.log.map Prod.fst = [0, 30] ∧
      (∃ deeds, e.state.outer.log = [] ++ deeds ∧ ∀ deed ∈ deeds, deed.1 < 5000) ∧ e.time ≤ max 0 5000 := by
  refine ⟨_, rfl, by decide +kernel, ?_⟩
  exact deadline_kept stalledSettings slowLimiter silentCarrier 0 rfl (fun _ => 0) _ 5000 0 { outer := ⟨(), []⟩ }

end Passcode
