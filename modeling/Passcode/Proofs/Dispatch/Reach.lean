/-
  Passcode.Proofs.Dispatch.Reach — how far the policies behind the limit of a chain can take a send.

  An attempt goes through each provider of a list once at most, or to the provider in use and no other;
  and it is repeated as often as the settings say. Once the deadline has come an attempt is not repeated,
  and the strategies that walk a list do not begin to.

  Proved: bounds on what happens add up along every policy (`AtMost.bind`, `AtMost.tryEach`,
  `AtMost.retry`), so the settings bound how often a send can contact providers, and when the deadline
  has come it is once at most, and never but under the timeout strategy (`behind_bounded`).
-/

import Passcode.Proofs.Dispatch.Chain

namespace Passcode

variable {σ α : Type}

namespace Happening

def isContact : Happening → Bool
  | contacted _ => true
  | _ => false

def isConsultation : Happening → Bool
  | consulted .. => true
  | _ => false

/-- How many entries of a journal are of a kind. -/
def count (p : Happening → Bool) (entries : List (Entry σ)) : Nat := entries.countP fun e => p e.what

theorem count_bind {β : Type} (p : Happening → Bool) (first : Teller σ α) (next : α → Teller σ β) (t : Nat) (d : Deck σ) :
    count p ((first >>= next) t d).entries = count p (first t d).entries +
      count p (next (first t d).finish.value (first t d).finish.time (first t d).finish.state).entries :=
  List.countP_append

theorem count_cons (p : Happening → Bool) (e : Entry σ) (rest : List (Entry σ)) :
    count p (e :: rest) = count p rest + if p e.what then 1 else 0 := List.countP_cons

/-- An entry of a kind that a list has none of is not in it. -/
theorem count_eq_zero {p : Happening → Bool} {entries : List (Entry σ)} :
    count p entries = 0 ↔ ∀ e ∈ entries, p e.what = false := by
  simp [count]

/-- A kind that waits and cut-offs are not of. -/
structure Outward (p : Happening → Bool) : Prop where
  waited : ∀ place delay, p (.waited place delay) = false
  cutOff : ∀ place, p (.cutOff place) = false

theorem isContact_outward : Outward isContact := ⟨fun _ _ => rfl, fun _ => rfl⟩

theorem isConsultation_outward : Outward isConsultation := ⟨fun _ _ => rfl, fun _ => rfl⟩

end Happening

open Happening (isContact isConsultation Outward)

/-! ## Counting along policies -/

/-- Work, whenever it begins, tells of at most `n` happenings of a kind. -/
def AtMost (p : Happening → Bool) (n : Nat) (teller : Teller σ α) : Prop :=
  ∀ t d, Happening.count p (teller t d).entries ≤ n

namespace AtMost

variable {β : Type} {p : Happening → Bool} {m n : Nat}

theorem pure (a : α) : AtMost p n (Pure.pure a : Teller σ α) := fun _ _ => Nat.zero_le n

theorem bind {first : Teller σ α} {next : α → Teller σ β} (h : AtMost p m first) (hn : ∀ a, AtMost p n (next a)) :
    AtMost p (m + n) (first >>= next) := by
  intro t d
  rw [Happening.count_bind]
  exact Nat.add_le_add (h t d) (hn ..)

theorem doing {work : Task (Deck σ) α} {next : α → Teller σ β} (h : ∀ a, AtMost p n (next a)) :
    AtMost p n (Teller.doing work >>= next) := fun _ _ => h _ _ _

theorem tell {what : Happening} {next : Unit → Teller σ β} (hw : p what = false) (h : AtMost p n (next ())) :
    AtMost p n (Teller.tell what >>= next) := by
  intro t d
  have hskip : Happening.count p ((Teller.tell what >>= next) t d).entries =
      Happening.count p (next () t d).entries :=
    List.countP_cons_of_neg (by simp [hw])
  rw [hskip]
  exact h t d

theorem contact (place : List Nat) (sender : Sender σ) (ctx : Context) (message : Message) :
    AtMost isContact 1 (Narrator.provider place sender ctx message) := fun _ _ => Nat.le_refl 1

theorem noConsultation (place : List Nat) (sender : Sender σ) (ctx : Context) (message : Message) :
    AtMost isConsultation 0 (Narrator.provider place sender ctx message) := fun _ _ => Nat.le_refl 0

variable {ctx : Context} {narrator : Narrator σ} {narrators : List (Narrator σ)}

theorem tryEach (h : ∀ narrator ∈ narrators, ∀ message, AtMost p m (narrator ctx message)) (attempts : Nat)
    (message : Message) : AtMost p (narrators.length * m) (Narrator.tryEach attempts narrators ctx message) := by
  induction narrators with
  | nil => exact pure _
  | cons first rest ih =>
    have hrest := ih fun narrator hm => h narrator (List.mem_cons_of_mem _ hm)
    refine doing fun now => ?_
    by_cases hexpired : ctx.isExpired now = true
    · rw [if_pos hexpired]
      exact pure _
    · rw [if_neg hexpired, List.length_cons, Nat.succ_mul, Nat.add_comm]
      refine (h first (List.mem_cons_self ..) message).bind fun result => ?_
      rcases result with e | ⟨⟩
      · cases e with
        | cancelled => exact pure _
        | _ => exact hrest
      · exact pure _

theorem failover (h : ∀ narrator ∈ narrators, ∀ message, AtMost p m (narrator ctx message)) (message : Message) :
    AtMost p (narrators.length * m) (Narrator.failover narrators ctx message) := tryEach h _ message

theorem rotating (h : ∀ narrator ∈ narrators, ∀ message, AtMost p m (narrator ctx message)) (cursor : Nat)
    (message : Message) : AtMost p (narrators.length * m) (Narrator.rotating cursor narrators ctx message) := by
  unfold Narrator.rotating
  split
  · exact pure _
  · refine doing fun start => ?_
    rw [← length_rotateLeft narrators start.toNat]
    exact failover (fun narrator hm => h narrator (mem_of_mem_rotateLeft hm)) message

/-- Only one sender is in use. -/
theorem sticky (h : ∀ narrator ∈ narrators, ∀ message, AtMost p m (narrator ctx message)) (streak threshold : Nat)
    (message : Message) : AtMost p m (Narrator.sticky streak threshold narrators ctx message) := by
  refine doing fun index => ?_
  cases hnarrator : narrators[index]? with
  | none => exact pure _
  | some narrator =>
    have hm := List.mem_of_getElem? hnarrator
    have hafter : ∀ result next count, AtMost p 0 (do
        let _next ← Teller.doing (Task.act fun _ d => d.hear streak index next count result)
        return result : Teller σ Delivery) := fun _ _ _ => doing fun _ => pure _
    exact (h narrator hm message).bind fun result => hafter result _ _

theorem resting (hp : Outward p) {next : Teller σ Delivery} (h : AtMost p n next) (place : List Nat) (delay : Nat) :
    AtMost p n (Narrator.resting place delay ctx next) := by
  refine doing fun o => ?_
  rcases o with _ | ⟨⟩
  · exact tell (hp.cutOff place) (pure _)
  · exact tell (hp.waited place delay) h

/-- A send and its repetitions. -/
theorem retry (hp : Outward p) (h : ∀ message, AtMost p m (narrator ctx message)) (place : List Nat)
    (retries delay : Nat) (message : Message) :
    AtMost p ((retries + 1) * m) (Narrator.retry place narrator retries delay ctx message) := by
  induction retries generalizing delay with
  | zero =>
    rw [Nat.zero_add, Nat.one_mul]
    exact h message
  | succ retries ih =>
    rw [Nat.succ_mul, Nat.add_comm]
    refine (h message).bind fun result => ?_
    rcases result with e | ⟨⟩
    · dsimp only
      by_cases hretry : e.isRetryable = true
      · rw [if_pos hretry]
        exact resting hp (ih _) place delay
      · rw [if_neg hretry]
        exact pure _
    · exact pure _

end AtMost

/-! ## A deadline that has come -/

namespace Narrator

variable {ctx : Context} {narrator : Narrator σ} {narrators : List (Narrator σ)} {t : Nat}

theorem tryEach_expired (hne : narrators ≠ []) (h : ctx.isExpired t = true) (attempts : Nat) (message : Message)
    (d : Deck σ) : tryEach attempts narrators ctx message t d = ⟨[], t, d, .error .cancelled⟩ := by
  cases narrators with
  | nil => exact absurd rfl hne
  | cons first rest =>
    unfold tryEach
    rw [Teller.now_bind, if_pos h]
    rfl

theorem failover_expired (hne : narrators ≠ []) (h : ctx.isExpired t = true) (message : Message) (d : Deck σ) :
    failover narrators ctx message t d = ⟨[], t, d, .error .cancelled⟩ := tryEach_expired hne h _ message d

theorem rotating_expired (hne : narrators ≠ []) (h : ctx.isExpired t = true) (cursor : Nat) (message : Message)
    (d : Deck σ) :
    rotating cursor narrators ctx message t d = ⟨[], t, d.advance cursor, .error .cancelled⟩ := by
  have hturned : narrators.rotateLeft (d.cursor cursor).toNat ≠ [] := by
    rw [← List.length_pos_iff, length_rotateLeft]
    exact List.length_pos_iff.mpr hne
  unfold rotating
  rw [if_neg (by simpa using hne)]
  exact failover_expired hturned h message (d.advance cursor)

/-- What follows an attempt that may be repeated. -/
def again (place : List Nat) (narrator : Narrator σ) (retries delay : Nat) (ctx : Context) (message : Message) :
    Delivery → Teller σ Delivery
  | .ok () => return .ok ()
  | .error e =>
    if e.isRetryable then resting place delay ctx (retry place narrator retries (delay * 2) ctx message)
    else return .error e

theorem retry_succ (place : List Nat) (narrator : Narrator σ) (retries delay : Nat) (ctx : Context) (message : Message) :
    retry place narrator (retries + 1) delay ctx message =
      narrator ctx message >>= again place narrator retries delay ctx message := by
  rw [retry]
  congr

/-- A send that did not end with a fault that may pass is over. -/
theorem retry_over {message : Message} {d : Deck σ}
    (h : ∀ fault, (narrator ctx message t d).finish.value = .error fault → fault.isRetryable = false)
    (place : List Nat) (retries delay : Nat) :
    retry place narrator retries delay ctx message t d = narrator ctx message t d := by
  cases retries with
  | zero => rfl
  | succ retries =>
    have hagain : ∀ result : Delivery, (∀ fault, result = .error fault → fault.isRetryable = false) →
        again place narrator retries delay ctx message result = Pure.pure result := by
      rintro (fault | ⟨⟩) hfinal
      · exact if_neg (Bool.eq_false_iff.mp (hfinal fault rfl))
      · rfl
    rw [retry_succ]
    show (let a := narrator ctx message t d
      let b := again place narrator retries delay ctx message a.finish.value a.finish.time a.finish.state
      (⟨a.entries ++ b.entries, b.finish⟩ : Account σ Delivery)) = _
    dsimp only
    rw [hagain _ h]
    exact congrArg (Account.mk · _) (List.append_nil _)

/-- A fault that may not pass ends a send. -/
theorem retry_final {message : Message} {d : Deck σ} {fault : SendFault}
    (h : (narrator ctx message t d).finish.value = .error fault) (hfault : fault.isRetryable = false)
    (place : List Nat) (retries delay : Nat) :
    retry place narrator retries delay ctx message t d = narrator ctx message t d := by
  refine retry_over (fun other hother => ?_) place retries delay
  cases h.symm.trans hother
  exact hfault

/-- A send that was cancelled is not repeated. -/
theorem retry_cancelled {message : Message} {d : Deck σ}
    (h : (narrator ctx message t d).finish.value = .error .cancelled) (place : List Nat) (retries delay : Nat) :
    retry place narrator retries delay ctx message t d = narrator ctx message t d :=
  retry_final h rfl place retries delay

theorem resting_expired (h : ctx.isExpired t = true) (place : List Nat) (delay : Nat) (next : Teller σ Delivery)
    (d : Deck σ) : resting place delay ctx next t d = ⟨[⟨t, d, .cutOff place⟩], t, d, .error .cancelled⟩ := by
  unfold resting
  rw [Teller.doing_bind, Context.run_expired _ _ _ _ h]
  rfl

/-- A send that is over after the deadline is not repeated. -/
theorem retry_expired {message : Message} {d : Deck σ} (h : ctx.isExpired (narrator ctx message t d).finish.time = true)
    {p : Happening → Bool} (hp : Outward p) (place : List Nat) (retries delay : Nat) :
    Happening.count p (retry place narrator retries delay ctx message t d).entries =
      Happening.count p (narrator ctx message t d).entries := by
  cases retries with
  | zero => rfl
  | succ retries =>
    have hafter : ∀ result t d, ctx.isExpired t = true → Happening.count p
        (again place narrator retries delay ctx message result t d).entries = 0 := by
      intro result t d hexpired
      rcases result with e | ⟨⟩
      · dsimp only [again]
        by_cases hretry : e.isRetryable = true
        · rw [if_pos hretry, resting_expired hexpired]
          exact List.countP_eq_zero.mpr (by simp [hp.cutOff])
        · rw [if_neg hretry]
          rfl
      · rfl
    rw [retry_succ, Happening.count_bind, hafter _ _ _ h, Nat.add_zero]

end Narrator

/-! ## Behind the gate -/

theorem Route.length_journals (clock : σ → Int) (place : List Nat) (i : Nat) (inner : List (Route σ)) :
    (journals clock place i inner).length = inner.length := by
  induction inner generalizing i with
  | nil => rfl
  | cons route rest ih => exact congrArg Nat.succ (ih (i + 1))

theorem Route.mem_journals {clock : σ → Int} {place : List Nat} {i : Nat} {inner : List (Route σ)}
    {narrator : Narrator σ} (h : narrator ∈ journals clock place i inner) :
    ∃ route ∈ inner, ∃ inRoute, narrator = journal clock inRoute route := by
  induction inner generalizing i with
  | nil => cases h
  | cons route rest ih =>
    rcases List.mem_cons.mp h with rfl | h
    · exact ⟨route, List.mem_cons_self .., _, rfl⟩
    · obtain ⟨other, hm, found⟩ := ih h
      exact ⟨other, List.mem_cons_of_mem _ hm, found⟩

theorem Route.getElem?_journals (clock : σ → Int) (place : List Nat) (i k : Nat) (inner : List (Route σ)) :
    (journals clock place i inner)[k]? = inner[k]?.map (journal clock (place ++ [i + k])) := by
  induction inner generalizing i k with
  | nil => rfl
  | cons route rest ih =>
    cases k with
    | zero => rfl
    | succ k =>
      have hnext : i + 1 + k = i + (k + 1) := by omega
      rw [journals, List.getElem?_cons_succ, List.getElem?_cons_succ, ih, hnext]

namespace DeliverySettings

variable {c : DeliverySettings} {limiter : Limiter σ} {carrier : Carrier σ} {slot : Nat} {providers : List (Route σ)}
  {clock : σ → Int} {ctx : Context} {message : Message} {t : Nat} {d : Deck σ}

/-- How many providers one attempt can go through. -/
def reach (c : DeliverySettings) : Nat :=
  match c.strategy with
  | .fixed | .roundRobin => c.providers.length
  | .timeout => 1

/-- How often a send can contact providers. -/
def mostContacts (c : DeliverySettings) : Nat := (c.retry.maxRetries.toNat + 1) * c.reach

/-- The policies behind the gate. -/
def behind (c : DeliverySettings) (slot : Nat) (providers : List (Route σ)) : Route σ :=
  c.retried (c.combined slot providers)

section
variable {p : Happening → Bool} {m : Nat}

theorem combined_atMost (hlen : providers.length = c.providers.length)
    (h : ∀ route ∈ providers, ∀ place message, AtMost p m (route.journal clock place ctx message))
    (place : List Nat) (message : Message) :
    AtMost p (c.reach * m) ((c.combined slot providers).journal clock place ctx message) := by
  have hjournals : ∀ narrator ∈ Route.journals clock place 0 providers, ∀ message,
      AtMost p m (narrator ctx message) := by
    intro narrator hm
    obtain ⟨route, hroute, inRoute, rfl⟩ := Route.mem_journals hm
    exact h route hroute inRoute
  have hcount : (Route.journals clock place 0 providers).length = c.providers.length :=
    (Route.length_journals ..).trans hlen
  unfold combined reach
  cases c.strategy with
  | fixed => exact hcount ▸ AtMost.failover hjournals message
  | roundRobin => exact hcount ▸ AtMost.rotating hjournals slot message
  | timeout => exact (Nat.one_mul m).symm ▸ AtMost.sticky hjournals slot _ message

theorem behind_atMost (hp : Outward p) (hlen : providers.length = c.providers.length)
    (h : ∀ route ∈ providers, ∀ place message, AtMost p m (route.journal clock place ctx message))
    (place : List Nat) (message : Message) :
    AtMost p (c.mostContacts * m) ((c.behind slot providers).journal clock place ctx message) := by
  have hcombined : ∀ message,
      AtMost p (c.reach * m) ((c.combined slot providers).journal clock place ctx message) :=
    combined_atMost hlen h place
  rw [mostContacts, Nat.mul_assoc]
  unfold behind retried
  split
  · next hzero =>
    rw [hzero]
    exact (Nat.one_mul (c.reach * m)).symm ▸ hcombined message
  · exact AtMost.retry hp hcombined place _ _ message

end

/-! ### A deadline that has come -/

theorem combined_expired (hne : providers ≠ []) (hs : c.strategy ≠ .timeout) (h : ctx.isExpired t = true)
    (place : List Nat) (message : Message) (d : Deck σ) :
    let a := (c.combined slot providers).journal clock place ctx message t d
    a.entries = [] ∧ a.finish.value = .error .cancelled := by
  have hjournals : Route.journals clock place 0 providers ≠ [] := by
    rw [← List.length_pos_iff, Route.length_journals]
    exact List.length_pos_iff.mpr hne
  unfold combined
  cases hstrategy : c.strategy with
  | fixed =>
    have hgone := Narrator.failover_expired hjournals h message d
    exact ⟨congrArg Account.entries hgone, congrArg (·.finish.value) hgone⟩
  | roundRobin =>
    have hgone := Narrator.rotating_expired hjournals h slot message d
    exact ⟨congrArg Account.entries hgone, congrArg (·.finish.value) hgone⟩
  | timeout => exact absurd hstrategy hs

theorem combined_expired_le (hlen : providers.length = c.providers.length) (hne : providers ≠ [])
    (hproviders : ∀ route ∈ providers, ∀ place message, AtMost isContact 1 (route.journal clock place ctx message))
    (h : ctx.isExpired t = true) (place : List Nat) (message : Message) (d : Deck σ) :
    Happening.count isContact ((c.combined slot providers).journal clock place ctx message t d).entries ≤ 1 := by
  by_cases hs : c.strategy = .timeout
  · have hreach : c.reach = 1 := by rw [reach, hs]
    rw [← hreach, ← Nat.mul_one c.reach]
    exact combined_atMost hlen hproviders place message t d
  · rw [(combined_expired hne hs h place message d).1]
    exact Nat.zero_le 1

/-- Once the deadline has come, at most the provider in use is contacted, and none is under a strategy
    that has no provider in use. -/
theorem behind_expired (hlen : providers.length = c.providers.length) (hne : providers ≠ [])
    (hproviders : ∀ route ∈ providers, ∀ place message, AtMost isContact 1 (route.journal clock place ctx message))
    (h : ctx.isExpired t = true) (place : List Nat) (message : Message) (d : Deck σ) :
    let a := (c.behind slot providers).journal clock place ctx message t d
    Happening.count isContact a.entries ≤ 1 ∧
      (c.strategy ≠ .timeout → Happening.count isContact a.entries = 0 ∧ a.finish.value = .error .cancelled) := by
  have hinner : Happening.count isContact
      ((c.combined slot providers).journal clock place ctx message t d).entries ≤ 1 :=
    combined_expired_le hlen hne hproviders h place message d
  have hgone : c.strategy ≠ .timeout →
      ((c.combined slot providers).journal clock place ctx message t d).entries = [] ∧
        ((c.combined slot providers).journal clock place ctx message t d).finish.value = .error .cancelled :=
    fun hs => combined_expired hne hs h place message d
  have hover : ctx.isExpired ((c.combined slot providers).journal clock place ctx message t d).finish.time = true := by
    rw [Route.narrates clock place (c.combined slot providers) ctx message t d]
    exact Context.isExpired_of_le h (Task.le_run_time ..)
  unfold behind retried
  split
  · refine ⟨hinner, fun hs => ?_⟩
    obtain ⟨hentries, hvalue⟩ := hgone hs
    exact ⟨congrArg (Happening.count isContact) hentries, hvalue⟩
  · unfold Route.journal
    refine ⟨?_, fun hs => ?_⟩
    · rw [Narrator.retry_expired hover Happening.isContact_outward]
      exact hinner
    · obtain ⟨hentries, hvalue⟩ := hgone hs
      rw [Narrator.retry_cancelled hvalue]
      exact ⟨congrArg (Happening.count isContact) hentries, hvalue⟩

/-- What is behind the gate consults no limiter and contacts providers no more than the settings allow;
    once the deadline has come, at most the one in use, under the timeout strategy only. -/
structure Bounded (c : DeliverySettings) (ctx : Context) (inner : Narrator σ) : Prop where
  quiet : ∀ m, AtMost isConsultation 0 (inner ctx m)
  contacts : ∀ m, AtMost isContact c.mostContacts (inner ctx m)
  late : ∀ m t d, ctx.isExpired t = true → Happening.count isContact (inner ctx m t d).entries ≤ 1 ∧
    (c.strategy ≠ .timeout → Happening.count isContact (inner ctx m t d).entries = 0 ∧
      (inner ctx m t d).finish.value = .error .cancelled)

theorem behind_bounded (hlen : providers.length = c.providers.length) (hne : providers ≠ [])
    (hproviders : ∀ route ∈ providers, ∃ name sender, route = .provider name sender) :
    Bounded c ctx ((c.behind slot providers).journal clock []) := by
  have hcontact : ∀ route ∈ providers, ∀ place message,
      AtMost isContact 1 (route.journal clock place ctx message) := by
    intro route hm place message
    obtain ⟨name, sender, rfl⟩ := hproviders route hm
    exact AtMost.contact place sender ctx message
  have hquiet : ∀ route ∈ providers, ∀ place message,
      AtMost isConsultation 0 (route.journal clock place ctx message) := by
    intro route hm place message
    obtain ⟨name, sender, rfl⟩ := hproviders route hm
    exact AtMost.noConsultation place sender ctx message
  refine ⟨behind_atMost Happening.isConsultation_outward hlen hquiet [], fun m => ?_, fun m t d h => ?_⟩
  · rw [← Nat.mul_one c.mostContacts]
    exact behind_atMost Happening.isContact_outward hlen hcontact [] m
  · exact behind_expired hlen hne hcontact h [] m d

end DeliverySettings

end Passcode
