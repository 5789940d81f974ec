/-
  Passcode.Proofs.Dispatch.Recovery — how a repeated send gets to a provider that works.

  Each provider of a list either works or times out, at every attempt. A send goes to the provider in use and
  is repeated while that times out. Each timeout counts, and as many as the threshold bring the next
  provider into use; so the attempts go round the list in turns as long as the threshold. The first turn is
  shorter by the timeouts that earlier sends left behind.

  Proved: the streak that timeouts lead to, in closed form (`Streak.after_timeout`); what one attempt does
  (`attempt_late`, `attempt_works`); so how a send goes whose attempts all time out (`late_throughout`) or
  that comes to a provider that works (`gets_through`), and which of the two it is
  (`healthy_provider_reached`).
-/

import Mathlib.Data.Nat.Find
import Passcode.Proofs.Dispatch.Hopeless
import Passcode.Proofs.Dispatch.Traffic

namespace Passcode

variable {σ : Type}

/-! ## Counting timeouts -/

namespace Streak

/-- The streak that `p` timeouts in a row lead to when the first is of provider `i`, just come into use. -/
def after (count threshold i p : Nat) : Streak := ⟨(i + p / threshold) % count, p % threshold⟩

variable {count threshold i p : Nat} {s : Streak}

theorem after_self (hactive : s.active < count) (htimeouts : s.timeouts < threshold) :
    after count threshold s.active s.timeouts = s := by
  rw [after, Nat.div_eq_of_lt htimeouts, Nat.add_zero, Nat.mod_eq_of_lt hactive, Nat.mod_eq_of_lt htimeouts]

theorem after_pick (hcount : 0 < count) :
    (after count threshold i p).pick count = (after count threshold i p).active :=
  Nat.mod_eq_of_lt (Nat.mod_lt _ hcount)

/-- One timeout more of the provider in use. -/
theorem after_timeout (ht : 0 < threshold) :
    ((after count threshold i p).timeout (after count threshold i p).active threshold count).2 =
      after count threshold i (p + 1) := by
  have hlt : p % threshold < threshold := Nat.mod_lt p ht
  have hparts : p + 1 = threshold * (p / threshold) + (p % threshold + 1) := by
    rw [← Nat.add_assoc, Nat.div_add_mod]
  rw [timeout, if_neg (not_not_intro rfl)]
  by_cases hroom : p % threshold + 1 < threshold
  · have hdiv : (p + 1) / threshold = p / threshold := by
      rw [hparts, Nat.mul_add_div ht, Nat.div_eq_of_lt hroom, Nat.add_zero]
    have hmod : (p + 1) % threshold = p % threshold + 1 := by
      rw [hparts, Nat.mul_add_mod, Nat.mod_eq_of_lt hroom]
    rw [if_pos (show (after count threshold i p).timeouts + 1 < threshold from hroom)]
    simp only [after, hdiv, hmod]
  · have hfull : p % threshold + 1 = threshold := by omega
    have hdiv : (p + 1) / threshold = p / threshold + 1 := by
      rw [hparts, hfull, Nat.mul_add_div ht, Nat.div_self ht]
    have hmod : (p + 1) % threshold = 0 := by
      rw [hparts, hfull, Nat.mul_add_mod, Nat.mod_self]
    rw [if_neg (show ¬ (after count threshold i p).timeouts + 1 < threshold from hroom)]
    simp only [after, hdiv, hmod, Nat.mod_add_mod, Nat.add_assoc]

end Streak

/-! ## One attempt -/

namespace Sender

/-- The sender delivers a message whenever it is asked to, if it is given the time. -/
def Works (sender : Sender σ) (message : Message) : Prop :=
  ∀ t s, ((sender .unbounded message).run t s).value = .ok ()

/-- Each time that it is asked to, the sender answers with a timeout of its own. -/
def TimesOut (sender : Sender σ) (message : Message) : Prop :=
  ∀ t s, ∃ name, ((sender .unbounded message).run t s).value = .error (.providerTimeout name)

end Sender

/-- The attempt that is made after `p` timeouts since provider `i` came into use goes to a sender of a kind. -/
def Meets (senders : List (Sender σ)) (threshold i : Nat) (kind : Sender σ → Prop) (p : Nat) : Prop :=
  ∃ sender, senders[(Streak.after senders.length threshold i p).active]? = some sender ∧ kind sender

/-- A send through the one of some providers that is in use; each is known by its place. -/
def Narrator.throughActive (slot threshold : Nat) (senders : List (Sender σ)) : Narrator σ :=
  sticky slot threshold (senders.mapIdx fun k => provider [k])

theorem Route.journal_sticky (clock : σ → Int) (slot threshold : Nat) (providers : List (String × Sender σ)) :
    journal clock [] (.sticky slot threshold (providers.map fun p => .provider p.1 p.2)) =
      .throughActive slot threshold (providers.map Prod.snd) := by
  have hjournals : journals clock [] 0 (providers.map fun p => .provider p.1 p.2) =
      (providers.map Prod.snd).mapIdx fun k => .provider [k] := by
    apply List.ext_getElem?
    intro k
    rw [getElem?_journals, List.getElem?_mapIdx, List.getElem?_map, List.getElem?_map, Option.map_map, Option.map_map]
    cases providers[k]? with
    | none => rfl
    | some p => exact congrArg (fun place => some (Narrator.provider [place] p.2)) (Nat.zero_add k)
  rw [journal, hjournals, Narrator.throughActive]

/-- How a send ended that took some attempts, the first of them after `p` timeouts since provider `i` came into
    use. -/
structure Toured (count threshold slot i p attempts : Nat) (left : Streak) (a : Account σ Delivery) : Prop where
  visited : contacts a.entries =
    (List.range attempts).map fun j => [(Streak.after count threshold i (p + j)).active]
  left : a.finish.state.streak slot = left

namespace Toured

variable {count threshold slot i p attempts : Nat} {left middle : Streak} {a b : Account σ Delivery}

theorem cons (ha : Toured count threshold slot i p 1 middle a)
    (hb : Toured count threshold slot i (p + 1) attempts left b) (t delay : Nat) (d : Deck σ) (place : List Nat) :
    Toured count threshold slot i p (attempts + 1) left
      ⟨a.entries ++ ⟨t, d, .waited place delay⟩ :: b.entries, b.finish⟩ where
  visited := by
    have hrest : contacts (a.entries ++ ⟨t, d, .waited place delay⟩ :: b.entries) =
        contacts a.entries ++ contacts b.entries := contacts_append
    have hnext : ∀ j, p + 1 + j = p + (j + 1) := by omega
    simp only [hrest, ha.visited, hb.visited, hnext, List.range_succ_eq_map (n := attempts), List.map_cons, List.map_map]
    rfl
  left := hb.left

end Toured

section
variable {senders : List (Sender σ)} {sender : Sender σ} {message : Message} {slot threshold i p t : Nat} {d : Deck σ}

/-- The attempt is made through the provider in use, which is told how it went. -/
theorem attempt_account (ht : 0 < threshold) (hstreak : d.streak slot = .after senders.length threshold i p)
    (hsender : senders[(Streak.after senders.length threshold i p).active]? = some sender) :
    let e := (sender .unbounded message).run t d.outer
    let index := (Streak.after senders.length threshold i p).active
    let d' : Deck σ := { d with outer := e.state }
    Narrator.throughActive slot threshold senders .unbounded message t d =
      ⟨[⟨t, d, .contacted [index]⟩, ⟨e.time, d', .answered [index] e.value⟩], e.time,
        (d'.hear slot index threshold senders.length e.value).2, e.value⟩ := by
  intro e index d'
  have hcount : 0 < senders.length := Nat.zero_lt_of_lt (List.getElem?_eq_some_iff.mp hsender).1
  have hpick : (d.streak slot).pick (senders.mapIdx fun k => Narrator.provider [k]).length = index := by
    rw [hstreak, List.length_mapIdx, Streak.after_pick hcount]
  have hnarrator : (senders.mapIdx fun k => Narrator.provider [k])[index]? = some (.provider [index] sender) := by
    rw [List.getElem?_mapIdx, hsender]
    rfl
  have hanswer : (Deck.lift (sender .unbounded message)).run t d = ⟨e.time, d', e.value⟩ := Deck.run_lift ..
  have hmax : max threshold 1 = threshold := by omega
  rw [Narrator.throughActive, Narrator.sticky_contact hpick hnarrator hanswer threshold, hmax, List.length_mapIdx]

theorem attempt_late (ht : 0 < threshold) (hstreak : d.streak slot = .after senders.length threshold i p)
    (hlate : Meets senders threshold i (·.TimesOut message) p) (t : Nat) :
    let a := Narrator.throughActive slot threshold senders .unbounded message t d
    (∃ name, a.finish.value = .error (.providerTimeout name)) ∧
      Toured senders.length threshold slot i p 1 (.after senders.length threshold i (p + 1)) a := by
  intro a
  obtain ⟨sender, hsender, late⟩ := hlate
  obtain ⟨name, hvalue⟩ := late t d.outer
  have ha : a = _ := attempt_account ht hstreak hsender
  rw [hvalue] at ha
  rw [ha]
  refine ⟨⟨name, rfl⟩, rfl, ?_⟩
  refine (Deck.hear_timeout _ slot _ threshold senders.length rfl).2.trans ?_
  exact (congrArg (fun s : Streak => (s.timeout _ threshold senders.length).2) hstreak).trans (Streak.after_timeout ht)

theorem attempt_works (ht : 0 < threshold) (hstreak : d.streak slot = .after senders.length threshold i p)
    (hworks : Meets senders threshold i (·.Works message) p) (t : Nat) :
    let a := Narrator.throughActive slot threshold senders .unbounded message t d
    a.finish.value = .ok () ∧
      Toured senders.length threshold slot i p 1 ⟨(Streak.after senders.length threshold i p).active, 0⟩ a := by
  intro a
  obtain ⟨sender, hsender, works⟩ := hworks
  have ha : a = _ := attempt_account ht hstreak hsender
  rw [works t d.outer] at ha
  rw [ha]
  refine ⟨rfl, rfl, ?_⟩
  refine (Deck.streak_setStreak ..).trans ?_
  exact (congrArg (fun s : Streak => s.success _) hstreak).trans (if_pos rfl)

end

/-! ## Repeated attempts -/

section
variable {senders : List (Sender σ)} {message : Message} {slot threshold i : Nat}

/-- A timeout is followed by a wait and by what is left of the repetitions. -/
theorem retry_late (ht : 0 < threshold) {p : Nat} {d : Deck σ}
    (hstreak : d.streak slot = .after senders.length threshold i p)
    (hlate : Meets senders threshold i (·.TimesOut message) p) (retries delay t : Nat) :
    ∃ a t' d', Toured senders.length threshold slot i p 1 (.after senders.length threshold i (p + 1)) a ∧
      d'.streak slot = .after senders.length threshold i (p + 1) ∧
      let b := Narrator.retry [] (.throughActive slot threshold senders) retries (delay * 2) .unbounded message t' d'
      Narrator.retry [] (.throughActive slot threshold senders) (retries + 1) delay .unbounded message t d =
        ⟨a.entries ++ ⟨t', d', .waited [] delay⟩ :: b.entries, b.finish⟩ := by
  obtain ⟨⟨name, hvalue⟩, htoured⟩ := attempt_late ht hstreak hlate t
  refine ⟨_, (Narrator.throughActive slot threshold senders .unbounded message t d).finish.time + delay, _, htoured,
    htoured.left, ?_⟩
  rw [Narrator.retry_account, hvalue, Narrator.again_retryable rfl]
  rfl

/-- All attempts time out. -/
theorem late_throughout (ht : 0 < threshold) (retries delay t : Nat) {p : Nat} {d : Deck σ}
    (hstreak : d.streak slot = .after senders.length threshold i p)
    (hlate : ∀ m ≤ retries, Meets senders threshold i (·.TimesOut message) (p + m)) :
    let a := Narrator.retry [] (.throughActive slot threshold senders) retries delay .unbounded message t d
    (∃ name, a.finish.value = .error (.providerTimeout name)) ∧
      Toured senders.length threshold slot i p (retries + 1) (.after senders.length threshold i (p + retries + 1)) a := by
  induction retries generalizing delay t p d with
  | zero => exact attempt_late ht hstreak (hlate 0 (Nat.le_refl 0)) t
  | succ retries ih =>
    -- what is left is a send that has one timeout more behind it
    obtain ⟨first, t', d', hfirst, hstreak', ha⟩ := retry_late ht hstreak (hlate 0 (Nat.zero_le _)) retries delay t
    have hnext : ∀ m, p + 1 + m = p + (m + 1) := by omega
    obtain ⟨hvalue, hrest⟩ := ih (delay * 2) t' hstreak' fun m hm => hnext m ▸ hlate (m + 1) (Nat.succ_le_succ hm)
    rw [hnext retries] at hrest
    rw [ha]
    exact ⟨hvalue, hfirst.cons hrest ..⟩

/-- After some timeouts an attempt gets through, while repetitions are left. -/
theorem gets_through (ht : 0 < threshold) {late retries : Nat} (hretries : late ≤ retries) (delay t : Nat) {p : Nat}
    {d : Deck σ} (hstreak : d.streak slot = .after senders.length threshold i p)
    (hlate : ∀ m < late, Meets senders threshold i (·.TimesOut message) (p + m))
    (hworks : Meets senders threshold i (·.Works message) (p + late)) :
    let a := Narrator.retry [] (.throughActive slot threshold senders) retries delay .unbounded message t d
    a.finish.value = .ok () ∧ Toured senders.length threshold slot i p (late + 1)
      ⟨(Streak.after senders.length threshold i (p + late)).active, 0⟩ a := by
  induction late generalizing retries delay t p d with
  | zero =>
    have hattempt := attempt_works ht hstreak hworks t
    have hover : ∀ fault, (Narrator.throughActive slot threshold senders .unbounded message t d).finish.value =
        .error fault → fault.isRetryable = false := fun fault hfault => by cases hattempt.1.symm.trans hfault
    rw [Narrator.retry_over hover]
    exact hattempt
  | succ late ih =>
    obtain ⟨retries, rfl⟩ : ∃ n, retries = n + 1 := ⟨retries - 1, by omega⟩
    obtain ⟨first, t', d', hfirst, hstreak', ha⟩ := retry_late ht hstreak (hlate 0 (Nat.succ_pos _)) retries delay t
    have hnext : ∀ m, p + 1 + m = p + (m + 1) := by omega
    obtain ⟨hvalue, hrest⟩ := ih (Nat.succ_le_succ_iff.mp hretries) (delay * 2) t' hstreak'
      (fun m hm => hnext m ▸ hlate (m + 1) (Nat.succ_lt_succ hm)) (hnext late ▸ hworks)
    rw [hnext late] at hrest
    rw [ha]
    exact ⟨hvalue, hfirst.cons hrest ..⟩

end

/-! ## The first provider that works -/

/-- Going round the list, the provider at a position works. -/
def WorksAt (senders : List (Sender σ)) (message : Message) (j : Nat) : Prop :=
  ∃ sender, senders[j % senders.length]? = some sender ∧ sender.Works message

/-- The first provider that works, from the `i`-th on, is `k` positions further on. -/
structure FirstWorking (senders : List (Sender σ)) (message : Message) (i k : Nat) : Prop where
  works : WorksAt senders message (i + k)
  others : ∀ j < k, ¬ WorksAt senders message (i + j)

section
variable {senders : List (Sender σ)} {message : Message} {slot threshold i c : Nat} {d : Deck σ}

theorem exists_firstWorking {j : Nat} (h : WorksAt senders message (i + j)) :
    ∃ k ≤ j, FirstWorking senders message i k := by
  classical
  have hsome : ∃ k, WorksAt senders message (i + k) := ⟨j, h⟩
  exact ⟨Nat.find hsome, Nat.find_min' hsome h, Nat.find_spec hsome, fun _ hk => Nat.find_min hsome hk⟩

/-- A provider that does not work times out. -/
theorem meets_late (hsome : senders ≠ []) (steady : ∀ sender ∈ senders, sender.Works message ∨ sender.TimesOut message)
    {p : Nat} (h : ¬ WorksAt senders message (i + p / threshold)) :
    Meets senders threshold i (·.TimesOut message) p := by
  have hactive : (Streak.after senders.length threshold i p).active < senders.length :=
    Nat.mod_lt _ (List.length_pos_iff.mpr hsome)
  have hsender := List.getElem?_eq_getElem hactive
  refine ⟨_, hsender, (steady _ (List.getElem_mem hactive)).resolve_left fun hworks => ?_⟩
  exact h ⟨_, hsender, hworks⟩

/-- How many timeouts come before the turn of the provider `k` positions on. -/
theorem timeouts_before {k retries : Nat} (hc : c < threshold) (hk : k = 0 ∨ k * threshold ≤ retries + c) :
    ∃ late ≤ retries, (if k = 0 then 1 else k * threshold - c + 1) = late + 1 ∧ (c + late) / threshold = k ∧
      ∀ m < late, (c + m) / threshold < k := by
  have ht : 0 < threshold := by omega
  by_cases hzero : k = 0
  · subst hzero
    exact ⟨0, Nat.zero_le _, if_pos rfl, Nat.div_eq_of_lt hc, nofun⟩
  · have hmost := hk.resolve_left hzero
    have hleast : threshold ≤ k * threshold := Nat.le_mul_of_pos_left _ (Nat.pos_of_ne_zero hzero)
    have hturn : c + (k * threshold - c) = k * threshold := by omega
    refine ⟨k * threshold - c, by omega, if_neg hzero, ?_, fun m hm => ?_⟩
    · rw [hturn, Nat.mul_div_cancel _ ht]
    · exact (Nat.div_lt_iff_lt_mul ht).mpr (by omega)

/-- The turn of the first provider that works comes before the repetitions are spent. -/
theorem reaches_working (hsome : senders ≠ [])
    (steady : ∀ sender ∈ senders, sender.Works message ∨ sender.TimesOut message)
    (hstreak : d.streak slot = .after senders.length threshold i c) (hc : c < threshold) {k retries : Nat}
    (hfirst : FirstWorking senders message i k) (hk : k = 0 ∨ k * threshold ≤ retries + c) (delay t : Nat) :
    let a := Narrator.retry [] (.throughActive slot threshold senders) retries delay .unbounded message t d
    a.finish.value = .ok () ∧ Toured senders.length threshold slot i c
      (if k = 0 then 1 else k * threshold - c + 1) ⟨(i + k) % senders.length, 0⟩ a := by
  obtain ⟨late, hle, hattempts, hturn, hbefore⟩ := timeouts_before hc hk
  have hworks : Meets senders threshold i (·.Works message) (c + late) := by
    show WorksAt senders message (i + (c + late) / threshold)
    rw [hturn]
    exact hfirst.works
  have hplace : (Streak.after senders.length threshold i (c + late)).active = (i + k) % senders.length := by
    rw [Streak.after, hturn]
  rw [hattempts, ← hplace]
  exact gets_through (by omega) hle delay t hstreak
    (fun m hm => meets_late hsome steady (hfirst.others _ (hbefore m hm))) hworks

/-- No provider that works has its turn. -/
theorem reaches_none (hsome : senders ≠ [])
    (steady : ∀ sender ∈ senders, sender.Works message ∨ sender.TimesOut message)
    (hstreak : d.streak slot = .after senders.length threshold i c) (ht : 0 < threshold) {retries : Nat}
    (hfar : ∀ k, FirstWorking senders message i k → k ≠ 0 ∧ retries + c < k * threshold) (delay t : Nat) :
    let a := Narrator.retry [] (.throughActive slot threshold senders) retries delay .unbounded message t d
    (∃ name, a.finish.value = .error (.providerTimeout name)) ∧ Toured senders.length threshold slot i c
      (retries + 1) (.after senders.length threshold i (c + retries + 1)) a := by
  refine late_throughout ht retries delay t hstreak fun m hm => meets_late hsome steady fun hworks => ?_
  obtain ⟨k, hk, hfirst⟩ := exists_firstWorking hworks
  have hreached : k * threshold ≤ c + m := (Nat.le_div_iff_mul_le ht).mp hk
  have hbeyond := (hfar k hfirst).2
  omega

end

/-- In a list of providers of which each works or times out, at every attempt: a send that is repeated up to `retries`
    times, without a deadline, goes round the list from wherever earlier sends left the streak, through each provider
    as often as the threshold says, and through the one in use as often as its streak has room. If that brings the
    first provider that works into use before the repetitions are spent, the message gets there, with no attempt
    more; and else every attempt times out. The providers may have answered anything in earlier sends, however
    these overlapped. -/
theorem healthy_provider_reached (past : Sticky σ) (hp : past.providers ≠ []) (ht : 1 ≤ past.threshold) (d₀ : Deck σ)
    (fresh : d₀.streak past.slot = {}) (turns : List Turn) (providers : List (String × Sender σ))
    (same : providers.length = past.providers.length) (message : Message)
    (steady : ∀ p ∈ providers, p.2.Works message ∨ p.2.TimesOut message) (clock : σ → Int) (retries delay t : Nat) :
    let d := (past.run { deck := d₀ } turns).deck
    let s := d.streak past.slot
    let n := providers.length
    let h := past.threshold
    let route : Route σ := .retry retries delay (.sticky past.slot h (providers.map fun p => .provider p.1 p.2))
    let entries := (route.journal clock [] .unbounded message t d).entries
    let e := (route.send clock .unbounded message).run t d
    (∀ k, FirstWorking (providers.map Prod.snd) message s.active k → k = 0 ∨ k * h ≤ retries + s.timeouts →
      e.value = .ok () ∧ Toured n h past.slot s.active s.timeouts (if k = 0 then 1 else k * h - s.timeouts + 1)
        ⟨(s.active + k) % n, 0⟩ ⟨entries, e⟩) ∧
    ((∀ k, FirstWorking (providers.map Prod.snd) message s.active k → k ≠ 0 ∧ retries + s.timeouts < k * h) →
      (∃ name, e.value = .error (.providerTimeout name)) ∧ Toured n h past.slot s.active s.timeouts (retries + 1)
        ⟨(s.active + (s.timeouts + retries + 1) / h) % n, (s.timeouts + retries + 1) % h⟩ ⟨entries, e⟩) := by
  intro d s n h route entries e
  have hthreshold : max past.threshold 1 = h := Nat.max_eq_left ht
  have hn : (providers.map Prod.snd).length = n := List.length_map ..
  have hcount : (providers.map Prod.snd).length = past.providers.length := hn.trans same
  obtain ⟨hactive, htimeouts, -, -⟩ := past.run_follows (x := { deck := d₀ }) hp (past.fresh_follows hp d₀ fresh) turns
  rw [hthreshold] at htimeouts
  rw [← hcount] at hactive
  have hstreak : d.streak past.slot = .after (providers.map Prod.snd).length h s.active s.timeouts :=
    (Streak.after_self hactive htimeouts).symm
  have hsome : providers.map Prod.snd ≠ [] := List.ne_nil_of_length_pos (Nat.zero_lt_of_lt hactive)
  have hsteady : ∀ sender ∈ providers.map Prod.snd, sender.Works message ∨ sender.TimesOut message :=
    List.forall_mem_map.mpr steady
  have haccount : (⟨entries, e⟩ : Account σ Delivery) = Narrator.retry [] (.throughActive past.slot h
      (providers.map Prod.snd)) retries delay .unbounded message t d := by
    rw [← Route.journal_sticky clock]
    exact congrArg (Account.mk entries) (Route.journal_finish clock route .unbounded message t d).symm
  have hvalue := congrArg (fun a : Account σ Delivery => a.finish.value) haccount
  rw [haccount, hvalue, ← hn]
  exact ⟨fun k hfirst hk => reaches_working hsome hsteady hstreak htimeouts hfirst hk delay t,
    fun hfar => reaches_none hsome hsteady hstreak ht hfar delay t⟩

/-- Two providers that time out, and one that works. -/
def limpingProviders : List (String × Sender Unit) := [
  ("first", fun _ _ => return .error (.providerTimeout "first")),
  ("second", fun _ _ => return .error (.providerTimeout "second")),
  ("third", fun _ _ => return .ok ())]

def limping : Sticky Unit := ⟨0, 2, limpingProviders.map Prod.snd⟩

def limpingMessage : Message := ⟨"verify_code", [], ["+4915112345678"]⟩

/-- The first provider has timed out once before, so three repetitions are enough. -/
theorem healthy_provider_reached_sample :
    limping.providers ≠ [] ∧ 1 ≤ limping.threshold ∧
    (∀ p ∈ limpingProviders, p.2.Works limpingMessage ∨ p.2.TimesOut limpingMessage) ∧
    let d := (limping.run { deck := { outer := () } } [.start .unbounded limpingMessage, .move 0 10]).deck
    let route : Route Unit := .retry 3 100 (.sticky 0 2 (limpingProviders.map fun p => .provider p.1 p.2))
    let e := (route.send (fun _ => 0) .unbounded limpingMessage).run 20 d
    d.streak 0 = ⟨0, 1⟩ ∧
      contacts (route.journal (fun _ => 0) [] .unbounded limpingMessage 20 d).entries = [[0], [1], [1], [2]] ∧
      e.value = .ok () ∧ e.state.streak 0 = ⟨2, 0⟩ := by
  have hp : limping.providers ≠ [] := List.cons_ne_nil _ _
  have hsteady : ∀ p ∈ limpingProviders, p.2.Works limpingMessage ∨ p.2.TimesOut limpingMessage := by
    refine List.forall_mem_cons.mpr ⟨Or.inr fun _ _ => ⟨_, rfl⟩, ?_⟩
    refine List.forall_mem_cons.mpr ⟨Or.inr fun _ _ => ⟨_, rfl⟩, ?_⟩
    exact List.forall_mem_singleton.mpr (Or.inl fun _ _ => rfl)
  have hfirst : FirstWorking (limpingProviders.map Prod.snd) limpingMessage 0 2 := by
    refine ⟨⟨_, rfl, fun _ _ => rfl⟩, fun j hj => ?_⟩
    rintro ⟨sender, hsender, hworks⟩
    obtain rfl | rfl : j = 0 ∨ j = 1 := by omega
    · cases hsender
      cases hworks 0 ()
    · cases hsender
      cases hworks 0 ()
  obtain ⟨hreached, -⟩ := healthy_provider_reached limping hp (by decide) { outer := () } rfl
    [.start .unbounded limpingMessage, .move 0 10] limpingProviders rfl limpingMessage hsteady (fun _ => 0) 3 100 20
  obtain ⟨hvalue, hvisited, hleft⟩ := hreached 2 hfirst (Or.inr (by decide))
  exact ⟨hp, by decide, hsteady, rfl, hvisited, hvalue, hleft⟩

end Passcode
