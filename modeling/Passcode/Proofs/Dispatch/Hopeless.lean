/-
  Passcode.Proofs.Dispatch.Hopeless — sends in which no provider gives an answer that may get better.

  A bad recipient is as bad at the next attempt, and the fault of a provider says so (`isRetryable`).
  But retries stand around the failover strategy and see the fault that comes out of it. A strategy with
  one provider in use passes the provider's own fault on, and the send is over. One that walks a list
  answers that all providers failed, whatever their faults were, and that may get better.

  Proved: how one walk goes (`walked`), and its repetitions (`repeated`); so where the strategy keeps to
  one provider, or no retries are asked for, a hopeless send contacts no provider twice and waits for
  nothing, and elsewhere each wait leads to one more walk through all providers, until the retries are
  spent or the deadline has come (`hopeless_walks_repeated`). One bad number is enough
  (`bad_recipient_retried`).
-/

import Mathlib.Data.List.Count
import Mathlib.Data.List.Defs
import Mathlib.Data.List.Nodup
import Passcode.Proofs.Dispatch.Gate

namespace Passcode

variable {σ : Type}

/-! ## What a send came to -/

namespace Happening

def contacted? : Happening → Option (List Nat)
  | contacted place => some place
  | _ => none

def waited? : Happening → Option Nat
  | waited _ delay => some delay
  | _ => none

def isCutOff : Happening → Bool
  | cutOff _ => true
  | _ => false

/-- Whether an answer leaves hope: the message is out, or another attempt may end differently. -/
def leavesHope : Happening → Bool
  | answered _ (.ok ()) => true
  | answered _ (.error fault) => fault.isRetryable
  | _ => false

theorem fault_of_hopeless {place : List Nat} {answer : Delivery} (h : (answered place answer).leavesHope = false) :
    ∃ fault, answer = .error fault ∧ fault.isRetryable = false := by
  rcases answer with fault | ⟨⟩
  · exact ⟨fault, rfl, h⟩
  · cases h

end Happening

/-- The places of the providers that were contacted, in order. -/
def contacts (entries : List (Entry σ)) : List (List Nat) := entries.filterMap fun e => e.what.contacted?

/-- The waits before repetitions, in milliseconds. -/
def delays (entries : List (Entry σ)) : List Nat := entries.filterMap fun e => e.what.waited?

/-- No deadline cut off a consultation or a wait. -/
def Uncut (entries : List (Entry σ)) : Prop := ∀ e ∈ entries, e.what.isCutOff = false

/-- Every provider that answered did so with a fault that another attempt would meet again. -/
def Hopeless (entries : List (Entry σ)) : Prop := ∀ e ∈ entries, e.what.leavesHope = false

instance (entries : List (Entry σ)) : Decidable (Hopeless entries) :=
  inferInstanceAs (Decidable (∀ e ∈ entries, e.what.leavesHope = false))

section
variable {first rest : List (Entry σ)}

@[simp] theorem contacts_append : contacts (first ++ rest) = contacts first ++ contacts rest :=
  List.filterMap_append ..

@[simp] theorem delays_append : delays (first ++ rest) = delays first ++ delays rest :=
  List.filterMap_append ..

theorem hopeless_append : Hopeless (first ++ rest) ↔ Hopeless first ∧ Hopeless rest := List.forall_mem_append

end

/-! ## One walk -/

/-- A provider in its place in the list. -/
def Narrator.ofTarget (target : Nat × Sender σ) : Narrator σ := Narrator.provider [target.1] target.2

/-- How a walk through providers went that gave hopeless answers; `attempts` is what the caller is told
    when none is left. -/
structure Walked (attempts : Nat) (targets : List Nat) (a : Account σ Delivery) : Prop where
  inOrder : contacts a.entries <+: targets.map ([·])
  unpaused : delays a.entries = []
  uncut : Uncut a.entries
  ends : a.finish.value = .error .cancelled ∨
    a.finish.value = .error (.allProvidersFailed attempts) ∧ contacts a.entries = targets.map ([·])

namespace Walked

variable {attempts i : Nat} {targets : List Nat} {a : Account σ Delivery}

/-- A walk that ends before anyone is contacted. -/
theorem cancelled (attempts : Nat) (targets : List Nat) (t : Nat) (d : Deck σ) :
    Walked attempts targets (⟨[], t, d, .error .cancelled⟩ : Account σ Delivery) :=
  ⟨List.nil_prefix, rfl, nofun, Or.inl rfl⟩

/-- A walk that goes on behind a provider. -/
theorem cons (h : Walked attempts targets a) (i t t' : Nat) (d d' : Deck σ) (answer : Delivery) :
    Walked attempts (i :: targets)
      ⟨⟨t, d, .contacted [i]⟩ :: ⟨t', d', .answered [i] answer⟩ :: a.entries, a.finish⟩ where
  inOrder := List.cons_prefix_cons.mpr ⟨rfl, h.inOrder⟩
  unpaused := h.unpaused
  uncut := List.forall_mem_cons.mpr ⟨rfl, List.forall_mem_cons.mpr ⟨rfl, h.uncut⟩⟩
  ends := h.ends.imp_right fun ⟨hvalue, hall⟩ => ⟨hvalue, congrArg ([i] :: ·) hall⟩

end Walked

section
variable {ctx : Context} {message : Message} {t t' : Nat} {d d' : Deck σ} {answer : Delivery}

/-- What a walk does with an answer. -/
def Narrator.onward (attempts : Nat) (rest : List (Narrator σ)) (ctx : Context) (message : Message) :
    Delivery → Teller σ Delivery
  | .ok () => return .ok ()
  | .error .cancelled => return .error .cancelled
  | .error _ => tryEach attempts rest ctx message

theorem Narrator.tryEach_contact (h : ctx.isExpired t = false) (target : Nat × Sender σ)
    (hanswer : (Deck.lift (target.2 ctx message)).run t d = ⟨t', d', answer⟩) (attempts : Nat)
    (rest : List (Narrator σ)) :
    let b := onward attempts rest ctx message answer t' d'
    tryEach attempts (ofTarget target :: rest) ctx message t d =
      ⟨⟨t, d, .contacted [target.1]⟩ :: ⟨t', d', .answered [target.1] answer⟩ :: b.entries, b.finish⟩ := by
  unfold tryEach
  rw [Teller.now_bind, if_neg (Bool.eq_false_iff.mp h)]
  show (let e := (Deck.lift (target.2 ctx message)).run t d
    let b := onward attempts rest ctx message e.value e.time e.state
    (⟨⟨t, d, .contacted [target.1]⟩ :: ⟨e.time, e.state, .answered [target.1] e.value⟩ :: b.entries, b.finish⟩ :
      Account σ Delivery)) = _
  rw [hanswer]

theorem walked (attempts : Nat) (targets : List (Nat × Sender σ)) (t : Nat) (d : Deck σ)
    (h : Hopeless (Narrator.tryEach attempts (targets.map .ofTarget) ctx message t d).entries) :
    Walked attempts (targets.map Prod.fst)
      (Narrator.tryEach attempts (targets.map .ofTarget) ctx message t d) := by
  induction targets generalizing t d with
  | nil => exact ⟨List.nil_prefix, rfl, nofun, Or.inr ⟨rfl, rfl⟩⟩
  | cons target rest ih =>
    simp only [List.map_cons] at h ⊢
    by_cases hexpired : ctx.isExpired t = true
    · rw [Narrator.tryEach_expired (List.cons_ne_nil _ _) hexpired]
      exact .cancelled ..
    · obtain ⟨t', d', answer, hanswer⟩ : ∃ t' d' answer,
        (Deck.lift (target.2 ctx message)).run t d = ⟨t', d', answer⟩ := ⟨_, _, _, rfl⟩
      rw [Narrator.tryEach_contact (Bool.eq_false_iff.mpr hexpired) target hanswer] at h ⊢
      have hheard := h _ (List.mem_cons_of_mem _ (List.mem_cons_self ..))
      obtain ⟨fault, rfl, -⟩ := Happening.fault_of_hopeless hheard
      have hrest : Hopeless (Narrator.onward attempts (rest.map .ofTarget) ctx message (.error fault) t' d').entries :=
        fun e he => h e (List.mem_cons_of_mem _ (List.mem_cons_of_mem _ he))
      refine Walked.cons ?_ ..
      cases fault with
      | cancelled => exact .cancelled ..
      | _ => exact ih t' d' hrest

end

/-! ## Attempts -/

/-- An attempt of a strategy that walks through `n` providers, from any of them on. -/
def Attempted (n : Nat) (a : Account σ Delivery) : Prop :=
  ∃ targets, targets.Perm (List.range n) ∧ Walked n targets a

/-- An attempt of the strategy that has one of `n` providers in use. -/
structure Relayed (n : Nat) (a : Account σ Delivery) : Prop where
  one : ∃ i < n, contacts a.entries = [[i]]
  unpaused : delays a.entries = []
  uncut : Uncut a.entries
  told : ∃ e ∈ a.entries, ∃ place, e.what = .answered place a.finish.value
  hopeless : ∃ fault, a.finish.value = .error fault ∧ fault.isRetryable = false

theorem Route.journals_of_providers (clock : σ → Int) {providers : List (Route σ)}
    (h : ∀ route ∈ providers, ∃ name sender, route = .provider name sender) (i : Nat) :
    ∃ targets : List (Nat × Sender σ), targets.map Prod.fst = List.range' i providers.length ∧
      journals clock [] i providers = targets.map .ofTarget := by
  induction providers generalizing i with
  | nil => exact ⟨[], rfl, rfl⟩
  | cons route rest ih =>
    obtain ⟨name, sender, rfl⟩ := h route (List.mem_cons_self ..)
    obtain ⟨targets, hplaces, hrest⟩ := ih (fun route hm => h route (List.mem_cons_of_mem _ hm)) (i + 1)
    refine ⟨(i, sender) :: targets, congrArg (i :: ·) hplaces, ?_⟩
    exact congrArg (Narrator.ofTarget (i, sender) :: ·) hrest

section
variable {n : Nat} {targets : List (Nat × Sender σ)} (ctx : Context) (message : Message) (t : Nat) (d : Deck σ)

theorem failover_attempted (hplaces : (targets.map Prod.fst).Perm (List.range n))
    (h : Hopeless (Narrator.failover (targets.map .ofTarget) ctx message t d).entries) :
    Attempted n (Narrator.failover (targets.map .ofTarget) ctx message t d) := by
  have hcount : (targets.map (Narrator.ofTarget (σ := σ))).length = n := by
    simpa using hplaces.length_eq
  unfold Narrator.failover at h ⊢
  rw [hcount] at h ⊢
  exact ⟨_, hplaces, walked n targets t d h⟩

/-- The walk begins one provider further on each time, and goes through all of them. -/
theorem rotating_attempted (hplaces : (targets.map Prod.fst).Perm (List.range n)) (cursor : Nat)
    (h : Hopeless (Narrator.rotating cursor (targets.map .ofTarget) ctx message t d).entries) :
    Attempted n (Narrator.rotating cursor (targets.map .ofTarget) ctx message t d) := by
  cases targets with
  | nil => exact failover_attempted ctx message t d hplaces h
  | cons target rest =>
    have hturn : ∀ start, ((((target :: rest).rotateLeft start).map Prod.fst).Perm (List.range n)) := fun start =>
      ((rotateLeft_perm _ start).map Prod.fst).trans hplaces
    have hnarrators : ∀ start, ((target :: rest).map (Narrator.ofTarget (σ := σ))).rotateLeft start =
      ((target :: rest).rotateLeft start).map .ofTarget := map_rotateLeft _ _
    unfold Narrator.rotating at h ⊢
    rw [List.map_cons, List.isEmpty_cons, if_neg Bool.false_ne_true, ← List.map_cons] at h ⊢
    rw [Teller.doing_bind, hnarrators] at h ⊢
    exact failover_attempted _ _ _ _ (hturn _) h

end

/-! ## Repetitions -/

/-- How a send went that walks through `n` providers, up to `retries` times more after the first time. -/
structure Repeated (n retries delay : Nat) (a : Account σ Delivery) : Prop where
  known : ∀ place ∈ contacts a.entries, ∃ i < n, place = [i]
  /-- Each wait comes after a walk through all providers, -/
  least : ∀ i < n, (delays a.entries).length ≤ (contacts a.entries).count [i]
  /-- and leads to one more. -/
  most : ∀ i, (contacts a.entries).count [i] ≤ (delays a.entries).length + 1
  doubled : delays a.entries = List.iterate (· * 2) delay (delays a.entries).length
  allowed : (delays a.entries).length ≤ retries
  ends : a.finish.value = .error .cancelled ∨
    a.finish.value = .error (.allProvidersFailed n) ∧ (delays a.entries).length = retries ∧
      ∀ i < n, (contacts a.entries).count [i] = retries + 1

section
variable {n retries delay : Nat} {a b : Account σ Delivery}

theorem count_places {targets : List Nat} (hperm : targets.Perm (List.range n)) (i : Nat) :
    (targets.map ([·])).count [i] = if i < n then 1 else 0 := by
  have hinjective : Function.Injective fun i : Nat => [i] := fun i j h => by simpa using h
  rw [List.count_map_of_injective _ _ hinjective, hperm.count_eq]
  split
  · next h => exact List.count_eq_one_of_mem List.nodup_range (List.mem_range.mpr h)
  · next h => exact List.count_eq_zero.mpr fun hm => h (List.mem_range.mp hm)

theorem Attempted.known (h : Attempted n a) {place : List Nat} (hm : place ∈ contacts a.entries) :
    ∃ i < n, place = [i] := by
  obtain ⟨targets, hperm, hwalked⟩ := h
  obtain ⟨i, hi, rfl⟩ := List.mem_map.mp (hwalked.inOrder.subset hm)
  exact ⟨i, List.mem_range.mp (hperm.mem_iff.mp hi), rfl⟩

theorem Attempted.nodup (h : Attempted n a) : (contacts a.entries).Nodup := by
  obtain ⟨targets, hperm, hwalked⟩ := h
  have hplaces : (targets.map ([·])).Nodup :=
    (hperm.nodup_iff.mpr List.nodup_range).map fun i j hij => by simpa using hij
  exact hplaces.sublist hwalked.inOrder.sublist

theorem Attempted.unpaused (h : Attempted n a) : delays a.entries = [] := by
  obtain ⟨_, _, hwalked⟩ := h
  exact hwalked.unpaused

theorem Attempted.uncut (h : Attempted n a) : Uncut a.entries := by
  obtain ⟨_, _, hwalked⟩ := h
  exact hwalked.uncut

theorem Attempted.ends (h : Attempted n a) : a.finish.value = .error .cancelled ∨
    a.finish.value = .error (.allProvidersFailed n) ∧ ∀ i < n, (contacts a.entries).count [i] = 1 := by
  obtain ⟨targets, hperm, hwalked⟩ := h
  refine hwalked.ends.imp_right fun ⟨hvalue, hall⟩ => ⟨hvalue, fun i hi => ?_⟩
  rw [hall, count_places hperm, if_pos hi]

/-- An attempt that is not repeated. -/
theorem Attempted.repeated (h : Attempted n a) (hlast : a.finish.value = .error .cancelled ∨ retries = 0)
    (delay : Nat) : Repeated n retries delay a where
  known _ := h.known
  least i _ := by rw [h.unpaused]; exact Nat.zero_le _
  most i := by rw [h.unpaused]; exact List.nodup_iff_count_le_one.mp h.nodup [i]
  doubled := by rw [h.unpaused]; rfl
  allowed := by rw [h.unpaused]; exact Nat.zero_le _
  ends := by
    rcases hlast with hcancelled | rfl
    · exact Or.inl hcancelled
    · refine h.ends.imp_right fun ⟨hvalue, hall⟩ => ⟨hvalue, ?_, hall⟩
      rw [h.unpaused]
      rfl

/-- An attempt, and a wait that the deadline cut off. -/
theorem Attempted.cutOff (h : Attempted n a) (retries delay t : Nat) (d : Deck σ) (place : List Nat) :
    Repeated n retries delay
      (⟨a.entries ++ [⟨t, d, .cutOff place⟩], t, d, .error .cancelled⟩ : Account σ Delivery) := by
  have hcontacts : contacts (a.entries ++ [⟨t, d, .cutOff place⟩]) = contacts a.entries := by
    rw [contacts_append]
    exact List.append_nil _
  have hdelays : delays (a.entries ++ [⟨t, d, .cutOff place⟩]) = [] := by
    rw [delays_append, h.unpaused]
    rfl
  exact {
    known := fun _ hm => h.known (hcontacts ▸ hm)
    least := fun i _ => by simp only [hdelays]; exact Nat.zero_le _
    most := fun i => by simp only [hdelays, hcontacts]; exact List.nodup_iff_count_le_one.mp h.nodup [i]
    doubled := by simp only [hdelays]; rfl
    allowed := by simp only [hdelays]; exact Nat.zero_le _
    ends := Or.inl rfl }

/-- A walk through all providers, a wait, and what comes after it. -/
theorem Repeated.before (hb : Repeated n retries (delay * 2) b) (ha : Attempted n a)
    (hall : ∀ i < n, (contacts a.entries).count [i] = 1) (t : Nat) (d : Deck σ) (place : List Nat) :
    Repeated n (retries + 1) delay ⟨a.entries ++ ⟨t, d, .waited place delay⟩ :: b.entries, b.finish⟩ := by
  have hcontacts : contacts (a.entries ++ ⟨t, d, .waited place delay⟩ :: b.entries) =
      contacts a.entries ++ contacts b.entries := contacts_append
  have hdelays : delays (a.entries ++ ⟨t, d, .waited place delay⟩ :: b.entries) = delay :: delays b.entries := by
    rw [delays_append, ha.unpaused]
    rfl
  have hlength : (delay :: delays b.entries).length = (delays b.entries).length + 1 := rfl
  refine ⟨fun place hm => ?_, fun i hi => ?_, fun i => ?_, ?_, ?_, ?_⟩
  · rw [hcontacts] at hm
    exact (List.mem_append.mp hm).elim ha.known (hb.known place)
  · have hleast := hb.least i hi
    rw [hcontacts, hdelays, hlength, List.count_append, hall i hi]
    omega
  · have hmost := hb.most i
    have honce := List.nodup_iff_count_le_one.mp ha.nodup [i]
    rw [hcontacts, hdelays, hlength, List.count_append]
    omega
  · rw [hdelays, hlength]
    exact congrArg (delay :: ·) hb.doubled
  · rw [hdelays, hlength]
    exact Nat.succ_le_succ hb.allowed
  · refine hb.ends.imp_right fun ⟨hvalue, hspent, hcount⟩ => ⟨hvalue, ?_, fun i hi => ?_⟩
    · rw [hdelays, hlength, hspent]
    · rw [hcontacts, List.count_append, hall i hi, hcount i hi, Nat.add_comm]

end

section
variable {ctx : Context} {message : Message} {narrator : Narrator σ} {n : Nat}

/-- A wait is cut off, or over. -/
theorem Narrator.resting_cases (place : List Nat) (delay : Nat) (ctx : Context) (next : Teller σ Delivery) (t : Nat)
    (d : Deck σ) :
    ∃ t' d', resting place delay ctx next t d = ⟨[⟨t', d', .cutOff place⟩], t', d', .error .cancelled⟩ ∨
      resting place delay ctx next t d =
        ⟨⟨t', d', .waited place delay⟩ :: (next t' d').entries, (next t' d').finish⟩ := by
  obtain ⟨t', d', slept, hslept⟩ : ∃ t' d' slept, (ctx.run (Task.sleep delay)).run t d = ⟨t', d', slept⟩ :=
    ⟨_, _, _, rfl⟩
  refine ⟨t', d', ?_⟩
  unfold resting
  rw [Teller.doing_bind, hslept]
  rcases slept with _ | ⟨⟩
  · exact Or.inl rfl
  · exact Or.inr rfl

theorem Narrator.again_retryable {fault : SendFault} (h : fault.isRetryable = true) (place : List Nat)
    (retries delay : Nat) : again place narrator retries delay ctx message (.error fault) =
      resting place delay ctx (retry place narrator retries (delay * 2) ctx message) := if_pos h

theorem Narrator.retry_account (place : List Nat) (retries delay t : Nat) (d : Deck σ) :
    let a := narrator ctx message t d
    let b := again place narrator retries delay ctx message a.finish.value a.finish.time a.finish.state
    retry place narrator (retries + 1) delay ctx message t d = ⟨a.entries ++ b.entries, b.finish⟩ := by
  rw [retry_succ]
  rfl

/-- What holds of a whole send holds of its first attempt. -/
theorem hopeless_first {place : List Nat} {retries delay t : Nat} {d : Deck σ}
    (h : Hopeless (Narrator.retry place narrator retries delay ctx message t d).entries) :
    Hopeless (narrator ctx message t d).entries := by
  cases retries with
  | zero => exact h
  | succ retries =>
    rw [Narrator.retry_account] at h
    exact (hopeless_append.mp h).1

theorem repeated (place : List Nat)
    (hattempt : ∀ t d, Hopeless (narrator ctx message t d).entries → Attempted n (narrator ctx message t d))
    (retries delay t : Nat) (d : Deck σ)
    (h : Hopeless (Narrator.retry place narrator retries delay ctx message t d).entries) :
    Repeated n retries delay (Narrator.retry place narrator retries delay ctx message t d) := by
  induction retries generalizing delay t d with
  | zero => exact (hattempt t d h).repeated (Or.inr rfl) delay
  | succ retries ih =>
    have ha := hattempt t d (hopeless_first h)
    rcases ha.ends with hvalue | ⟨hvalue, hall⟩
    · rw [Narrator.retry_cancelled hvalue]
      exact ha.repeated (Or.inl hvalue) delay
    · rw [Narrator.retry_account] at h ⊢
      rw [hvalue, Narrator.again_retryable rfl] at h ⊢
      obtain ⟨t', d', hcut | hover⟩ := Narrator.resting_cases place delay ctx
        (Narrator.retry place narrator retries (delay * 2) ctx message) (narrator ctx message t d).finish.time
        (narrator ctx message t d).finish.state
      · rw [hcut]
        exact ha.cutOff ..
      · rw [hover] at h ⊢
        have hrest := (hopeless_append.mp h).2
        exact (ih _ _ _ fun e he => hrest e (List.mem_cons_of_mem _ he)).before ha hall ..

end

/-! ## Chains -/

/-- A send through the provider in use. -/
theorem Narrator.sticky_contact {narrators : List (Narrator σ)} {ctx : Context} {message : Message} {t t' : Nat}
    {d d' : Deck σ} {answer : Delivery} {streak index : Nat} {place : List Nat} {sender : Sender σ}
    (hpick : (d.streak streak).pick narrators.length = index)
    (hnarrator : narrators[index]? = some (.provider place sender))
    (hanswer : (Deck.lift (sender ctx message)).run t d = ⟨t', d', answer⟩) (threshold : Nat) :
    sticky streak threshold narrators ctx message t d =
      ⟨[⟨t, d, .contacted place⟩, ⟨t', d', .answered place answer⟩], t',
        (d'.hear streak index (max threshold 1) narrators.length answer).2, answer⟩ := by
  simp only [sticky, Teller.doing_bind, Task.gets, Task.act, Task.run_step, Task.run_done, hpick, hnarrator]
  show (let e := (Deck.lift (sender ctx message)).run t d
    (⟨[⟨t, d, .contacted place⟩, ⟨e.time, e.state, .answered place e.value⟩], e.time,
      (e.state.hear streak index (max threshold 1) narrators.length e.value).2, e.value⟩ : Account σ Delivery)) = _
  rw [hanswer]

theorem sticky_relayed {n : Nat} {targets : List (Nat × Sender σ)} (ctx : Context) (message : Message) (t : Nat)
    (d : Deck σ) (hplaces : (targets.map Prod.fst).Perm (List.range n)) (hn : 0 < n) (streak threshold : Nat)
    (h : Hopeless (Narrator.sticky streak threshold (targets.map .ofTarget) ctx message t d).entries) :
    Relayed n (Narrator.sticky streak threshold (targets.map .ofTarget) ctx message t d) := by
  have hcount : targets.length = n := by simpa using hplaces.length_eq
  obtain ⟨index, hpick⟩ : ∃ index, (d.streak streak).pick (targets.map (Narrator.ofTarget (σ := σ))).length = index :=
    ⟨_, rfl⟩
  have hindex : index < targets.length := by
    rw [← hpick, List.length_map, hcount]
    exact Nat.mod_lt _ hn
  have htarget : (targets.map (Narrator.ofTarget (σ := σ)))[index]? = some (.ofTarget targets[index]) := by
    rw [List.getElem?_map, List.getElem?_eq_getElem hindex]
    rfl
  have hplace : targets[index].1 < n := by
    have hm : targets[index].1 ∈ targets.map Prod.fst := List.mem_map_of_mem (List.getElem_mem hindex)
    exact List.mem_range.mp (hplaces.mem_iff.mp hm)
  obtain ⟨t', d', answer, hanswer⟩ : ∃ t' d' answer,
    (Deck.lift (targets[index].2 ctx message)).run t d = ⟨t', d', answer⟩ := ⟨_, _, _, rfl⟩
  rw [Narrator.sticky_contact hpick htarget hanswer threshold] at h ⊢
  have hlast : (⟨t', d', .answered [targets[index].1] answer⟩ : Entry σ) ∈
      [⟨t, d, .contacted [targets[index].1]⟩, ⟨t', d', .answered [targets[index].1] answer⟩] :=
    List.mem_cons_of_mem _ (List.mem_cons_self ..)
  exact {
    one := ⟨_, hplace, rfl⟩
    unpaused := rfl
    uncut := List.forall_mem_cons.mpr ⟨rfl, List.forall_mem_cons.mpr ⟨rfl, List.forall_mem_nil _⟩⟩
    told := ⟨_, hlast, _, rfl⟩
    hopeless := Happening.fault_of_hopeless (h _ hlast) }

namespace DeliverySettings

variable {c : DeliverySettings} {limiter : Limiter σ} {carrier : Carrier σ} {slot : Nat} {clock : σ → Int}
  {ctx : Context} {message : Message} {t : Nat} {d : Deck σ}

/-- What a chain promises of a send in which every provider that answers gives a hopeless answer. -/
structure Unavailing (c : DeliverySettings) (entries : List (Entry σ)) (result : Delivery) : Prop where
  failed : result ≠ .ok ()
  known : ∀ place ∈ contacts entries, ∃ i < c.providers.length, place = [i]
  /-- Where one provider is in use, or no retries are asked for, nobody is contacted twice and nothing is
      waited for once a provider was contacted. -/
  single : c.strategy = .timeout ∨ c.retry.maxRetries = 0 →
    (contacts entries).Nodup ∧ delays entries = [] ∧ (contacts entries ≠ [] → Uncut entries)
  /-- The caller hears from the provider in use. -/
  told : c.strategy = .timeout → contacts entries ≠ [] → ∃ e ∈ entries, ∃ place, e.what = .answered place result
  /-- Elsewhere each wait comes after a walk through all providers, -/
  least : ∀ i < c.providers.length, (delays entries).length ≤ (contacts entries).count [i]
  /-- and leads to one more. -/
  most : ∀ i, (contacts entries).count [i] ≤ (delays entries).length + 1
  doubled : delays entries = List.iterate (· * 2) c.retry.backoffMs.toNat (delays entries).length
  allowed : (delays entries).length ≤ c.retry.maxRetries.toNat
  /-- The caller hears of no provider's fault, and only a cancellation spares the repetitions. -/
  untold : c.strategy ≠ .timeout → contacts entries ≠ [] → result = .error .cancelled ∨
    result = .error (.allProvidersFailed c.providers.length) ∧ (delays entries).length = c.retry.maxRetries.toNat ∧
      ∀ i < c.providers.length, (contacts entries).count [i] = c.retry.maxRetries.toNat + 1

namespace Unavailing

variable {entries : List (Entry σ)} {a : Account σ Delivery}

/-- A send that ends before a provider is contacted. -/
theorem unreached (c : DeliverySettings) (hcontacts : contacts entries = []) (hdelays : delays entries = [])
    (fault : SendFault) : c.Unavailing entries (.error fault) where
  failed := nofun
  known place hm := by
    rw [hcontacts] at hm
    cases hm
  single _ := by
    rw [hcontacts]
    exact ⟨.nil, hdelays, fun h => absurd rfl h⟩
  told _ h := absurd hcontacts h
  least i _ := by rw [hdelays]; exact Nat.zero_le _
  most i := by rw [hcontacts]; exact Nat.zero_le _
  doubled := by rw [hdelays]; rfl
  allowed := by rw [hdelays]; exact Nat.zero_le _
  untold _ h := absurd hcontacts h

/-- The provider in use answers, and the send is over. -/
theorem of_relayed (h : Relayed c.providers.length a) (hs : c.strategy = .timeout) :
    c.Unavailing a.entries a.finish.value := by
  obtain ⟨⟨index, hindex, hone⟩, hdelays, huncut, htold, fault, hvalue, -⟩ := h
  exact {
    failed := by rw [hvalue]; nofun
    known := fun place hm => by
      rw [hone] at hm
      exact ⟨index, hindex, List.mem_singleton.mp hm⟩
    single := fun _ => ⟨by rw [hone]; exact List.nodup_singleton _, hdelays, fun _ => huncut⟩
    told := fun _ _ => htold
    least := fun i _ => by rw [hdelays]; exact Nat.zero_le _
    most := fun i => by
      rw [hone]
      exact Nat.le_add_left_of_le (List.nodup_iff_count_le_one.mp (List.nodup_singleton _) _)
    doubled := by rw [hdelays]; rfl
    allowed := by rw [hdelays]; exact Nat.zero_le _
    untold := fun hother => absurd hs hother }

theorem of_repeated (h : Repeated c.providers.length c.retry.maxRetries.toNat c.retry.backoffMs.toNat a)
    (hs : c.strategy ≠ .timeout)
    (hsingle : c.retry.maxRetries = 0 → (contacts a.entries).Nodup ∧ delays a.entries = [] ∧ Uncut a.entries) :
    c.Unavailing a.entries a.finish.value where
  failed hok := by rcases h.ends with hend | ⟨hend, -⟩ <;> cases hok.symm.trans hend
  known := h.known
  single hcase := by
    obtain ⟨hnodup, hdelays, huncut⟩ := hsingle (hcase.resolve_left hs)
    exact ⟨hnodup, hdelays, fun _ => huncut⟩
  told hother := absurd hother hs
  least := h.least
  most := h.most
  doubled := h.doubled
  allowed := h.allowed
  untold _ _ := h.ends

/-- What the limiter let through. -/
theorem letThrough {result : Delivery} (h : c.Unavailing entries result) (t t' : Nat) (d d' : Deck σ)
    (place place' : List Nat) (key : String) (reply : Except LimitFault Bool) :
    c.Unavailing (⟨t, d, .consulted place key⟩ :: ⟨t', d', .replied place' reply⟩ :: entries) result where
  failed := h.failed
  known := h.known
  single hcase := by
    obtain ⟨hnodup, hdelays, huncut⟩ := h.single hcase
    refine ⟨hnodup, hdelays, fun hcontacted => ?_⟩
    exact List.forall_mem_cons.mpr ⟨rfl, List.forall_mem_cons.mpr ⟨rfl, huncut hcontacted⟩⟩
  told hs hcontacted := by
    obtain ⟨e, he, htold⟩ := h.told hs hcontacted
    exact ⟨e, List.mem_cons_of_mem _ (List.mem_cons_of_mem _ he), htold⟩
  least := h.least
  most := h.most
  doubled := h.doubled
  allowed := h.allowed
  untold := h.untold

end Unavailing

/-- An attempt of a strategy that walks. -/
theorem combined_attempted {targets : List (Nat × Sender σ)}
    (hplaces : (targets.map Prod.fst).Perm (List.range c.providers.length)) (hs : c.strategy ≠ .timeout)
    {providers : List (Route σ)} (hjournals : Route.journals clock [] 0 providers = targets.map .ofTarget)
    (slot : Nat) (ctx : Context) (message : Message) (t : Nat) (d : Deck σ)
    (h : Hopeless ((c.combined slot providers).journal clock [] ctx message t d).entries) :
    Attempted c.providers.length ((c.combined slot providers).journal clock [] ctx message t d) := by
  unfold combined at h ⊢
  cases hstrategy : c.strategy with
  | timeout => exact absurd hstrategy hs
  | fixed =>
    simp only [hstrategy, Route.journal, hjournals] at h ⊢
    exact failover_attempted ctx message t d hplaces h
  | roundRobin =>
    simp only [hstrategy, Route.journal, hjournals] at h ⊢
    exact rotating_attempted ctx message t d hplaces slot h

theorem behind_unavailing {providers : List (Route σ)} (hlen : providers.length = c.providers.length)
    (hne : providers ≠ []) (hproviders : ∀ route ∈ providers, ∃ name sender, route = .provider name sender)
    (message : Message) (t : Nat) (d : Deck σ)
    (h : Hopeless ((c.behind slot providers).journal clock [] ctx message t d).entries) :
    c.Unavailing ((c.behind slot providers).journal clock [] ctx message t d).entries
      ((c.behind slot providers).journal clock [] ctx message t d).finish.value := by
  obtain ⟨targets, hrange, hjournals⟩ := Route.journals_of_providers clock hproviders 0
  have hplaces : (targets.map Prod.fst).Perm (List.range c.providers.length) := by
    rw [hrange, hlen, List.range_eq_range']
  by_cases hs : c.strategy = .timeout
  · have hpositive : 0 < c.providers.length := hlen ▸ List.length_pos_iff.mpr hne
    have hcombined : (c.combined slot providers).journal clock [] =
        Narrator.sticky slot c.timeoutThreshold.toNat (targets.map .ofTarget) := by
      unfold combined
      simp only [hs, Route.journal, hjournals]
    have hrelayed := fun hfirst => sticky_relayed ctx message t d hplaces hpositive slot c.timeoutThreshold.toNat hfirst
    rw [← hcombined] at hrelayed
    unfold behind retried at h ⊢
    split at h
    · next hzero =>
      rw [if_pos hzero]
      exact .of_relayed (hrelayed h) hs
    · next hsome =>
      have hr := hrelayed (hopeless_first h)
      obtain ⟨fault, hvalue, hfault⟩ := hr.hopeless
      rw [if_neg hsome, Route.journal, Narrator.retry_final hvalue hfault]
      exact .of_relayed hr hs
  · have hattempt := combined_attempted hplaces hs hjournals slot ctx message
    unfold behind retried at h ⊢
    split at h
    · next hzero =>
      rw [if_pos hzero]
      have ha := hattempt t d h
      refine .of_repeated (ha.repeated (Or.inr ?_) _) hs fun _ => ⟨ha.nodup, ha.unpaused, ha.uncut⟩
      rw [hzero]
      rfl
    · next hsome =>
      rw [if_neg hsome]
      exact .of_repeated (repeated [] hattempt _ _ t d h) hs fun hzero => absurd hzero hsome

theorem Course.unavailing {inner : Narrator σ} {a : Account σ Delivery}
    (h : Course c limiter clock inner ctx message t d a)
    (hinner : ∀ m t d, Hopeless (inner ctx m t d).entries →
      c.Unavailing (inner ctx m t d).entries (inner ctx m t d).finish.value)
    (hopeless : Hopeless a.entries) : c.Unavailing a.entries a.finish.value := by
  cases h with
  | refused | late | cutOff | turnedAway => exact .unreached c rfl rfl _
  | unlimited => exact hinner _ t d hopeless
  | @letThrough m _ _ t' d' _ =>
    have hbehind : Hopeless (inner ctx m t' d').entries :=
      fun e he => hopeless e (List.mem_cons_of_mem _ (List.mem_cons_of_mem _ he))
    exact (hinner m t' d' hbehind).letThrough ..

end DeliverySettings

/-- In every send through a chain that settings describe in which each provider that answers gives a
    fault that may not pass: under the timeout strategy or without retries, nobody is contacted twice and
    nothing is waited for. A strategy that walks through the providers is repeated with its growing waits,
    since the fault that comes out of it may pass, until the retries are spent or the send is cancelled. -/
theorem hopeless_walks_repeated (c : DeliverySettings) (limiter : Limiter σ) (carrier : Carrier σ) (slot : Nat)
    {route : Route σ} (h : c.route limiter carrier slot = .ok route) (clock : σ → Int) (ctx : Context)
    (message : Message) (t : Nat) (d : Deck σ)
    (hopeless : Hopeless (route.journal clock [] ctx message t d).entries) :
    c.Unavailing (route.journal clock [] ctx message t d).entries ((route.send clock ctx message).run t d).value := by
  have hsome := DeliverySettings.providers_ne_nil h
  obtain ⟨providers, hproviders, rfl⟩ := DeliverySettings.route_eq_ok h
  have hlen := DeliverySettings.length_providersFrom hproviders
  have hne := DeliverySettings.providersFrom_ne_nil hproviders hsome
  have hleaf : ∀ route ∈ providers, ∃ name sender, route = .provider name sender := by
    intro route hm
    obtain ⟨place, settings, hleaf⟩ := DeliverySettings.mem_providersFrom hproviders hm
    rcases DeliverySettings.provider_eq_ok hleaf with rfl | rfl
    · exact ⟨_, _, rfl⟩
    · exact ⟨_, _, rfl⟩
  rw [← Route.journal_finish]
  refine (DeliverySettings.course (c.behind slot providers)).unavailing (fun m t d hbehind => ?_) hopeless
  exact DeliverySettings.behind_unavailing hlen hne hleaf m t d hbehind

/-! ### A number that no provider can address -/

def pairSettings : DeliverySettings := {
  providers := [{ name := "first", kind := .memory }, { name := "second", kind := .memory }]
  strategy := .fixed
  retry := { maxRetries := 2, backoffMs := 100 }
  rateLimit := .development }

/-- A message to a number that is too short. -/
def misdirected : Message := ⟨defaultCodeTemplate, [⟨"code", "123456"⟩], ["12"]⟩

/-- Both providers say that the number is bad, each of the three times that they are asked. -/
theorem bad_recipient_retried : ∃ route, pairSettings.route lenientLimiter muteCarrier 0 = .ok route ∧
    let entries := (route.journal (fun _ => 0) [] .unbounded misdirected 0 { outer := () }).entries
    let finish := (route.send (fun _ => 0) .unbounded misdirected).run 0 { outer := () }
    Hopeless entries ∧ contacts entries = [[0], [1], [0], [1], [0], [1]] ∧ delays entries = [100, 200] ∧
      finish.time = 300 ∧ finish.value = .error (.allProvidersFailed 2) := by
  refine ⟨_, rfl, ?_⟩
  decide +kernel

theorem hopeless_walks_repeated_sample : ∃ route, pairSettings.route lenientLimiter muteCarrier 0 = .ok route ∧
    let entries := (route.journal (fun _ => 0) [] .unbounded misdirected 0 { outer := () }).entries
    Hopeless entries ∧ pairSettings.Unavailing entries
      ((route.send (fun _ => 0) .unbounded misdirected).run 0 { outer := () }).value := by
  refine ⟨_, rfl, by decide +kernel, ?_⟩
  exact hopeless_walks_repeated pairSettings lenientLimiter muteCarrier 0 rfl (fun _ => 0) .unbounded misdirected 0
    { outer := () } (by decide +kernel)

end Passcode
