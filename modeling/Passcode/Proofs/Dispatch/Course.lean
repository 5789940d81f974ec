/-
  Passcode.Proofs.Dispatch.Course — the ways that a walk through a list of providers can go.

  A walk contacts a provider if the deadline has not come. It goes on with the next one at the instant at
  which the last one fails, unless the failure is a cancellation or the deadline has come. It is over when a
  provider succeeds, when it does not go on, and when no provider is left.

  Proved: how an answer takes a walk from one of these ways to another (`Course.hear`), and what all of
  them have in common, for the contacts and for the result (`Course.exact`).
-/

import Mathlib.Data.List.Nodup
import Passcode.Dispatch.Sender

namespace Passcode

/-! ## Contacts -/

/-- A provider is contacted; when and how it answered stands here once it has. -/
structure Contact where
  place : Nat
  began : Nat
  answer : Option (Nat × Delivery)

namespace Contact

/-- The provider answered, with a failure that is no cancellation. -/
def FailedAt (t : Nat) (c : Contact) : Prop := ∃ fault, c.answer = some (t, .error fault) ∧ fault ≠ .cancelled

/-- Takes in the answer of a provider that has not answered yet. -/
def hear (now : Nat) (result : Delivery) (c : Contact) : Contact :=
  { c with answer := c.answer.or (some (now, result)) }

theorem failedAt_iff {place began t t' : Nat} {fault : SendFault} (h : fault ≠ .cancelled) :
    FailedAt t' ⟨place, began, some (t, .error fault)⟩ ↔ t' = t := by
  constructor
  · rintro ⟨_, hanswer, -⟩
    cases hanswer
    rfl
  · rintro rfl
    exact ⟨fault, rfl, h⟩

end Contact

/-- How far a walk is: a provider is asked and others are left, or it is over. -/
inductive Progress where
  | asking (rest : List Nat)
  | finished (result : Delivery)

def Progress.result? : Progress → Option Delivery
  | asking _ => none
  | finished result => some result

/-- The ways a walk can go that comes to some places at a time. -/
inductive Course (attempts : Nat) (ctx : Context) : Nat → List Nat → List Contact → Progress → Prop where
  | exhausted {now : Nat} : Course attempts ctx now [] [] (.finished (.error (.allProvidersFailed attempts)))
  | expired {now place : Nat} {rest : List Nat} (h : ctx.isExpired now = true) :
      Course attempts ctx now (place :: rest) [] (.finished (.error .cancelled))
  | pending {now place : Nat} {rest : List Nat} (h : ctx.isExpired now = false) :
      Course attempts ctx now (place :: rest) [⟨place, now, none⟩] (.asking rest)
  | sent {now place : Nat} {rest : List Nat} (h : ctx.isExpired now = false) (t : Nat) :
      Course attempts ctx now (place :: rest) [⟨place, now, some (t, .ok ())⟩] (.finished (.ok ()))
  | cancelled {now place : Nat} {rest : List Nat} (h : ctx.isExpired now = false) (t : Nat) :
      Course attempts ctx now (place :: rest) [⟨place, now, some (t, .error .cancelled)⟩] (.finished (.error .cancelled))
  | onward {now place t : Nat} {rest : List Nat} {fault : SendFault} {contacts : List Contact} {progress : Progress}
      (h : ctx.isExpired now = false) (hfault : fault ≠ .cancelled)
      (hrest : Course attempts ctx t rest contacts progress) :
      Course attempts ctx now (place :: rest) (⟨place, now, some (t, .error fault)⟩ :: contacts) progress

/-- What comes after an answer, when some places are left. -/
inductive Continues (attempts : Nat) (ctx : Context) (t : Nat) :
    Delivery → List Nat → List Contact → Progress → Prop where
  | sent {rest : List Nat} : Continues attempts ctx t (.ok ()) rest [] (.finished (.ok ()))
  | cancelled {rest : List Nat} : Continues attempts ctx t (.error .cancelled) rest [] (.finished (.error .cancelled))
  | onward {rest : List Nat} {fault : SendFault} {contacts : List Contact} {progress : Progress}
      (hfault : fault ≠ .cancelled) (hrest : Course attempts ctx t rest contacts progress) :
      Continues attempts ctx t (.error fault) rest contacts progress

section
variable {attempts now t place : Nat} {ctx : Context} {result : Delivery} {places rest : List Nat}
  {contacts more : List Contact} {progress : Progress}

/-- A provider is contacted and answers, and the walk heeds the answer. -/
theorem Continues.course (h : Continues attempts ctx t result rest contacts progress)
    (live : ctx.isExpired now = false) :
    Course attempts ctx now (place :: rest) (⟨place, now, some (t, result)⟩ :: contacts) progress := by
  cases h with
  | sent => exact .sent live t
  | cancelled => exact .cancelled live t
  | onward hfault hrest => exact .onward live hfault hrest

/-- The provider that is asked answers, and the walk heeds the answer. -/
theorem Course.hear (h : Course attempts ctx now places contacts (.asking rest))
    (hnext : Continues attempts ctx t result rest more progress) :
    Course attempts ctx now places (contacts.map (Contact.hear t result) ++ more) progress := by
  generalize hasking : Progress.asking rest = asking at h
  induction h with
  | exhausted | expired | sent | cancelled => cases hasking
  | pending live =>
    cases hasking
    exact hnext.course live
  | onward live hfault _ ih => exact .onward live hfault (ih hasking)

end

/-! ## What all walks have in common -/

/-- What a walk that came to some places when it began promises of its contacts and of its result. -/
structure Exact (attempts : Nat) (ctx : Context) (places : List Nat) (began : Nat) (contacts : List Contact)
    (result : Option Delivery) : Prop where
  /-- Providers are contacted in order, and each at most once. -/
  inOrder : contacts.map Contact.place <+: places
  once : (contacts.map Contact.place).Nodup
  /-- The first contact is made exactly if the deadline has not come, and at once. -/
  first : 0 < contacts.length ↔ 0 < places.length ∧ ctx.isExpired began = false
  atOnce : ∀ c, contacts[0]? = some c → c.began = began
  /-- The next one is made exactly if the last one failed, with no cancellation, before the deadline has come, -/
  onward : ∀ j c, contacts[j]? = some c →
    (j + 1 < contacts.length ↔ j + 1 < places.length ∧ ∃ t, c.FailedAt t ∧ ctx.isExpired t = false)
  /-- and at that instant. -/
  onTime : ∀ j c c', contacts[j]? = some c → contacts[j + 1]? = some c' → c.FailedAt c'.began
  /-- The walk is under way as long as an answer is due. -/
  underWay : result = none ↔ ∃ c ∈ contacts, c.answer = none
  sent : result = some (.ok ()) ↔ ∃ c ∈ contacts, ∃ t, c.answer = some (t, .ok ())
  failed : result = some (.error (.allProvidersFailed attempts)) ↔
    contacts.length = places.length ∧ ∀ c ∈ contacts, ∃ t, c.FailedAt t
  cancelled : ∀ r ∈ result, r ≠ .ok () → r ≠ .error (.allProvidersFailed attempts) → r = .error .cancelled

namespace Exact

variable {attempts now t place : Nat} {ctx : Context} {result : Option Delivery} {rest : List Nat}
  {contacts : List Contact} {answer : Option (Nat × Delivery)} {fault : SendFault}

/-- A walk that has come to all places. -/
theorem exhausted : Exact attempts ctx [] now [] (some (.error (.allProvidersFailed attempts))) where
  inOrder := List.nil_prefix
  once := .nil
  first := by simp
  atOnce := nofun
  onward := nofun
  onTime := nofun
  underWay := by simp
  sent := by simp
  failed := by simp
  cancelled r hr _ hfailed := absurd (Option.some.inj hr).symm hfailed

/-- A walk that makes no contact. -/
theorem expired (h : ctx.isExpired now = true) :
    Exact attempts ctx (place :: rest) now [] (some (.error .cancelled)) where
  inOrder := List.nil_prefix
  once := .nil
  first := by simp [h]
  atOnce := nofun
  onward := nofun
  onTime := nofun
  underWay := by simp
  sent := by simp
  failed := by simp
  cancelled r hr _ _ := (Option.some.inj hr).symm

/-- A walk that makes one contact and does not go on from it. -/
theorem single (live : ctx.isExpired now = false) (hstop : ∀ t, ¬ Contact.FailedAt t ⟨place, now, answer⟩) :
    Exact attempts ctx (place :: rest) now [⟨place, now, answer⟩] (answer.map Prod.snd) := by
  have hfinal : ∀ fault, answer.map Prod.snd = some (.error fault) → fault = .cancelled := by
    intro fault hresult
    obtain ⟨⟨t, _⟩, hanswer, rfl⟩ := Option.map_eq_some_iff.mp hresult
    exact Classical.not_not.mp fun hother => hstop t ⟨fault, hanswer, hother⟩
  exact {
    inOrder := List.cons_prefix_cons.mpr ⟨rfl, List.nil_prefix⟩
    once := List.nodup_singleton _
    first := by simp [live]
    atOnce := fun c hc => by
      cases hc
      rfl
    onward := fun j c hc => by
      cases j with
      | zero =>
        cases hc
        simp [hstop]
      | succ j => cases hc
    onTime := fun j c c' _ hc' => by cases hc'
    underWay := by simp
    sent := by rcases answer with _ | ⟨t, result⟩ <;> simp
    failed := by
      refine ⟨fun hresult => (nomatch hfinal _ hresult), fun ⟨_, hall⟩ => ?_⟩
      obtain ⟨t, hfailed⟩ := hall _ (List.mem_singleton_self _)
      exact absurd hfailed (hstop t)
    cancelled := fun r hr hok _ => by
      rcases r with fault | ⟨⟩
      · rw [hfinal fault hr]
      · exact absurd rfl hok }

/-- A walk that goes on behind a provider that failed. -/
theorem cons (h : Exact attempts ctx rest t contacts result) (live : ctx.isExpired now = false)
    (hfault : fault ≠ .cancelled) (hnew : place ∉ rest) :
    Exact attempts ctx (place :: rest) now (⟨place, now, some (t, .error fault)⟩ :: contacts) result where
  inOrder := List.cons_prefix_cons.mpr ⟨rfl, h.inOrder⟩
  once := List.nodup_cons.mpr ⟨fun hm => hnew (h.inOrder.subset hm), h.once⟩
  first := by simp [live]
  atOnce c hc := by
    cases hc
    rfl
  onward j c hc := by
    cases j with
    | zero =>
      cases hc
      simp [h.first, Contact.failedAt_iff hfault]
    | succ j =>
      rw [List.length_cons, List.length_cons, Nat.add_lt_add_iff_right, Nat.add_lt_add_iff_right]
      exact h.onward j c hc
  onTime j c c' hc hc' := by
    cases j with
    | zero =>
      cases hc
      rw [h.atOnce c' hc']
      exact ⟨fault, rfl, hfault⟩
    | succ j => exact h.onTime j c c' hc hc'
  underWay := by simp [h.underWay]
  sent := by simp [h.sent]
  failed := by simp [h.failed, Contact.failedAt_iff hfault]
  cancelled := h.cancelled

end Exact

section
variable {attempts now : Nat} {ctx : Context} {places : List Nat} {contacts : List Contact} {progress : Progress}

theorem Course.exact (h : Course attempts ctx now places contacts progress) (distinct : places.Nodup) :
    Exact attempts ctx places now contacts progress.result? := by
  induction h with
  | exhausted => exact .exhausted
  | expired hexpired => exact .expired hexpired
  | pending live => exact .single live fun t ⟨_, hanswer, _⟩ => nomatch hanswer
  | sent live t => exact .single live fun t ⟨_, hanswer, _⟩ => by cases hanswer
  | cancelled live t =>
    refine .single live fun t => ?_
    rintro ⟨_, hanswer, hother⟩
    cases hanswer
    exact hother rfl
  | onward live hfault _ ih =>
    obtain ⟨hnew, hrest⟩ := List.nodup_cons.mp distinct
    exact (ih hrest).cons live hfault hnew

end

end Passcode
