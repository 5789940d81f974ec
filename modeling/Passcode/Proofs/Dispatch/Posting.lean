/-
  Passcode.Proofs.Dispatch.Posting — what becomes of a message that is posted to one number.

  A posting comes to one of three things: the message is accepted, there is no answer in time, or it fails for a
  reason. Of an answer that reports success all has to come in time, since it has to name the message; of a refusal
  the status is enough. The caller's deadline cuts off what is under way.

  A provider need not be able to post at all: nothing checks that its messages go to a web address, or that there
  is any time for an answer. Then no request is made.

  Proved: below a web address messages go to a web address (`hasAddress_of_base`); and what a request takes and
  comes to, with and without a deadline (`post_run`, `run_post_whole`, `run_post_cutOff`).
-/

import Passcode.Proofs.Dispatch.Deadline
import Passcode.Proofs.Text.Url

namespace Passcode.Twilio

variable {σ : Type}

/-! ## Where messages go -/

/-- Whether messages are posted to a web address. -/
def hasAddress (c : ProviderSettings) : Bool := (request c "" "").path?.isSome

/-- Whether requests are made at all: there is an address, and some time for an answer. -/
def goesOut (c : ProviderSettings) : Bool := hasAddress c && c.requestTimeoutSecs != 0

/-- Milliseconds within which an answer has to be there. -/
def limit (c : ProviderSettings) : Nat := c.requestTimeoutSecs.toNat * 1000

/-- What a posting comes to. -/
inductive Fate where
  | accepted
  /-- There was no answer in time. -/
  | late
  | failed (reason : String)
  deriving DecidableEq

/-- What a fate is reported as. -/
def Fate.delivery (c : ProviderSettings) : Fate → Delivery
  | accepted => .ok ()
  | late => .error (.providerTimeout c.name)
  | failed reason => .error (.provider c.name reason)

/-- A request that was made, and what became of it. -/
structure Sent where
  time : Nat
  request : Http.Request
  reply : Http.Reply

/-- An attempt to post a message to a number. -/
structure Posting where
  number : String
  began : Nat
  /-- What became of the request, if it was made. -/
  reply : Option Http.Reply

namespace Posting

/-- Milliseconds that a posting takes. -/
def took (c : ProviderSettings) (p : Posting) : Nat :=
  match p.reply with
  | none => 0
  | some reply =>
    match reply.exchange with
    | .answer _ _ => min (limit c) (reply.start + reply.body)
    | .dropped => min (limit c) reply.start
    | .silent => limit c

def fate (c : ProviderSettings) (p : Posting) : Fate :=
  match p.reply with
  | none => if hasAddress c then .late else .failed "<transport error>"
  | some reply =>
    match reply.exchange with
    | .answer status text =>
      if Http.isSuccess status then
        if limit c ≤ reply.start + reply.body then .late
        else if text = none then .failed "<transport error>"
        else if text.any isReceipt then .accepted
        else .failed "<decode error>"
      else if limit c ≤ reply.start then .late
      else .failed (refusalText status (if reply.start + reply.body < limit c then text.getD "" else ""))
    | .dropped => if limit c ≤ reply.start then .late else .failed "<transport error>"
    | .silent => .late

/-- When a posting is over. -/
def ended (c : ProviderSettings) (p : Posting) : Nat := p.began + p.took c

/-- A posting that the caller's deadline leaves alone. -/
def InTime (c : ProviderSettings) (ctx : Context) (p : Posting) : Prop :=
  ∀ deadline ∈ ctx.deadline, p.began < deadline ∧ p.ended c ≤ deadline

/-- The request of a posting, if it was made. -/
def sent? (c : ProviderSettings) (body : String) (p : Posting) : Option Sent :=
  p.reply.map (⟨p.began, request c p.number body, ·⟩)

/-- The entry in the report of a batch for a posting that failed. -/
def report? (c : ProviderSettings) (p : Posting) : Option String :=
  match p.fate c with
  | .failed reason => some (Phone.mask p.number ++ ": " ++ (SendFault.provider c.name reason).message.text)
  | _ => none

end Posting

/-- A line that notes the requests. -/
def Line.noted (line : Line σ) : Line (Logged Sent σ) := fun now request s =>
  let (reply, inner) := line now request s.inner
  (reply, ⟨inner, s.log ++ [⟨now, request, reply⟩]⟩)

/-- The posting that begins at an instant, and the state when its request is made. -/
def attempt (line : Line σ) (c : ProviderSettings) (number body : String) (t : Nat) (s : σ) : Posting × σ :=
  if goesOut c then
    let (reply, s) := line t (request c number body) s
    (⟨number, t, some reply⟩, s)
  else (⟨number, t, none⟩, s)

section
variable (line : Line σ) (c : ProviderSettings) (number body : String) (t : Nat) (s : σ)

theorem await_run (limit delay : Nat) :
    (await limit delay).run t s = ⟨t + min limit delay, s, decide (delay < limit)⟩ := rfl

theorem judge_eq (status : Nat) (text : Option String) {start wait : Nat} (h : start + wait < limit c) :
    judge c status text = (Posting.fate c ⟨number, t, some ⟨.answer status text, start, wait⟩⟩).delivery c := by
  have hstart : ¬ limit c ≤ start := by omega
  have hwhole : ¬ limit c ≤ start + wait := by omega
  simp only [judge, Posting.fate, hstart, hwhole, h, if_false, if_true]
  by_cases hsuccess : Http.isSuccess status = true
  · rw [if_pos hsuccess, if_pos hsuccess]
    cases text with
    | none => rfl
    | some text =>
      by_cases hreceipt : isReceipt text = true
      · simp [hreceipt, Fate.delivery]
      · simp [hreceipt, Fate.delivery]
  · rw [if_neg hsuccess, if_neg hsuccess]
    rfl

theorem judgeStalled_eq (status : Nat) (text : Option String) {start wait : Nat} (hstart : start < limit c)
    (h : limit c ≤ start + wait) : judgeStalled c status =
      (Posting.fate c ⟨number, t, some ⟨.answer status text, start, wait⟩⟩).delivery c := by
  have hbegun : ¬ limit c ≤ start := by omega
  have hstalled : ¬ start + wait < limit c := by omega
  simp only [judgeStalled, Posting.fate, hbegun, hstalled, h, if_false, if_true]
  by_cases hsuccess : Http.isSuccess status = true
  · rw [if_pos hsuccess, if_pos hsuccess]
    rfl
  · rw [if_neg hsuccess, if_neg hsuccess]
    rfl

theorem fate_late (status : Nat) (text : Option String) {start wait : Nat} (h : limit c ≤ start) :
    Posting.fate c ⟨number, t, some ⟨.answer status text, start, wait⟩⟩ = .late := by
  have hwhole : limit c ≤ start + wait := by omega
  simp [Posting.fate, h, hwhole]

/-- What is heard of a request, and when. -/
theorem hear_run (reply : Http.Reply) :
    (hear c (limit c) reply).run t s =
      ⟨Posting.ended c ⟨number, t, some reply⟩, s, (Posting.fate c ⟨number, t, some reply⟩).delivery c⟩ := by
  obtain ⟨exchange, start, wait⟩ := reply
  cases exchange with
  | answer status text =>
    have hover : Posting.ended c ⟨number, t, some ⟨.answer status text, start, wait⟩⟩ =
        t + min (limit c) (start + wait) := rfl
    rw [hover]
    simp only [hear, Task.run_bind, await_run]
    by_cases hstart : start < limit c
    · have htime : t + min (limit c) start + min (limit c - start) wait = t + min (limit c) (start + wait) := by omega
      simp only [hstart, decide_true, Bool.not_true, Bool.false_eq_true, if_false, Task.run_bind, await_run, htime]
      by_cases hwait : start + wait < limit c
      · have hin : wait < limit c - start := by omega
        rw [← judge_eq c number t status text hwait]
        simp only [hin, decide_true, if_true, Task.run_pure]
      · have hout : ¬ wait < limit c - start := by omega
        rw [← judgeStalled_eq c number t status text hstart (by omega)]
        simp only [hout, decide_false, Bool.false_eq_true, if_false, Task.run_pure]
    · have htime : min (limit c) start = min (limit c) (start + wait) := by omega
      rw [fate_late c number t status text (by omega), htime]
      simp only [hstart, decide_false, Bool.not_false, if_true, Task.run_pure]
      rfl
  | dropped =>
    have hover : Posting.ended c ⟨number, t, some ⟨.dropped, start, wait⟩⟩ = t + min (limit c) start := rfl
    rw [hover]
    simp only [hear, Task.run_bind, await_run, Posting.fate]
    by_cases hstart : start < limit c
    · have hin : ¬ limit c ≤ start := by omega
      simp only [hstart, hin, decide_true, if_true, if_false, Task.run_pure]
      rfl
    · have hout : limit c ≤ start := by omega
      simp only [hstart, hout, decide_false, Bool.false_eq_true, if_true, if_false, Task.run_pure]
      rfl
  | silent => rfl

/-- What a posting takes and comes to without a deadline of the caller. -/
theorem post_run : (post line c number body).run t s =
    let (p, s') := attempt line c number body t s
    ⟨p.ended c, s', (p.fate c).delivery c⟩ := by
  have hpath : (request c number body).path?.isNone = !hasAddress c := (Option.not_isSome _).symm
  unfold post attempt goesOut
  dsimp only
  rw [hpath]
  cases haddress : hasAddress c with
  | false => simp [Posting.ended, Posting.took, Posting.fate, Fate.delivery, haddress]
  | true =>
    by_cases htime : c.requestTimeoutSecs = 0
    · simp [htime, Posting.ended, Posting.took, Posting.fate, Fate.delivery, haddress]
    · have hmade : (c.requestTimeoutSecs != 0) = true := by simpa using htime
      simp only [Bool.not_true, Bool.false_eq_true, if_false, htime, hmade, Bool.and_self, if_true, Task.act,
        Task.run_bind, Task.run_step, Task.run_done]
      exact hear_run c number t _ _

end

/-! ## One posting under a deadline -/

section
variable {line : Line σ} {c : ProviderSettings} {ctx : Context} {number body : String} {t : Nat} {s s' : σ} {p : Posting}
  (h : attempt line c number body t s = (p, s'))
include h

theorem attempt_eq : p.number = number ∧ p.began = t ∧ p.reply.isSome = goesOut c := by
  unfold attempt at h
  by_cases hmade : goesOut c = true
  · rw [if_pos hmade] at h
    cases h
    exact ⟨rfl, rfl, hmade.symm⟩
  · rw [if_neg hmade] at h
    cases h
    exact ⟨rfl, rfl, (Bool.eq_false_iff.mpr hmade).symm⟩

/-- A request that is made is noted with what becomes of it. -/
theorem attempt_noted (log : List Sent) :
    attempt line.noted c number body t ⟨s, log⟩ = (p, ⟨s', log ++ (p.sent? c body).toList⟩) := by
  unfold attempt at h ⊢
  by_cases hmade : goesOut c = true
  · rw [if_pos hmade] at h ⊢
    cases h
    rfl
  · rw [if_neg hmade] at h ⊢
    cases h
    simp [Posting.sent?]

theorem run_post_whole (hin : p.InTime c ctx) : (ctx.run (post line c number body)).run t s =
    ⟨p.ended c, s', some ((p.fate c).delivery c)⟩ := by
  have hrun := post_run line c number body t s
  rw [h] at hrun
  dsimp only at hrun
  have htime : ∀ deadline ∈ ctx.deadline, t < deadline ∧ ((post line c number body).run t s).time ≤ deadline := by
    intro deadline hd
    rw [hrun, ← (attempt_eq h).2.1]
    exact hin deadline hd
  rw [Context.run_whole htime, hrun]

/-- Under a deadline, too, a request is made at once. -/
theorem run_post_state {deadline : Nat} (hlive : t < deadline) (hmade : goesOut c = true) :
    (((Context.bounded deadline).run (post line c number body)).run t s).state = s' := by
  unfold attempt at h
  rw [if_pos hmade] at h
  cases h
  simp only [goesOut, Bool.and_eq_true, bne_iff_ne] at hmade
  have hpath : (request c number body).path?.isSome = true := hmade.1
  have haddress : (request c number body).path?.isNone = false := by simpa using hpath
  rw [Context.bounded, Context.run_before_deadline _ hlive]
  unfold post
  dsimp only
  rw [haddress, if_neg Bool.false_ne_true, if_neg hmade.2]
  exact Task.run_within_act (fun reply s => hear_keeps c _ reply s) _ t s

theorem run_post_cutOff {deadline : Nat} (hd : deadline ∈ ctx.deadline) (hlive : t < deadline)
    (hlate : deadline < p.ended c) : (ctx.run (post line c number body)).run t s = ⟨deadline, s', none⟩ := by
  have hctx : ctx = Context.bounded deadline := congrArg Context.mk hd
  subst hctx
  have hrun := post_run line c number body t s
  rw [h] at hrun
  have htime : deadline < ((post line c number body).run t s).time := by
    rw [hrun]
    exact hlate
  obtain ⟨hends, hcut⟩ := Context.run_cutOff hlive htime
  obtain ⟨-, hbegan, hsome⟩ := attempt_eq h
  have hstate : (((Context.bounded deadline).run (post line c number body)).run t s).state = s' := by
    cases hmade : goesOut c with
    | true => exact run_post_state h hlive hmade
    | false =>
      -- where no request is made there is nothing to wait for
      rw [hmade, Option.isSome_eq_false_iff, Option.isNone_iff_eq_none] at hsome
      simp only [Posting.ended, Posting.took, hsome, hbegan] at hlate
      omega
  generalize ((Context.bounded deadline).run (post line c number body)).run t s = e at hends hcut hstate ⊢
  obtain ⟨time, state, value⟩ := e
  cases hends
  cases hcut
  cases hstate
  rfl

end

end Passcode.Twilio
