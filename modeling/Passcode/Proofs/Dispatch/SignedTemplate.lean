/-
  Passcode.Proofs.Dispatch.SignedTemplate — which template a signed template id opens, and until when.

  A template id is signed with an expiry or without. Tokens say when they expire as a count of seconds since
  1970, and a number that is no count says nothing: a template id whose expiry lies before 1970 opens for
  ever (`negative_expiry_opens`).

  Proved: what was signed for a template names that template again, with the same secret and whatever its
  text (`authorize_signTemplate`); and a sender that takes signed template ids hands a message on exactly
  while the expiry, if there is one and it is no negative number, is not over (`signed_template_opens`).
-/

import Passcode.Proofs.Dispatch.Schedule
import Passcode.Proofs.Token.Claims
import Passcode.Proofs.Token.Signed

namespace Passcode.Dispatch

open Json (Fits)

/-- Only an expiry that is no negative number is ever over. -/
theorem authorize_signTemplate {expiry : Option Int} (he : ∀ e ∈ expiry, Fits e) (secret template : String)
    (now : Int) : authorize secret (signTemplate secret template expiry) now =
      if ∃ e ∈ expiry, 0 ≤ e ∧ e < now then .error (.unauthorized "ExpiredSignature")
      else if template = "" then .error (.unauthorized "empty template claim") else .ok template := by
  have hread := Token.read_sign ⟨secret, .checked, none⟩ now TemplateClaims.ofJson?
    (isPlain_template ⟨template, expiry⟩)
  rw [ofJson?_template he, registered_template he] at hread
  have hcheck : Token.Rules.check ⟨secret, .checked, none⟩ now
      ⟨expiry.bind fun e => if 0 ≤ e then some e.toNat else none, none, false⟩ =
        if ∃ e ∈ expiry, 0 ≤ e ∧ e < now then .error .expired else .ok () := by
    cases expiry with
    | none => simp [Token.Rules.check]
    | some e =>
      by_cases h0 : 0 ≤ e
      · have hsame : (e.toNat : Int) = e := Int.toNat_of_nonneg h0
        simp only [Token.Rules.check, Option.bind_some, h0, if_true]
        simp [hsame, h0]
      · simp [Token.Rules.check, h0]
  rw [authorize, signTemplate, hread]
  dsimp only
  rw [hcheck]
  by_cases hover : ∃ e ∈ expiry, 0 ≤ e ∧ e < now
  · rw [if_pos hover, if_pos hover]
    rfl
  · rw [if_neg hover, if_neg hover]
    rfl

section
variable {σ : Type} {clock : σ → Int} {secret : String} {sender : Sender σ} {ctx : Context} {message : Message}
  {t : Nat} {s : σ}

theorem authorized_ok {template : String} (h : authorize secret message.template (clock s) = .ok template) :
    (authorized clock secret sender ctx message).run t s = (sender ctx { message with template }).run t s := by
  simp only [authorized, Task.gets, Task.act, Task.run_bind, Task.run_step, Task.run_done, h]

theorem authorized_error {fault : SendFault} (h : authorize secret message.template (clock s) = .error fault) :
    (authorized clock secret sender ctx message).run t s = ⟨t, s, .error fault⟩ := by
  simp only [authorized, Task.gets, Task.act, Task.run_bind, Task.run_step, Task.run_done, h, Task.run_pure]

end

variable {σ : Type}

/-- For every secret, template id and expiry, and whatever is sent through it: a sender that takes template ids
    signed with the secret calls the sender inside once, at once and with the template itself, and answers as it
    does, when there is no expiry, when the expiry has not passed by the second of the call, and when it is
    negative. Otherwise it refuses the template id, calls nobody and changes nothing. The notes of calls
    change nothing either. -/
theorem signed_template_opens (clock : σ → Int) (secret : String) {template : String} (hne : template ≠ "")
    {expiry : Option Int} (he : ∀ e ∈ expiry, Fits e) (sender : Sender σ) (ctx : Context)
    (arguments : List Argument) (recipients : List String) (t : Nat) (s : σ) :
    let message : Message := ⟨signTemplate secret template expiry, arguments, recipients⟩
    let noted := (authorized (fun x => clock x.inner) secret sender.timed ctx message).run t ⟨s, []⟩
    let inside := (sender ctx ⟨template, arguments, recipients⟩).run t s
    ((∀ e ∈ expiry, clock s ≤ e ∨ e < 0) →
      noted = ⟨inside.time, ⟨inside.state, [⟨ctx, ⟨template, arguments, recipients⟩, t, inside.time, inside.value⟩]⟩,
        inside.value⟩) ∧
    ((∃ e ∈ expiry, 0 ≤ e ∧ e < clock s) → noted = ⟨t, ⟨s, []⟩, .error (.unauthorized "ExpiredSignature")⟩) ∧
    (authorized clock secret sender ctx message).run t s = ⟨noted.time, noted.state.inner, noted.value⟩ := by
  intro message noted inside
  have hauth := authorize_signTemplate he secret template (clock s)
  by_cases hover : ∃ e ∈ expiry, 0 ≤ e ∧ e < clock s
  · rw [if_pos hover] at hauth
    have hnoted : noted = ⟨t, ⟨s, []⟩, .error (.unauthorized "ExpiredSignature")⟩ := authorized_error hauth
    refine ⟨?_, fun _ => hnoted, ?_⟩
    · intro hlive
      obtain ⟨e, hmem, h0, hlate⟩ := hover
      have := hlive e hmem
      omega
    · rw [hnoted]
      exact authorized_error hauth
  · rw [if_neg hover, if_neg hne] at hauth
    have hnoted : noted = (sender.timed ctx ⟨template, arguments, recipients⟩).run t ⟨s, []⟩ := authorized_ok hauth
    rw [sender.timed_run] at hnoted
    refine ⟨fun _ => hnoted, ?_, ?_⟩
    · intro hlate
      exact absurd hlate hover
    · rw [hnoted]
      exact authorized_ok hauth

/-- A sender that takes every message. -/
def accepting : Sender Unit := fun _ _ => return .ok ()

/-- A message whose template was signed with an expiry. -/
def signedMessage (expiry : Int) : Message :=
  ⟨signTemplate "template-secret" "verify_code" (some expiry), [], ["+15550001"]⟩

/-- A template id that is signed up to a second opens in that second, and not in the next. -/
theorem signed_template_opens_sample :
    "verify_code" ≠ "" ∧ Fits 1700000000 ∧
    (authorized (fun _ => 1700000000) "template-secret" accepting.timed .unbounded
      (signedMessage 1700000000)).run 0 ⟨(), []⟩ =
        ⟨0, ⟨(), [⟨.unbounded, ⟨"verify_code", [], ["+15550001"]⟩, 0, 0, .ok ()⟩]⟩, .ok ()⟩ ∧
    (authorized (fun _ => 1700000001) "template-secret" accepting.timed .unbounded
      (signedMessage 1700000000)).run 0 ⟨(), []⟩ = ⟨0, ⟨(), []⟩, .error (.unauthorized "ExpiredSignature")⟩ := by
  have hne : "verify_code" ≠ "" := by decide
  have hfits : Fits 1700000000 := by decide
  have hexpiry : ∀ e ∈ some (1700000000 : Int), Fits e := by simpa using hfits
  have hopens (now : Int) := signed_template_opens (fun _ : Unit => now) "template-secret" hne hexpiry accepting
    .unbounded [] ["+15550001"] 0 ()
  refine ⟨hne, hfits, ?_, ?_⟩
  · exact (hopens 1700000000).1 (by simp)
  · exact (hopens 1700000001).2.1 ⟨1700000000, rfl, by decide, by decide⟩

/-- A template id whose expiry is negative is not refused, in any second since 1970. -/
theorem negative_expiry_opens :
    (authorized (fun _ => 1700000000) "template-secret" accepting.timed .unbounded (signedMessage (-1))).run 0
      ⟨(), []⟩ = ⟨0, ⟨(), [⟨.unbounded, ⟨"verify_code", [], ["+15550001"]⟩, 0, 0, .ok ()⟩]⟩, .ok ()⟩ := by
  have hexpiry : ∀ e ∈ some (-1 : Int), Fits e := by
    intro e he
    cases he
    decide
  have hauth : authorize "template-secret" (signedMessage (-1)).template 1700000000 = .ok "verify_code" := by
    rw [signedMessage, authorize_signTemplate hexpiry, if_neg (by simp), if_neg (by decide)]
  refine Eq.trans (authorized_ok hauth) ?_
  rfl

end Passcode.Dispatch
