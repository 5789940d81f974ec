/-
  Passcode.Proofs.Code.Delivery — what a code service asks of its store and its sender for a new code.

  The store comes first, under the caller's deadline, and the sender is called only when the store has
  accepted the code; the two are told the same code and the same normal form of the recipient. Here both
  note when they are called and what they answer, which changes nothing that they do (`noted_run`).

  Proved: the ways a send can go, by what is noted (`SendCourse`), and from them what is promised of every
  send, whatever the store and the sender do (`SendCourse.ordered`).
-/

import Passcode.Proofs.Code.History
import Passcode.Proofs.Logged

namespace Passcode

/-! ## Codes -/

namespace Entropy

theorem length_code (fresh : Entropy) (length : Nat) : (fresh.code length).length = length := by
  simp [code]

theorem isDigit_of_mem_code (fresh : Entropy) {length : Nat} {c : Char} (h : c ∈ (fresh.code length).toList) :
    Text.isDigit c = true := by
  have hdigits : ∀ n : Fin 10, Text.isDigit (Nat.digitChar n) = true := by decide
  simp only [code, String.toList_ofList, List.mem_map] at h
  obtain ⟨i, -, rfl⟩ := h
  exact hdigits ⟨_, Nat.mod_lt _ (by decide)⟩

end Entropy

/-! ## What store and sender notice -/

inductive Errand where
  | asked (scope recipient code : String)
  | stored (result : Except CodeFault Unit)
  | handed (ctx : Context) (message : Message)
  | sent (result : Delivery)

def Errand.isHanded : Errand → Bool
  | handed .. => true
  | _ => false

def Errand.isAsked : Errand → Bool
  | asked .. => true
  | _ => false

variable {σ : Type}

def CodeStore.noted (store : CodeStore σ) : CodeStore (Logged Errand σ) where
  store scope recipient code := Logged.around (fun _ => .asked scope recipient code) (fun result _ => .stored result)
    (store.store scope recipient code)
  verify scope recipient input := Logged.lift (store.verify scope recipient input)

def Sender.noted (sender : Sender σ) : Sender (Logged Errand σ) := fun ctx message =>
  Logged.around (fun _ => .handed ctx message) (fun result _ => .sent result) (sender ctx message)

namespace CodeService

variable (service : CodeService σ)

def noted : CodeService (Logged Errand σ) := ⟨service.store.noted, service.sender.noted, service.settings⟩

/-! ## The ways a send can go -/

/-- The message that delivers a code. -/
def message (recipient code : String) : Message :=
  ⟨service.settings.templateId, [{ name := "code", value := code }], [recipient]⟩

def receipt : CodeReceipt := ⟨service.settings.expirySeconds, service.settings.resendCooldownSeconds⟩

/-- What the caller hears when the sender has answered. -/
def outcome : Delivery → Except Fault CodeReceipt
  | .ok () => .ok service.receipt
  | .error fault => .error (.send fault)

/-- What the store answers before the caller gives up. -/
def heard (code : String) (ctx : Context) (scope recipient : String) (t : Nat) (s : σ) :
    Option (Except CodeFault Unit) :=
  ((ctx.run (service.store.store scope recipient code)).run t s).value

/-- What is noted in a send that begins at a time, and what the caller hears. -/
inductive SendCourse (code : String) (ctx : Context) (scope text : String) (t : Nat) (s : σ) :
    List Errand → Except Fault CodeReceipt → Prop where
  | invalid {fault : Fault} (h : check scope text = .error fault) :
      SendCourse code ctx scope text t s [] (.error fault)
  | late {recipient : String} (h : check scope text = .ok recipient) (hexpired : ctx.isExpired t = true) :
      SendCourse code ctx scope text t s [] (.error .deadlineExceeded)
  | cutOff {recipient : String} (h : check scope text = .ok recipient) (hlive : ctx.isExpired t = false)
      (hcut : service.heard code ctx scope recipient t s = none) :
      SendCourse code ctx scope text t s [.asked scope recipient code] (.error .deadlineExceeded)
  | refused {recipient : String} (h : check scope text = .ok recipient) (hlive : ctx.isExpired t = false)
      {fault : CodeFault} (hheard : service.heard code ctx scope recipient t s = some (.error fault)) :
      SendCourse code ctx scope text t s [.asked scope recipient code, .stored (.error fault)] (.error (.code fault))
  | handed {recipient : String} (h : check scope text = .ok recipient) (hlive : ctx.isExpired t = false)
      (hheard : service.heard code ctx scope recipient t s = some (.ok ())) (result : Delivery) :
      SendCourse code ctx scope text t s
        [.asked scope recipient code, .stored (.ok ()), .handed ctx (service.message recipient code), .sent result]
        (service.outcome result)

variable {fresh : Entropy} {ctx : Context} {scope text recipient : String} {t : Nat}

/-- What a send does with the answer of the sender takes no time and changes nothing. -/
theorem outcome_run (b : Task.End σ Delivery) : (match b.value with
      | .error fault => (return .error (.send fault) : Task σ (Except Fault CodeReceipt))
      | .ok () => return .ok service.receipt).run b.time b.state = ⟨b.time, b.state, service.outcome b.value⟩ := by
  rcases b with ⟨time, state, fault | ⟨⟩⟩ <;> rfl

/-- A send of what was checked: the store, and the sender if the store has accepted. -/
theorem send_run (h : check scope text = .ok recipient) (s : σ) : (service.send fresh ctx scope text).run t s =
    let code := fresh.code service.settings.codeLength
    let a := (ctx.run (service.store.store scope recipient code)).run t s
    match answer a.value with
    | .error fault => ⟨a.time, a.state, .error fault⟩
    | .ok () =>
      let b := (service.sender ctx (service.message recipient code)).run a.time a.state
      ⟨b.time, b.state, service.outcome b.value⟩ := by
  simp only [send, h, Task.run_bind]
  cases answer ((ctx.run (service.store.store scope recipient
    (fresh.code service.settings.codeLength))).run t s).value with
  | error fault => rfl
  | ok stored =>
    simp only [Task.run_bind]
    exact service.outcome_run _

theorem send_invalid {fault : Fault} (h : check scope text = .error fault) (t : Nat) (s : σ) :
    (service.send fresh ctx scope text).run t s = ⟨t, s, .error fault⟩ := by
  simp only [send, h]
  rfl

/-- Store and sender do what they do when they note nothing, and what they note goes one of these ways. -/
theorem noted_run (fresh : Entropy) (ctx : Context) (scope text : String) (t : Nat) (s : σ) :
    let e := (service.send fresh ctx scope text).run t s
    ∃ log, (service.noted.send fresh ctx scope text).run t ⟨s, []⟩ = ⟨e.time, ⟨e.state, log⟩, e.value⟩ ∧
      service.SendCourse (fresh.code service.settings.codeLength) ctx scope text t s log e.value := by
  cases h : check scope text with
  | error fault =>
    rw [service.send_invalid h, service.noted.send_invalid h]
    exact ⟨[], rfl, .invalid h⟩
  | ok recipient =>
    rw [service.send_run h, service.noted.send_run h]
    cases hexpired : ctx.isExpired t with
    | true =>
      simp only [Context.run_expired _ _ _ _ hexpired]
      exact ⟨[], rfl, .late h hexpired⟩
    | false =>
      obtain ⟨code, hcode⟩ : ∃ code, fresh.code service.settings.codeLength = code := ⟨_, rfl⟩
      have hcode' : fresh.code service.noted.settings.codeLength = code := hcode
      obtain ⟨t', s', o, hasked⟩ : ∃ t' s' o,
        (ctx.run (service.store.store scope recipient code)).run t s = ⟨t', s', o⟩ := ⟨_, _, _, rfl⟩
      have hnoted : (ctx.run (service.noted.store.store scope recipient code)).run t ⟨s, []⟩ =
          ⟨t', ⟨s', .asked scope recipient code :: (o.map .stored).toList⟩, o⟩ := by
        refine (Logged.around_context_run _ _ _ hexpired _).trans ?_
        rw [hasked]
        rfl
      simp only [hcode, hcode', hasked, hnoted]
      -- the deadline came first, or the store refused, or it is the sender's turn
      rcases o with _ | fault | ⟨⟩
      · exact ⟨_, rfl, .cutOff h hexpired (congrArg Task.End.value hasked)⟩
      · exact ⟨_, rfl, .refused h hexpired (congrArg Task.End.value hasked)⟩
      · have hsent : (service.noted.sender ctx (service.message recipient code)).run t'
              ⟨s', [.asked scope recipient code, .stored (.ok ())]⟩ =
            let b := (service.sender ctx (service.message recipient code)).run t' s'
            ⟨b.time, ⟨b.state, [.asked scope recipient code, .stored (.ok ()),
              .handed ctx (service.message recipient code), .sent b.value]⟩, b.value⟩ := Logged.around_run _ _ _ _ _
        refine ⟨_, ?_, .handed h hexpired (congrArg Task.End.value hasked) _⟩
        exact congrArg (fun b => (⟨b.time, b.state, service.outcome b.value⟩ :
          Task.End (Logged Errand σ) (Except Fault CodeReceipt))) hsent

/-! ## What is promised -/

/-- Whether a caller hears from the sender. -/
def reaches : Except Fault CodeReceipt → Bool
  | .ok _ | .error (.send _) => true
  | _ => false

theorem reaches_outcome (result : Delivery) : reaches (service.outcome result) = true := by
  rcases result with fault | ⟨⟩ <;> rfl

theorem check_error {fault : Fault} (h : check scope text = .error fault) : ∃ why, fault = .validation why := by
  have hbind : check scope text = (checkScope scope >>= fun _ => checkRecipient text) := rfl
  rw [hbind, checkScope, checkRecipient] at h
  cases hs : isScope scope with
  | false =>
    rw [hs] at h
    cases h
    exact ⟨_, rfl⟩
  | true =>
    cases hr : Phone.isAddressable text with
    | false =>
      rw [hs, hr] at h
      cases h
      exact ⟨_, rfl⟩
    | true =>
      rw [hs, hr] at h
      cases h

/-- What is promised of a send that begins at a time, by what is noted in it and what the caller hears. -/
structure Ordered (code : String) (ctx : Context) (scope text : String) (t : Nat) (s : σ) (log : List Errand)
    (value : Except Fault CodeReceipt) : Prop where
  askedOnce : log.countP Errand.isAsked ≤ 1
  handedOnce : log.countP Errand.isHanded ≤ 1
  /-- The store is asked for nothing before the texts are checked, nor past the deadline. -/
  asked : ∀ scope' recipient code', .asked scope' recipient code' ∈ log →
    (isScope scope = true ∧ Phone.isAddressable text = true ∧ ctx.isExpired t = false) ∧
      scope' = scope ∧ recipient = Phone.normalize text ∧ code' = code
  /-- Else it is asked first, and is heard when it answers by the deadline. -/
  asks : ∀ recipient, check scope text = .ok recipient → ctx.isExpired t = false →
    ∃ rest, log = .asked scope recipient code :: rest
  hears : ∀ recipient, check scope text = .ok recipient →
    let kept := (service.store.store scope recipient code).run t s
    (∀ deadline ∈ ctx.deadline, t < deadline ∧ kept.time ≤ deadline) → .stored kept.value ∈ log
  /-- The sender is called when the store has accepted the code, with that code, for that recipient only. -/
  handed : ∀ before ctx' m later, log = before ++ .handed ctx' m :: later →
    before = [.asked scope (Phone.normalize text) code, .stored (.ok ())] ∧ ctx' = ctx ∧
      m = ⟨service.settings.templateId, [{ name := "code", value := code }], [Phone.normalize text]⟩
  hands : .stored (.ok ()) ∈ log → log.countP Errand.isHanded = 1
  invalid : ∀ fault, check scope text = .error fault → log = [] ∧ value = .error fault
  late : ∀ recipient, check scope text = .ok recipient → ctx.isExpired t = true →
    log = [] ∧ value = .error .deadlineExceeded
  cutOff : ∀ recipient, check scope text = .ok recipient → (∀ result, .stored result ∉ log) →
    log.countP Errand.isHanded = 0 ∧ value = .error .deadlineExceeded
  refused : ∀ fault, .stored (.error fault) ∈ log → log.countP Errand.isHanded = 0 ∧ value = .error (.code fault)
  answered : ∀ result, .sent result ∈ log → value = service.outcome result
  /-- The caller can tell whether the sender was called. -/
  reached : reaches value = true ↔ log.countP Errand.isHanded = 1

variable {service}

namespace SendCourse

variable {code : String} {s : σ} {log : List Errand} {value : Except Fault CodeReceipt}

theorem askedOnce (h : service.SendCourse code ctx scope text t s log value) : log.countP Errand.isAsked ≤ 1 := by
  cases h with
  | invalid | late => exact Nat.zero_le 1
  | cutOff | refused | handed => exact Nat.le_refl 1

theorem handedOnce (h : service.SendCourse code ctx scope text t s log value) : log.countP Errand.isHanded ≤ 1 := by
  cases h with
  | invalid | late | cutOff | refused => exact Nat.zero_le 1
  | handed => exact Nat.le_refl 1

theorem asked (h : service.SendCourse code ctx scope text t s log value) {scope' code' : String}
    (hm : .asked scope' recipient code' ∈ log) :
    (isScope scope = true ∧ Phone.isAddressable text = true ∧ ctx.isExpired t = false) ∧
      scope' = scope ∧ recipient = Phone.normalize text ∧ code' = code := by
  cases h with
  | invalid | late => cases hm
  | cutOff hcheck hlive | refused hcheck hlive | handed hcheck hlive =>
    obtain ⟨hscope, hvalid, rfl⟩ := check_eq_ok.mp hcheck
    simp only [List.mem_cons, Errand.asked.injEq, reduceCtorEq, List.not_mem_nil, or_false] at hm
    exact ⟨⟨hscope, hvalid, hlive⟩, hm⟩

theorem asks (h : service.SendCourse code ctx scope text t s log value) (hcheck : check scope text = .ok recipient)
    (hlive : ctx.isExpired t = false) : ∃ rest, log = .asked scope recipient code :: rest := by
  cases h with
  | invalid hown => cases hcheck.symm.trans hown
  | late _ hexpired => cases hlive.symm.trans hexpired
  | cutOff hown | refused hown | handed hown =>
    cases hcheck.symm.trans hown
    exact ⟨_, rfl⟩

/-- What the store answers by the deadline is noted. -/
theorem hears (h : service.SendCourse code ctx scope text t s log value) (hcheck : check scope text = .ok recipient)
    (hin : ∀ deadline ∈ ctx.deadline, t < deadline ∧
      ((service.store.store scope recipient code).run t s).time ≤ deadline) :
    .stored ((service.store.store scope recipient code).run t s).value ∈ log := by
  have hheard : service.heard code ctx scope recipient t s =
      some ((service.store.store scope recipient code).run t s).value := Context.run_in_time hin
  cases h with
  | invalid hown => cases hcheck.symm.trans hown
  | late hown hexpired =>
    cases hcheck.symm.trans hown
    rw [heard, Context.run_expired _ _ _ _ hexpired] at hheard
    cases hheard
  | cutOff hown _ hcut =>
    cases hcheck.symm.trans hown
    cases hcut.symm.trans hheard
  | refused hown _ hother | handed hown _ hother =>
    cases hcheck.symm.trans hown
    rw [← Option.some.inj (hother.symm.trans hheard)]
    simp

theorem hands (h : service.SendCourse code ctx scope text t s log value) (hm : .stored (.ok ()) ∈ log) :
    log.countP Errand.isHanded = 1 := by
  cases h with
  | invalid | late | cutOff | refused => simp at hm
  | handed => rfl

theorem handed_after (h : service.SendCourse code ctx scope text t s log value) {before later : List Errand}
    {ctx' : Context} {m : Message} (hsplit : log = before ++ .handed ctx' m :: later) :
    before = [.asked scope (Phone.normalize text) code, .stored (.ok ())] ∧ ctx' = ctx ∧
      m = ⟨service.settings.templateId, [{ name := "code", value := code }], [Phone.normalize text]⟩ := by
  have hm : .handed ctx' m ∈ log := by simp [hsplit]
  cases h with
  | invalid | late | cutOff | refused => simp at hm
  | handed hcheck =>
    obtain ⟨-, -, rfl⟩ := check_eq_ok.mp hcheck
    -- the only call of the sender is the third thing noted
    rcases before with _ | ⟨first, _ | ⟨second, _ | ⟨third, before⟩⟩⟩
    · simp at hsplit
    · simp at hsplit
    · simp only [List.cons_append, List.nil_append, List.cons.injEq, Errand.handed.injEq] at hsplit
      obtain ⟨rfl, rfl, ⟨rfl, rfl⟩, -⟩ := hsplit
      exact ⟨rfl, rfl, rfl⟩
    · simp only [List.cons_append, List.cons.injEq] at hsplit
      cases before <;> simp at hsplit

theorem of_invalid (h : service.SendCourse code ctx scope text t s log value) {fault : Fault}
    (hcheck : check scope text = .error fault) : log = [] ∧ value = .error fault := by
  cases h with
  | invalid hown =>
    cases hcheck.symm.trans hown
    exact ⟨rfl, rfl⟩
  | late hown | cutOff hown | refused hown | handed hown => cases hcheck.symm.trans hown

theorem of_late (h : service.SendCourse code ctx scope text t s log value) (hcheck : check scope text = .ok recipient)
    (hexpired : ctx.isExpired t = true) : log = [] ∧ value = .error .deadlineExceeded := by
  cases h with
  | invalid hown => cases hcheck.symm.trans hown
  | late => exact ⟨rfl, rfl⟩
  | cutOff _ hlive | refused _ hlive | handed _ hlive => cases hexpired.symm.trans hlive

theorem of_cutOff (h : service.SendCourse code ctx scope text t s log value) (hcheck : check scope text = .ok recipient)
    (hcut : ∀ result, .stored result ∉ log) :
    log.countP Errand.isHanded = 0 ∧ value = .error .deadlineExceeded := by
  cases h with
  | invalid hown => cases hcheck.symm.trans hown
  | late | cutOff => exact ⟨rfl, rfl⟩
  | @refused _ _ _ fault => exact absurd (by simp) (hcut (.error fault))
  | handed => exact absurd (by simp) (hcut (.ok ()))

theorem of_refused (h : service.SendCourse code ctx scope text t s log value) {fault : CodeFault}
    (hrefused : .stored (.error fault) ∈ log) :
    log.countP Errand.isHanded = 0 ∧ value = .error (.code fault) := by
  cases h with
  | invalid | late | cutOff | handed => simp at hrefused
  | refused =>
    simp only [List.mem_cons, Errand.stored.injEq, Except.error.injEq, reduceCtorEq, List.not_mem_nil, or_false,
      false_or] at hrefused
    rw [hrefused]
    exact ⟨rfl, rfl⟩

theorem answered (h : service.SendCourse code ctx scope text t s log value) {result : Delivery}
    (hm : .sent result ∈ log) : value = service.outcome result := by
  cases h with
  | invalid | late | cutOff | refused => simp at hm
  | handed =>
    simp only [List.mem_cons, Errand.sent.injEq, reduceCtorEq, List.not_mem_nil, or_false, false_or] at hm
    rw [hm]

theorem reached (h : service.SendCourse code ctx scope text t s log value) :
    reaches value = true ↔ log.countP Errand.isHanded = 1 := by
  cases h with
  | invalid hcheck =>
    obtain ⟨why, rfl⟩ := check_error hcheck
    exact ⟨nofun, nofun⟩
  | late | cutOff | refused => exact ⟨nofun, nofun⟩
  | handed _ _ _ result => exact ⟨fun _ => rfl, fun _ => service.reaches_outcome result⟩

theorem ordered (h : service.SendCourse code ctx scope text t s log value) :
    service.Ordered code ctx scope text t s log value where
  askedOnce := h.askedOnce
  handedOnce := h.handedOnce
  asked _ _ _ := h.asked
  asks _ := h.asks
  hears _ := h.hears
  handed _ _ _ _ := h.handed_after
  hands := h.hands
  invalid _ := h.of_invalid
  late _ := h.of_late
  cutOff _ := h.of_cutOff
  refused _ := h.of_refused
  answered _ := h.answered
  reached := h.reached

end SendCourse

end CodeService

end Passcode
