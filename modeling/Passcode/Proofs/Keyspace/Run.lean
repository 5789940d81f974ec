/-
  Passcode.Proofs.Keyspace.Run — codes, limiters and revoked sessions on one keyspace.

  A run is a list of calls of whatever kind, each made at its time by some client; the clients share the
  key space of their settings and nothing else of them, so every code store and every limiter may have
  a policy of its own. A call is about one name (`Call.name`), and local to the key of that name.

  Three families of names are in use: of codes, of channels, of sessions. Their beginnings tell them
  apart, and within the first one a scope that holds no colon tells what belongs to the recipient. Scopes
  and recipients that no check has seen could make one name in two ways.

  Proved: what the calls of a name are answered does not depend on the calls of other names
  (`history_at`); so those for a scope and a recipient are answered as if they were alone
  (`pairs_independent`).
-/

import Passcode.Proofs.Keyspace.Local

namespace Passcode.Keyspace

/-! ## Calls -/

inductive Call where
  | store (c : CodeSettings) (scope recipient code : String)
  | verify (c : CodeSettings) (scope recipient input : String)
  /-- The limiter counts the call under a name that it makes. -/
  | limit (c : RateSettings) (key member : String)
  | markRevoked (session : String) (seconds : Nat)
  | isRevoked (session : String)
  deriving DecidableEq

inductive Answer where
  | stored (result : Except CodeFault Unit)
  | verified (result : Except CodeFault Verdict)
  | limited (result : Except LimitFault Bool)
  | marked (result : Except Fault Unit)
  | found (result : Except Fault Bool)

/-- A call that was made, and how it was answered. -/
structure Event where
  time : Nat
  call : Call
  answer : Answer

namespace Call

/-- The name that a call is about. -/
def name : Call → String
  | store _ scope recipient _ | verify _ scope recipient _ => codeKey scope recipient
  | limit _ key _ => key
  | markRevoked session _ | isRevoked session => revocationKey session

/-- Whether a call is about the code of a recipient for a scope. -/
def isFor (scope recipient : String) : Call → Bool
  | store _ s r _ | verify _ s r _ => s = scope && r = recipient
  | _ => false

/-- Makes a call, on a server whose clock is `epoch` ahead. -/
def perform (settings : CacheSettings) (epoch : Nat) : Call → Task Keyspace Answer
  | store c scope recipient code => .stored <$> (sharedCodes c settings epoch (pure "")).store scope recipient code
  | verify c scope recipient input =>
    .verified <$> (sharedCodes c settings epoch (pure "")).verify scope recipient input
  | limit c key member => .limited <$> (Client.direct settings epoch (pure member)).limiter c key
  | markRevoked session seconds =>
    .marked <$> (Client.direct settings epoch (pure "")).repository.markRevoked session seconds
  | isRevoked session => .found <$> (Client.direct settings epoch (pure "")).repository.isRevoked session

/-- A call reads and changes the key of its name only. -/
theorem perform_local (settings : CacheSettings) (epoch : Nat) (call : Call) :
    LocalTask (settings.key call.name) (call.perform settings epoch) := by
  cases call with
  | store c scope recipient code =>
    exact ((script_local settings epoch (pure "") fun _ => (issue_local ..).scriptReply).map _).map _
  | verify c scope recipient input =>
    exact ((script_local settings epoch (pure "") fun _ => (verify_local ..).scriptReply).map _).map _
  | limit c key member =>
    refine LocalTask.map ?_ _
    refine (localTask_pure member).bind fun made => ?_
    refine (script_local settings epoch (pure member) fun _ => (window_local ..).scriptReply).bind fun reply => ?_
    cases reply with
    | ok n => exact localTask_pure _
    | error e => exact localTask_pure _
  | markRevoked session seconds =>
    refine LocalTask.map ?_ _
    exact (command_local settings epoch (pure "") (fun _ => setex_local ..) _).bind fun _ => localTask_pure _
  | isRevoked session =>
    refine LocalTask.map ?_ _
    exact (command_local settings epoch (pure "") (fun _ => exists_local) _).bind fun _ => localTask_pure _

end Call

/-! ## Runs -/

section Runs

variable (settings : CacheSettings) (epoch : Nat)

/-- The calls of a run, each with its answer. -/
def history : Keyspace → List (Nat × Call) → List Event
  | _, [] => []
  | k, (t, call) :: rest =>
    let r := (call.perform settings epoch).run t k
    ⟨t, call, r.value⟩ :: history r.state rest

variable {k l : Keyspace}

/-- A history tells of the calls of its run only. -/
theorem mem_history {e : Event} {calls : List (Nat × Call)} (he : e ∈ history settings epoch k calls) :
    ∃ c ∈ calls, e.call = c.2 := by
  induction calls generalizing k with
  | nil => cases he
  | cons c calls ih =>
    rcases List.mem_cons.mp he with rfl | he
    · exact ⟨c, List.mem_cons_self, rfl⟩
    · obtain ⟨c', hc', hcall⟩ := ih he
      exact ⟨c', List.mem_cons_of_mem _ hc', hcall⟩

/-- On two keyspaces in which the key of a name holds the same, the calls of that name are answered the same,
    with the calls of other names between them or without. -/
theorem history_at {name : String} (hs : SameAt (settings.key name) k l) (calls : List (Nat × Call)) :
    (history settings epoch k calls).filter (fun e => e.call.name = name) =
      history settings epoch l (calls.filter fun c => c.2.name = name) := by
  induction calls generalizing k l with
  | nil => rfl
  | cons c calls ih =>
    obtain ⟨t, call⟩ := c
    have hlocal := call.perform_local settings epoch t
    by_cases hname : call.name = name
    · subst hname
      obtain ⟨hend, hstate⟩ := hlocal.ends hs
      have hanswer := (Prod.mk.inj hend).2
      simp only [history, List.filter_cons, decide_true, if_true]
      rw [hanswer, ih hstate]
    · -- the call leaves what the key of the name holds, so only the run on `k` makes it
      have hne : settings.key name ≠ settings.key call.name := fun h => hname (settings.key_inj h).symm
      have hstill := (hlocal.others k).sameAt hne
      simp only [history, List.filter_cons, hname, decide_false, Bool.false_eq_true, if_false]
      exact ih (hstill.trans hs)

end Runs

/-! ## Names -/

/-- The calls that the services make: with scopes and recipients that were checked, and for the channels that
    messages are sent on. -/
def Call.Admitted : Call → Prop
  | store _ scope recipient _ | verify _ scope recipient _ => ∃ text, CodeService.check scope text = .ok recipient
  | limit _ key _ => ∃ d : DeliverySettings, key = d.channelKey
  | markRevoked .. | isRevoked .. => True

theorem normalize_of_check {scope text recipient : String} (h : CodeService.check scope text = .ok recipient) :
    Phone.normalize text = recipient := (CodeService.check_eq_ok.mp h).2.2.symm

theorem codeKey_ne_channelKey (scope recipient : String) (d : DeliverySettings) :
    codeKey scope recipient ≠ d.channelKey := by
  intro h
  have hfirst := congrArg (fun s : String => s.toList.head?) h
  simp [codeKey, DeliverySettings.channelKey] at hfirst

theorem codeKey_ne_revocationKey (scope recipient session : String) :
    codeKey scope recipient ≠ revocationKey session := by
  intro h
  have hfirst := congrArg (fun s : String => s.toList.head?) h
  simp [codeKey, revocationKey] at hfirst

/-- An admitted call bears the name of a slot only when it is for its scope and recipient. -/
theorem Call.Admitted.name_eq {call : Call} (h : call.Admitted) (slot : CodeSlot) :
    call.name = slot.key ↔ call.isFor slot.scope slot.recipient = true := by
  have hcode : ∀ scope recipient, (∃ text, CodeService.check scope text = .ok recipient) →
      (codeKey scope recipient = slot.key ↔
        (decide (scope = slot.scope) && decide (recipient = slot.recipient)) = true) := by
    intro scope recipient hchecked
    rw [Bool.and_eq_true, decide_eq_true_eq, decide_eq_true_eq]
    constructor
    · intro hkey
      have hslot : (⟨scope, recipient, hchecked⟩ : CodeSlot) = slot := CodeSlot.key_inj hkey
      rw [← hslot]
      exact ⟨rfl, rfl⟩
    · rintro ⟨rfl, rfl⟩
      rfl
  cases call with
  | store c scope recipient code => exact hcode scope recipient h
  | verify c scope recipient input => exact hcode scope recipient h
  | limit c key member =>
    obtain ⟨d, rfl⟩ := h
    exact iff_of_false (codeKey_ne_channelKey slot.scope slot.recipient d).symm Bool.false_ne_true
  | markRevoked session _ | isRevoked session =>
    exact iff_of_false (codeKey_ne_revocationKey slot.scope slot.recipient session).symm Bool.false_ne_true

/-- For every key space, every keyspace to begin with and every run of admitted calls: the calls for a scope and a
    recipient are answered as in the run that is left when all other calls are taken out and the times stay.
    Two such pairs have one key only if they have one scope and one normal form of the recipient. -/
theorem pairs_independent (settings : CacheSettings) (epoch : Nat) (k : Keyspace) (calls : List (Nat × Call))
    (admitted : ∀ c ∈ calls, c.2.Admitted) {scope text recipient : String}
    (checked : CodeService.check scope text = .ok recipient) :
    (history settings epoch k calls).filter (fun e => e.call.isFor scope recipient) =
      history settings epoch k (calls.filter fun c => c.2.isFor scope recipient) ∧
    ∀ scope' text' recipient', CodeService.check scope' text' = .ok recipient' →
      settings.key (codeKey scope' recipient') = settings.key (codeKey scope recipient) →
      scope' = scope ∧ Phone.normalize text' = Phone.normalize text := by
  constructor
  · have hname : ∀ call : Call, call.Admitted →
        decide (call.name = codeKey scope recipient) = call.isFor scope recipient := by
      intro call hcall
      rw [Bool.eq_iff_iff, decide_eq_true_eq]
      exact hcall.name_eq ⟨scope, recipient, text, checked⟩
    have hcalls : calls.filter (fun c => c.2.name = codeKey scope recipient) =
        calls.filter fun c => c.2.isFor scope recipient :=
      List.filter_congr fun c hc => hname c.2 (admitted c hc)
    have hevents : (history settings epoch k calls).filter (fun e => e.call.name = codeKey scope recipient) =
        (history settings epoch k calls).filter fun e => e.call.isFor scope recipient := by
      refine List.filter_congr fun e he => hname e.call ?_
      obtain ⟨c, hc, hcall⟩ := mem_history settings epoch he
      rw [hcall]
      exact admitted c hc
    rw [← hevents, ← hcalls]
    exact history_at settings epoch rfl calls
  · intro scope' text' recipient' checked' hkey
    have hslots : (⟨scope', recipient', text', checked'⟩ : CodeSlot) = ⟨scope, recipient, text, checked⟩ :=
      CodeSlot.key_inj (settings.key_inj hkey)
    obtain ⟨rfl, rfl⟩ := CodeSlot.mk.inj hslots
    exact ⟨rfl, (normalize_of_check checked').trans (normalize_of_check checked).symm⟩

/-- Codes for two scopes are issued to one recipient, the channel is limited, a session is revoked. -/
def mixedCalls : List (Nat × Call) :=
  [(0, .store {} "login" "+15550100" "123456"), (10, .store {} "reset" "+15550100" "654321"),
    (20, .limit {} "sms:default" "a"), (30, .verify {} "reset" "+15550100" "123456"),
    (40, .markRevoked "login:+15550100" 60), (50, .verify {} "login" "+15550100" "123456")]

theorem pairs_independent_sample :
    (∀ c ∈ mixedCalls, c.2.Admitted) ∧ CodeService.check "login" "+1 (555) 0100" = .ok "+15550100" ∧
    ((history {} 0 {} mixedCalls).filter fun e => e.call.isFor "login" "+15550100").map Event.answer =
      [.stored (.ok ()), .verified (.ok .matched)] := by
  have hlogin : CodeService.check "login" "+1 (555) 0100" = .ok "+15550100" := by decide +kernel
  have hreset : CodeService.check "reset" "+1 (555) 0100" = .ok "+15550100" := by decide +kernel
  have admitted : ∀ c ∈ mixedCalls, c.2.Admitted := by
    simp only [mixedCalls, List.forall_mem_cons, List.not_mem_nil, false_implies, implies_true, and_true]
    exact ⟨⟨_, hlogin⟩, ⟨_, hreset⟩, ⟨{}, rfl⟩, ⟨_, hreset⟩, trivial, ⟨_, hlogin⟩⟩
  refine ⟨admitted, hlogin, ?_⟩
  rw [(pairs_independent {} 0 {} mixedCalls admitted hlogin).1]
  rfl

end Passcode.Keyspace
