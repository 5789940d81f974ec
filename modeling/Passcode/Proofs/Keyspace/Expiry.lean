/-
  Passcode.Proofs.Keyspace.Expiry — no call leaves a key without an expiry.

  Codes, limiters and revocations share a keyspace, and their names may collide. Each of the requests that
  they make gives an expiry to the key that it writes, in the same step, or keeps the one that was there,
  or stops before it writes; the command that sets the expiry does not fail as long as the server can
  represent the end of the lifetime (`serve_fleeting`). So it does not matter how the steps of several
  calls fall between each other, which requests are lost on their way, sent again or answered too late,
  or who gives up in between (`Bustle`).

  Proved: a keyspace in which every key has an expiry stays one under every such run, and no store hears
  that the record it finds has none (`no_immortal_key`).
-/

import Passcode.Proofs.Keyspace.Run
import Passcode.Proofs.Keyspace.Site
import Passcode.Proofs.Limit.Shared

namespace Passcode.Keyspace

/-- Every key has an expiry. -/
def Fleeting (k : Keyspace) : Prop := ∀ key h, k.holdings.get? key = some h → h.expiresAt ≠ none

namespace Fleeting

variable {k k' : Keyspace} {now : Int} {key : String}

/-- A key without an expiry never goes, so it does not matter when one looks for it. -/
theorem iff_ttl (now : Int) : Fleeting k ↔ ∀ key, k.ttl now key ≠ -1 := by
  constructor
  · intro hk key
    unfold ttl
    cases hg : k.get? now key with
    | none => simp
    | some h =>
      obtain ⟨value, _ | e⟩ := h
      · exact absurd rfl (hk key _ (Option.filter_eq_some_iff.mp hg).1)
      · have hlive : now ≤ e := live_of_get? hg e rfl
        simp only
        omega
  · rintro hk key ⟨value, expiry⟩ hg rfl
    have hlive : k.get? now key = some ⟨value, none⟩ := by
      simp [get?, hg, Option.filter, live_unbounded]
    exact hk key (by simp [ttl, hlive])

/-- Only what one key holds is to be looked at. -/
theorem of_onlyAt (hk : Fleeting k) (ho : OnlyAt key k k')
    (own : ∀ h, k'.holdings.get? key = some h → h.expiresAt ≠ none) : Fleeting k' := by
  intro key' h hg
  by_cases hkey : key' = key
  · subst hkey
    exact own h hg
  · exact hk key' h ((ho key' hkey) ▸ hg)

theorem put (hk : Fleeting k) (key : String) {h : Holding} (he : h.expiresAt ≠ none) : Fleeting (k.put key h) := by
  refine hk.of_onlyAt (onlyAt_put key k h) fun h' hg => ?_
  rw [holdings_put, Table.get?_insert_self, Option.some.injEq] at hg
  exact hg ▸ he

theorem delete (hk : Fleeting k) (key : String) : Fleeting (k.delete key) := by
  refine hk.of_onlyAt (onlyAt_delete key k) fun h hg => ?_
  simp [Table.get?_erase] at hg

/-! ## Scripts -/

/-- The issue script finds an expiry on what it replaces, and sets one on what it writes. -/
theorem issue (hk : Fleeting k) (code : String) (attempts : Int) (expiry threshold : Nat) (hn : 0 ≤ now)
    (hr : now + expiry * 1000 ≤ lastInstant) :
    Fleeting (issueScript now key code attempts expiry threshold k).2 ∧
      (issueScript now key code attempts expiry threshold k).1 ≠ .ok (-2) := by
  rw [issue_eq _ _ _ _ _ _ k hn, if_neg ((iff_ttl now).mp hk key)]
  by_cases hfresh : (threshold : Int) < k.ttl now key
  · rw [if_pos hfresh]
    exact ⟨hk, by simp⟩
  · rw [if_neg hfresh, if_neg (by omega)]
    refine ⟨?_, by simp⟩
    dsimp only
    split
    · exact hk.delete key
    · exact hk.put key (by simp)

theorem verify (hk : Fleeting k) (input : String) : Fleeting (verifyScript now key input k).2 := by
  intro key' h' hg
  obtain ⟨h, hheld, he⟩ := verify_expiry now key input k hg
  exact he ▸ hk key' h hheld

/-- A set that is there has an expiry. -/
theorem expiryOf_ne (hk : Fleeting k) {members : Table String Int} (hm : k.members? now key = .ok members)
    (hne : members.entries ≠ []) : k.expiryOf now key ≠ none := by
  unfold members? at hm
  unfold expiryOf
  cases hg : k.get? now key with
  | none =>
    rw [hg] at hm
    cases hm
    exact absurd rfl hne
  | some h => exact hk key h (Option.filter_eq_some_iff.mp hg).1

theorem trimmed (hk : Fleeting k) {members : Table String Int} (hm : k.members? now key = .ok members) (window : Nat) :
    Fleeting (k.putMembers now key (withinWindow now window members)) := by
  refine hk.of_onlyAt (onlyAt_putMembers now key k _) fun h hg => ?_
  rw [holdings_putMembers, if_pos rfl, holdingOf] at hg
  split at hg
  · cases hg
  · next hsome =>
    cases hg
    refine hk.expiryOf_ne hm fun hnil => hsome ?_
    simp [withinWindow, Table.keep, hnil]

/-- The window script keeps the expiry of a set that it only trims; a set that it adds to lasts as long as the
    window, and one that lasts no time is gone. -/
theorem window (hk : Fleeting k) {window : Nat} (threshold : Nat) (member : String) (hn : 0 ≤ now)
    (hr : now + window ≤ lastInstant) : Fleeting (windowScript now key window threshold member k).2 := by
  cases hm : k.members? now key with
  | error e =>
    have htrim : k.trim now key (now - window) = .error e := by simp [trim, hm, bind, Except.bind]
    have hstop : windowScript now key window threshold member k = (.error e, k) := by
      simp only [windowScript, Script.run_bind, Script.attempt, htrim]
    rw [hstop]
    exact hk
  | ok members =>
    by_cases hfull : threshold ≤ (withinWindow now window members).size
    · rw [window_refused now key member window threshold hm hfull]
      exact hk.trimmed hm window
    · obtain ⟨k', hrun, hother, hown⟩ := window_counted now key member window threshold hm hfull hn hr
      rw [hrun]
      refine hk.of_onlyAt hother fun h hg => ?_
      rw [hown] at hg
      split at hg
      · cases hg
      · cases hg
        simp

theorem setFor (hk : Fleeting k) {value : String} {seconds : Int} (h : k.setFor now key value seconds = .ok k') :
    Fleeting k' := by
  rw [setFor_ok h]
  exact hk.put key (by simp)

end Fleeting

/-! ## Requests -/

/-- The longest lifetime of a code in seconds, and the widest window in milliseconds, that are looked at. -/
def longest : Nat := 1000000000000

/-- An instant from which the server can represent the ends of such lifetimes. -/
def InRange (now : Int) : Prop := 0 ≤ now ∧ now + longest * 1000 ≤ lastInstant

instance (now : Int) : Decidable (InRange now) :=
  inferInstanceAs (Decidable (0 ≤ now ∧ now + longest * 1000 ≤ lastInstant))

/-- The requests that codes, limiters and revocations make. -/
inductive Request.IsUsed : Request → Prop where
  | issue (key code : String) (attempts : Int) (expiry threshold : Nat) (h : expiry ≤ longest) :
    IsUsed (.issue key code attempts expiry threshold)
  | verify (key input : String) : IsUsed (.verify key input)
  | window (key : String) (width threshold : Nat) (member : String) (h : width ≤ longest) :
    IsUsed (.window key width threshold member)
  | mark (key seconds value : String) : IsUsed (.command ["SETEX", key, seconds, value])
  | look (key : String) : IsUsed (.command ["EXISTS", key])

/-- Replies to a request other than that a code without an expiry was found. -/
def Request.Expects (r : Request) (reply : Reply) : Prop :=
  match r with
  | .issue .. => reply.number? ≠ some (-2)
  | _ => True

theorem serve_fleeting {r : Request} (hr : r.IsUsed) {k : Keyspace} {now : Int} (hn : InRange now) (hk : Fleeting k) :
    Fleeting (k.serve now r).2 ∧ r.Expects (k.serve now r).1 := by
  obtain ⟨hpast, hlast⟩ := hn
  cases hr with
  | issue key code attempts expiry threshold h =>
    obtain ⟨hkept, hreply⟩ : _ ∧ (issueScript now key code attempts expiry threshold k).1 ≠ .ok (-2) :=
      hk.issue code attempts expiry threshold hpast (by omega)
    have hstate := scriptReply_state (issueScript now key code attempts expiry threshold k)
    refine ⟨hstate ▸ hkept, ?_⟩
    show (scriptReply (issueScript now key code attempts expiry threshold k)).1.number? ≠ some (-2)
    rcases hrun : issueScript now key code attempts expiry threshold k with ⟨_ | i, k'⟩
    · simp [scriptReply, Reply.number?]
    · rw [hrun] at hreply
      simpa [scriptReply, Reply.number?] using hreply
  | verify key input =>
    have hstate := scriptReply_state (verifyScript now key input k)
    exact ⟨hstate ▸ hk.verify input, trivial⟩
  | window key width threshold member h =>
    have hstate := scriptReply_state (windowScript now key width threshold member k)
    exact ⟨hstate ▸ hk.window threshold member hpast (by omega), trivial⟩
  | mark key seconds value =>
    refine ⟨?_, trivial⟩
    rw [serve_setex_eq]
    cases time? seconds with
    | none => exact hk
    | some s =>
      dsimp only
      cases hset : k.setFor now key value s with
      | error e => exact hk
      | ok k' => exact hk.setFor hset
  | look key =>
    rw [serve_exists]
    exact ⟨hk, trivial⟩

/-- What is heard when a request fails does not say that a code without an expiry was found. -/
theorem Request.expects_mishap (r : Request) (heard : Mishap) : r.Expects heard.reply := by
  cases r with
  | issue _ _ _ _ _ => cases heard <;> simp [Expects, Mishap.reply, Reply.number?]
  | _ => trivial

/-! ## Calls -/

/-- What a store answers that finds a code without an expiry. -/
def Answer.bare : Answer := .stored (.error (.system "verification code record has no expiry"))

theorem BackendFault.text_ne (b : BackendFault) : b.text ≠ "verification code record has no expiry" := by
  have starts : ∀ (rest : String) {a : String} {c : Char} {cs : List Char}, a.toList = c :: cs →
      (a ++ rest).toList.head? = some c := fun rest a c cs h => by rw [String.toList_append, h]; rfl
  have hv : "verification code record has no expiry".toList.head? = some 'v' := by decide +kernel
  intro h
  have hfirst : b.text.toList.head? = some 'v' := h ▸ hv
  cases b with
  | cache => exact absurd hfirst (by decide +kernel)
  | config m =>
    have hc : "Configuration error: ".toList = 'C' :: "onfiguration error: ".toList := by decide +kernel
    exact absurd ((starts m hc).symm.trans hfirst) (by decide)
  | unexpectedReply m =>
    have hu : "Unexpected reply: ".toList = 'U' :: "nexpected reply: ".toList := by decide +kernel
    exact absurd ((starts m hu).symm.trans hfirst) (by decide)

/-- A store answers so for one number only. -/
theorem issued_eq_bare {r : Except BackendFault Int} (h : Answer.stored (Client.issued r) = .bare) : r = .ok (-2) := by
  have hfault : Client.issued r = .error (.system "verification code record has no expiry") := Answer.stored.inj h
  have other : ∀ b : BackendFault, b.toCodeFault ≠ .system "verification code record has no expiry" :=
    fun b hb => BackendFault.text_ne b (CodeFault.system.inj hb)
  cases r with
  | error e => exact absurd (Except.error.inj hfault) (other e)
  | ok n =>
    by_cases h2 : n = -2
    · rw [h2]
    · unfold Client.issued at hfault
      dsimp only at hfault
      rw [if_neg h2] at hfault
      split at hfault
      · cases hfault
      · split at hfault
        · cases hfault
        · exact absurd (Except.error.inj hfault) (other _)

namespace Call

variable {σ : Type}

/-- Makes a call through a client. -/
def performBy (client : Client σ) : Call → Task σ Answer
  | store c scope recipient code => .stored <$> (client.codeStore c).store scope recipient code
  | verify c scope recipient input => .verified <$> (client.codeStore c).verify scope recipient input
  | limit c key member => .limited <$> ({ client with member := pure member } : Client σ).limiter c key
  | markRevoked session seconds => .marked <$> client.repository.markRevoked session seconds
  | isRevoked session => .found <$> client.repository.isRevoked session

/-- On the keyspace itself these are the calls of a run. -/
theorem perform_eq (settings : CacheSettings) (epoch : Nat) (call : Call) :
    call.perform settings epoch = call.performBy (Client.direct settings epoch (pure "")) := by
  cases call <;> rfl

/-- Codes do not live longer than is looked at, and windows are not wider. -/
def IsBounded : Call → Prop
  | store c .. => c.expirySeconds.toNat ≤ longest
  | limit c .. => c.windowMs.toNat ≤ longest
  | _ => True

instance : (call : Call) → Decidable call.IsBounded
  | store c .. => inferInstanceAs (Decidable (c.expirySeconds.toNat ≤ longest))
  | limit c .. => inferInstanceAs (Decidable (c.windowMs.toNat ≤ longest))
  | verify .. | markRevoked .. | isRevoked .. => inferInstanceAs (Decidable True)

/-- A call keeps what its requests keep, and no store hears of a code without an expiry. -/
theorem performBy_keeps {client : Client σ} {I : σ → Prop}
    (h : ∀ r : Request, r.IsUsed → (client.call r).Keeps I r.Expects) {call : Call} (hb : call.IsBounded) :
    (call.performBy client).Keeps I (· ≠ .bare) := by
  have hscript : ∀ r : Request, r.IsUsed → (client.script r).Keeps I fun _ => True :=
    fun r hr => (h r hr).map fun _ _ => trivial
  have hcommand : ∀ {words : List String} {α : Type} (read : Reply → Option α), (Request.command words).IsUsed →
      (client.command words read).Keeps I fun _ => True :=
    fun read hr => (client.repeated_keeps (h _ hr) _ _).map fun _ _ => trivial
  cases call with
  | store c scope recipient code =>
    have hissue : (client.script (.issue (client.settings.key (codeKey scope recipient)) code c.maxAttempts.toInt
        c.expirySeconds.toNat c.reissueThreshold)).Keeps I (· ≠ .ok (-2)) := by
      refine (h _ (.issue _ _ _ _ _ hb)).map fun reply hr hreading => ?_
      unfold Client.reading at hreading
      split at hreading
      · next n hn =>
        cases hreading
        exact hr hn
      · cases hreading
    have hstored : ((client.codeStore c).store scope recipient code).Keeps I fun result =>
        Answer.stored result ≠ .bare := hissue.map fun r hr hbare => hr (issued_eq_bare hbare)
    exact hstored.map fun _ hr => hr
  | verify c scope recipient input =>
    have hverified : ((client.codeStore c).verify scope recipient input).Keeps I fun _ => True :=
      (hscript _ (.verify _ input)).map fun _ _ => trivial
    exact hverified.map fun _ _ => nofun
  | limit c key member =>
    have hlimited : (({ client with member := pure member } : Client σ).limiter c key).Keeps I fun _ => True := by
      refine Task.Keeps.bind (P := fun _ => True) trivial fun made _ => ?_
      refine (hscript _ (.window _ _ _ made hb)).bind fun reply _ => ?_
      cases reply with
      | ok n => trivial
      | error e => trivial
    exact hlimited.map fun _ _ => nofun
  | markRevoked session seconds =>
    have hmarked : (client.repository.markRevoked session seconds).Keeps I fun _ => True :=
      (hcommand _ (.mark ..)).bind fun _ _ => trivial
    exact hmarked.map fun _ _ => nofun
  | isRevoked session =>
    have hfound : (client.repository.isRevoked session).Keeps I fun _ => True :=
      (hcommand _ (.look _)).bind fun _ _ => trivial
    exact hfound.map fun _ _ => nofun

end Call

/-! ## Calls that overlap -/

/-- A server whose clock shows instants from which it can represent the ends of lifetimes, and no key of it
    without an expiry. -/
def Sound (s : Site) : Prop := (∀ t, InRange (s.clock t)) ∧ Fleeting s.keyspace

/-- Whatever becomes of a request on its way. -/
theorem call_sound (settings : CacheSettings) {r : Request} (hr : r.IsUsed) :
    ((Site.client settings).call r).Keeps Sound r.Expects := by
  refine Site.call_keeps_of_serve settings (fun _ _ hs => hs) fun t p s hs => ?_
  obtain ⟨hclock, hk⟩ := hs
  obtain ⟨hserved, hreply⟩ := serve_fleeting hr (hclock t) hk
  refine ⟨⟨?_, Site.serve_keyspace hk hserved p⟩, Site.serve_reply hreply r.expects_mishap p⟩
  rw [Site.serve_clock]
  exact hclock

/-- A server, the calls under way, each with what is left of it, and those that have been answered. -/
structure Bustle where
  site : Site
  underWay : List (Call × Task Site Answer) := []
  answered : List (Call × Answer) := []

/-- A new call, or the next step of a call under way, at a time and an instant of the server's clock. -/
inductive Move where
  | start (settings : CacheSettings) (call : Call)
  | step (place time : Nat) (wall : Int)
  /-- The caller gives up. -/
  | abandon (place : Nat)

namespace Bustle

/-- One move of one call. With its last one it is answered. -/
def move (x : Bustle) : Move → Bustle
  | .start settings call =>
    { x with underWay := x.underWay ++ [(call, call.performBy (Site.client settings))] }
  | .step i time wall =>
    match x.underWay[i]? with
    | none => x
    | some (call, .done answer) =>
      { x with underWay := x.underWay.eraseIdx i, answered := x.answered ++ [(call, answer)] }
    | some (call, task) =>
      let (rest, site) := task.move time { x.site with clock := fun _ => wall }
      { x with site, underWay := x.underWay.set i (call, rest) }
  | .abandon i => { x with underWay := x.underWay.eraseIdx i }

/-- After moves of any calls, in any order. -/
def run (x : Bustle) (moves : List Move) : Bustle := moves.foldl move x

/-- The calls that are looked at, on a server whose clock is. -/
def Admits : Move → Prop
  | .start _ call => call.IsBounded
  | .step _ _ wall => InRange wall
  | .abandon _ => True

instance : (m : Move) → Decidable (Admits m)
  | .start _ call => inferInstanceAs (Decidable call.IsBounded)
  | .step _ _ wall => inferInstanceAs (Decidable (InRange wall))
  | .abandon _ => inferInstanceAs (Decidable True)

section
variable {x : Bustle} {i : Nat} {call : Call} (time : Nat) (wall : Int)

theorem move_answering {answer : Answer} (hf : x.underWay[i]? = some (call, .done answer)) :
    x.move (.step i time wall) =
      { x with underWay := x.underWay.eraseIdx i, answered := x.answered ++ [(call, answer)] } := by
  simp only [move, hf]

theorem move_working {task : Task Site Answer} (hf : x.underWay[i]? = some (call, task))
    (h : ∀ answer, task ≠ .done answer) : x.move (.step i time wall) = { x with
      site := (task.move time { x.site with clock := fun _ => wall }).2
      underWay := x.underWay.set i (call, (task.move time { x.site with clock := fun _ => wall }).1) } := by
  cases task with
  | done answer => exact absurd rfl (h answer)
  | step change rest => simp only [move, hf]
  | wait delay rest => simp only [move, hf]

end

/-- Every key has an expiry, and what is left of the calls keeps that. -/
structure Orderly (x : Bustle) : Prop where
  fleeting : Fleeting x.site.keyspace
  underWay : ∀ f ∈ x.underWay, f.2.Keeps Sound (· ≠ .bare)
  answered : ∀ a ∈ x.answered, a.2 ≠ .bare

theorem Orderly.move {x : Bustle} (hx : x.Orderly) {m : Move} (hm : Admits m) : (x.move m).Orderly := by
  obtain ⟨hk, hunder, hanswered⟩ := hx
  cases m with
  | start settings call =>
    refine ⟨hk, fun f hf => ?_, hanswered⟩
    have hf : f ∈ x.underWay ++ [(call, call.performBy (Site.client settings))] := hf
    rcases List.mem_append.mp hf with hf | hf
    · exact hunder f hf
    · rw [List.mem_singleton.mp hf]
      exact Call.performBy_keeps (fun r hr => call_sound settings hr) hm
  | step i time wall =>
    rcases hf : x.underWay[i]? with _ | ⟨call, task⟩
    · have hidle : x.move (.step i time wall) = x := by simp only [Bustle.move, hf]
      rw [hidle]
      exact ⟨hk, hunder, hanswered⟩
    · have hmem := List.mem_of_getElem? hf
      by_cases hdone : ∃ answer, task = .done answer
      · obtain ⟨answer, rfl⟩ := hdone
        rw [move_answering time wall hf]
        refine ⟨hk, fun f hm => hunder f (List.mem_of_mem_eraseIdx hm), fun a ha => ?_⟩
        rcases List.mem_append.mp ha with ha | ha
        · exact hanswered a ha
        · rw [List.mem_singleton.mp ha]
          exact hunder _ hmem
      · have hsite : Sound { x.site with clock := fun _ => wall } := ⟨fun _ => hm, hk⟩
        obtain ⟨hrest, -, hkept⟩ := (hunder _ hmem).move time hsite
        rw [move_working time wall hf fun answer h => hdone ⟨answer, h⟩]
        refine ⟨hkept, fun f hm => ?_, hanswered⟩
        rcases List.mem_or_eq_of_mem_set hm with hm | rfl
        · exact hunder f hm
        · exact hrest
  | abandon i => exact ⟨hk, fun f hmem => hunder f (List.mem_of_mem_eraseIdx hmem), hanswered⟩

theorem Orderly.run {x : Bustle} (hx : x.Orderly) {moves : List Move} (hm : ∀ m ∈ moves, Admits m) :
    (x.run moves).Orderly := by
  induction moves generalizing x with
  | nil => exact hx
  | cons m moves ih =>
    obtain ⟨hfirst, hrest⟩ := List.forall_mem_cons.mp hm
    exact ih (hx.move hfirst) hrest

/-- For every keyspace in which every key has an expiry, and every run of stores, verifies, limits, revocations and
    looks for them, by clients with whatever key spaces and policies, for whatever names: however the
    steps of the calls come between each other and whatever becomes of their requests, every key still has
    an expiry, and no store is answered that the code it found has none. Codes live for up to 10^12 seconds
    and windows are up to 10^12 milliseconds wide; the server's clock is taken to be that much before the last
    instant that it can represent. -/
theorem no_immortal_key {site : Site} (fleeting : Fleeting site.keyspace) {moves : List Move}
    (admitted : ∀ m ∈ moves, Admits m) :
    let x := run ⟨site, [], []⟩ moves
    Fleeting x.site.keyspace ∧ ∀ a ∈ x.answered, a.2 ≠ .bare := by
  intro x
  have start : Orderly ⟨site, [], []⟩ := ⟨fleeting, by simp, by simp⟩
  have last : x.Orderly := start.run admitted
  exact ⟨last.fleeting, last.answered⟩

/-- A set of calls under the name of a code, half a second before it expires. The reply to the second request
    is lost. -/
def crowdedSite : Site where
  clock _ := 1700000000000
  keyspace := Keyspace.put {} "phone_code:login:+15550100"
    ⟨.scored (Table.empty.insert "a" 1699999999000), some 1700000000500⟩
  passages := [{}, { fate := .failed true .lost }]

/-- A code is stored and a call is counted, step by step in turn, both under that name. -/
def crowdedMoves : List Move :=
  [.start {} (.store {} "login" "+15550100" "123456"),
    .start {} (.limit { windowMs := 0 } "phone_code:login:+15550100" "b")] ++
  (List.range 4).flatMap (fun n => [.step 0 n 1700000000000, .step 1 n 1700000000000]) ++
  [.step 0 4 1700000000000, .step 0 4 1700000000000]

/-- The code takes the place of the set, and the call is refused because of the code. -/
theorem no_immortal_key_sample :
    let x := run ⟨crowdedSite, [], []⟩ crowdedMoves
    Fleeting crowdedSite.keyspace ∧ (∀ m ∈ crowdedMoves, Admits m) ∧
    x.answered.map Prod.snd = [.stored (.ok ()), .limited (.error (.unavailable "<cache error>"))] ∧
    x.site.keyspace.ttl 1700000000000 "phone_code:login:+15550100" = 600 ∧
    Fleeting x.site.keyspace ∧ ∀ a ∈ x.answered, a.2 ≠ .bare := by
  intro x
  have fleeting : Fleeting crowdedSite.keyspace := by
    have hempty : Fleeting {} := fun _ _ h => nomatch h
    exact hempty.put _ (by simp)
  have admitted : ∀ m ∈ crowdedMoves, Admits m := by decide
  exact ⟨fleeting, admitted, rfl, by decide +kernel, no_immortal_key fleeting admitted⟩

end Bustle

end Passcode.Keyspace
