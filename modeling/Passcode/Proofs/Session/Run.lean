/-
  Passcode.Proofs.Session.Run — calls of a session service, one after the other, over a server that
  may be slow or fail.

  Each call is made at a moment: the monotonic time, by which deadlines are kept, the wall clock, and
  how its requests will fare on their way to the server and back. The server's clock is the wall
  clock. It never goes back, and it does not wait for the call: the service reads it when the call is
  made, the server when it runs a request. What has not reached the server when a caller gives up,
  does not reach it.

  Between calls only the keyspace stays. Whoever revokes a session has to know its id, which nobody
  does before it was issued.

  Proved: a history comes apart where its run does (`history_split`), and holds every call of it, with
  its answer (`history_getElem?`).
-/

import Passcode.Proofs.Keyspace.Site
import Passcode.Session.Service

namespace Passcode

/-! ## Calls -/

inductive SessionCall where
  | issue (fresh : Entropy) (user : Int) (fingerprint : String)
  | refresh (ctx : Context) (token fingerprint : String)
  | renew (claims : AccessClaims)
  | authenticate (ctx : Context) (token fingerprint : String)
  | revoke (ctx : Context) (session : String)

inductive SessionAnswer where
  | issued (pair : TokenPair)
  | refreshed (result : Except Fault String)
  | renewed (token : Option String)
  | authenticated (result : Except Fault AccessClaims)
  | revoked (result : Except Fault Unit)

/-- The wall clock from when a call is made, in milliseconds since 1970, by the milliseconds that have passed
    since. -/
structure Clock where
  read : Nat → Int
  forward : ∀ {a b : Nat}, a ≤ b → read a ≤ read b

/-- A clock that keeps pace with the monotonic time. -/
def Clock.pacing (wall : Int) : Clock where
  read ms := wall + ms
  forward := by omega

/-- When a call is made, and how the first of its requests fare; all others are answered at once. -/
structure Moment where
  time : Nat
  clock : Clock
  passages : List Passage := []

namespace Moment

variable (m : Moment) (cache : CacheSettings)

def wall : Int := m.clock.read 0

/-- Seconds since 1970. -/
def seconds : Int := m.wall / 1000

def site (k : Keyspace) : Site := ⟨fun t => m.clock.read (t - m.time), k, m.passages⟩

/-- When a command is answered that is sent at once. -/
def timing? : Option Site.Timing := Site.commandTiming? cache m.passages

/-- The server's clock when it runs a command. -/
def servedAt (a : Site.Timing) : Int := m.clock.read a.served

/-- A command that is sent at once is answered before its caller gives up. -/
structure Answers (ctx : Context) (a : Site.Timing) : Prop where
  timing : m.timing? cache = some a
  inTime : ∀ deadline ∈ ctx.deadline, m.time < deadline ∧ m.time + a.heard ≤ deadline

theorem wall_le_servedAt (a : Site.Timing) : m.wall ≤ m.servedAt a := m.clock.forward (Nat.zero_le _)

/-- While a call is under way the clock shows no instant before it was made. -/
theorem site_since {J : Keyspace → Prop} {k : Keyspace} (hk : J k) : (m.site k).Since m.wall J :=
  ⟨fun _ => m.clock.forward (Nat.zero_le _), hk⟩

theorem site_clock_after (k : Keyspace) (ms : Nat) : (m.site k).clock (m.time + ms) = m.clock.read ms := by
  simp [site]

/-- Some time after 1970, before a server that answers at once. -/
def quiet (time : Nat) : Moment := ⟨time, .pacing time, []⟩

theorem servedAt_quiet (time : Nat) : (quiet time).servedAt ⟨0, 0⟩ = time := Int.add_zero _

/-- What is sent to a server that answers at once is answered in time. -/
theorem answers_quiet (time : Nat) : (quiet time).Answers cache .unbounded ⟨0, 0⟩ :=
  ⟨Site.timing?_nil _ _, fun _ h => nomatch h⟩

end Moment

/-- A call that was made, and how it was answered. -/
structure SessionEvent where
  moment : Moment
  call : SessionCall
  answer : SessionAnswer

namespace SessionService

/-- The service over a server. -/
def onSite (settings : TokenSettings) (cache : CacheSettings) : SessionService Site :=
  ⟨(Site.client cache).repository, settings⟩

/-- Makes a call at an instant, in seconds since 1970. -/
def perform {σ : Type} (service : SessionService σ) (now : Int) : SessionCall → Task σ SessionAnswer
  | .issue fresh user fingerprint => return .issued (service.settings.issue fresh user fingerprint now)
  | .refresh ctx token fingerprint => .refreshed <$> service.refresh ctx token fingerprint now
  | .renew claims => return .renewed (service.settings.renew claims now)
  | .authenticate ctx token fingerprint => .authenticated <$> service.authenticate ctx token fingerprint now
  | .revoke ctx session => .revoked <$> service.revoke ctx session

variable (service : SessionService Site)

/-- Where a call ends that is made at a moment. -/
def outcome (m : Moment) (k : Keyspace) (call : SessionCall) : Task.End Site SessionAnswer :=
  (service.perform m.seconds call).run m.time (m.site k)

/-- The calls of a run, each with its answer. -/
def history : Keyspace → List (Moment × SessionCall) → List SessionEvent
  | _, [] => []
  | k, (m, call) :: rest =>
    ⟨m, call, (service.outcome m k call).value⟩ :: history (service.outcome m k call).state.keyspace rest

/-- The keyspace after a run. -/
def after : Keyspace → List (Moment × SessionCall) → Keyspace
  | k, [] => k
  | k, (m, call) :: rest => after (service.outcome m k call).state.keyspace rest

variable {service}

/-- A history comes apart where its run does. -/
theorem history_split {k : Keyspace} {calls : List (Moment × SessionCall)} {before later : List SessionEvent}
    {e : SessionEvent} (h : service.history k calls = before ++ e :: later) :
    ∃ front back, calls = front ++ (e.moment, e.call) :: back ∧ before = service.history k front ∧
      e.answer = (service.outcome e.moment (service.after k front) e.call).value ∧
      later = service.history (service.outcome e.moment (service.after k front) e.call).state.keyspace back := by
  induction calls generalizing k before with
  | nil => simp [history] at h
  | cons x calls ih =>
    obtain ⟨m, call⟩ := x
    rw [history] at h
    cases before with
    | nil =>
      simp only [List.nil_append, List.cons.injEq] at h
      obtain ⟨rfl, rfl⟩ := h
      exact ⟨[], calls, rfl, rfl, rfl, rfl⟩
    | cons a before =>
      simp only [List.cons_append, List.cons.injEq] at h
      obtain ⟨rfl, h⟩ := h
      obtain ⟨front, back, rfl, rfl, ha, rfl⟩ := ih h
      exact ⟨(m, call) :: front, back, rfl, rfl, ha, rfl⟩

/-- How a call of a run is answered. -/
theorem history_getElem? {k : Keyspace} {calls : List (Moment × SessionCall)} (i : Nat) :
    (service.history k calls)[i]? = calls[i]?.map fun c =>
      ⟨c.1, c.2, (service.outcome c.1 (service.after k (calls.take i)) c.2).value⟩ := by
  induction calls generalizing k i with
  | nil => rfl
  | cons c calls ih =>
    cases i with
    | zero => rfl
    | succ i => exact ih i

/-- Every call of a run is in its history. -/
theorem exists_event (k : Keyspace) {calls : List (Moment × SessionCall)} {c : Moment × SessionCall}
    (hc : c ∈ calls) : ∃ e ∈ service.history k calls, e.call = c.2 := by
  obtain ⟨i, hi⟩ := List.mem_iff_getElem?.mp hc
  refine ⟨⟨c.1, c.2, (service.outcome c.1 (service.after k (calls.take i)) c.2).value⟩, ?_, rfl⟩
  rw [List.mem_iff_getElem?]
  exact ⟨i, by rw [history_getElem?, hi, Option.map_some]⟩

end SessionService

end Passcode
