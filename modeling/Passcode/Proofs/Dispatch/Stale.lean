/-
  Passcode.Proofs.Dispatch.Stale — reports of sends whose provider was replaced while they were under way.

  A send keeps to the provider that it picked, and its report is judged by the provider that is in use when
  it comes. So a report is dropped when its provider was replaced in the meantime; but not when the
  providers have gone round since, and the same one is in use again. Such a report cannot be told from that
  of a new send.

  Beside the traffic stands, for each send under way, how many reports had been made when it started. No
  move looks at it.

  Proved: providers come into use in turn, so that the one in use is as many places beyond the provider of
  a send as there were changes since the send started (`Aged`); hence a report is dropped exactly when these
  changes are no whole number of rounds, and a whole round takes a number of timeouts
  (`stale_reports_dropped`). After a round a stale report can replace a provider (`stale_report_heard`).
-/

import Passcode.Proofs.Dispatch.Traffic

namespace Passcode

/-! ## Dates -/

/-- Sends that overlap, and how many reports had been made when each of those under way started. -/
structure Dated (σ : Type) where
  traffic : Traffic σ
  starts : List Nat := []

section
variable {count threshold place start : Nat} {reports : List Report} {s s' : Streak} {r : Report}

/-- What the reports since a send started say of it, when it goes through the provider in a place. -/
structure Aged (count threshold : Nat) (reports : List Report) (s : Streak) (place start : Nat) : Prop where
  known : place < count
  past : start ≤ reports.length
  inUse : s.active = (place + Report.rotations (reports.drop start)) % count
  /-- Each change of providers took as many timeouts as the threshold, fewer of them before the send. -/
  paid : threshold * Report.rotations (reports.drop start) + s.timeouts <
    Report.timeouts (reports.drop start) + threshold

/-- The report of one send leaves the others as many places behind as it says. -/
theorem Aged.hears (h : Aged count threshold reports s place start) (hs : s.active < count)
    (hr : Hears count threshold s r s') : Aged count threshold (reports ++ [r]) s' place start := by
  obtain ⟨hplace, hpast, hactive, hpaid⟩ := h
  have hspent := hr.spent
  have hdrop : (reports ++ [r]).drop start = reports.drop start ++ [r] := List.drop_append_of_le_length hpast
  refine ⟨hplace, by simp; omega, ?_, ?_⟩
  · rw [hr.active hs, hactive, hdrop, Report.rotations_append, Nat.mod_add_mod, Nat.add_assoc]
  · rw [hdrop, Report.rotations_append, Report.timeouts_append, Nat.mul_add]
    omega

end

namespace Sticky

variable {σ : Type} (c : Sticky σ)

/-- A new send is dated, and the date of one that is over goes with it. -/
def turnDated (x : Dated σ) (turn : Turn) : Dated σ where
  traffic := c.turn x.traffic turn
  starts :=
    match turn with
    | .start .. => x.starts ++ [x.traffic.reports.length]
    | .move i _ => if x.traffic.flights[i]?.any (·.work.isDone) then x.starts.eraseIdx i else x.starts

def runDated (x : Dated σ) (turns : List Turn) : Dated σ := turns.foldl c.turnDated x

/-- Dates change nothing. -/
theorem runDated_traffic (x : Dated σ) (turns : List Turn) :
    (c.runDated x turns).traffic = c.run x.traffic turns := by
  induction turns generalizing x with
  | nil => rfl
  | cons turn turns ih => exact ih (c.turnDated x turn)

section
variable {x : Dated σ} {i now : Nat}

theorem turnDated_start (hp : c.providers ≠ []) (x : Dated σ) (ctx : Context) (message : Message) :
    ∃ work, c.turnDated x (.start ctx message) =
      ⟨{ x.traffic with flights := x.traffic.flights ++ [⟨c.pick x.traffic, work⟩] },
        x.starts ++ [x.traffic.reports.length]⟩ := by
  obtain ⟨provider, -, hturn⟩ := c.turn_start hp x.traffic ctx message
  exact ⟨_, congrArg (Dated.mk · _) hturn⟩

theorem turnDated_idle (hf : x.traffic.flights[i]? = none) : c.turnDated x (.move i now) = x := by
  simp only [turnDated, turn, hf, Option.any_none, Bool.false_eq_true, if_false]

theorem turnDated_working {place : Nat} {work : Task σ Delivery} (hf : x.traffic.flights[i]? = some ⟨place, work⟩)
    (h : work.isDone = false) : c.turnDated x (.move i now) =
      ⟨{ x.traffic with
          deck := { x.traffic.deck with outer := (work.move now x.traffic.deck.outer).2 }
          flights := x.traffic.flights.set i ⟨place, (work.move now x.traffic.deck.outer).1⟩ }, x.starts⟩ := by
  simp only [turnDated, c.turn_working hf h, hf, Option.any_some, h, Bool.false_eq_true, if_false]

theorem turnDated_reporting {place : Nat} {result : Delivery}
    (hf : x.traffic.flights[i]? = some ⟨place, .done result⟩) : c.turnDated x (.move i now) =
      ⟨{ deck := (c.hear place result x.traffic.deck).2
         flights := x.traffic.flights.eraseIdx i
         reports := x.traffic.reports ++ [⟨place, result, (c.hear place result x.traffic.deck).1⟩] },
        x.starts.eraseIdx i⟩ := by
  simp only [turnDated, c.turn_reporting hf, hf, Option.any_some, Task.isDone, if_true]

end

/-- Every send under way has a date, and is as many places behind as there were changes since. -/
structure Tracks (x : Dated σ) : Prop where
  dated : x.starts.length = x.traffic.flights.length
  aged : ∀ (i : Nat) (f : Flight σ) (start : Nat), x.traffic.flights[i]? = some f → x.starts[i]? = some start →
    Aged c.providers.length (max c.threshold 1) x.traffic.reports (c.streak x.traffic) f.place start

variable {c} {x : Dated σ}

theorem Tracks.start (h : c.Tracks x) (hp : c.providers ≠ [])
    (hf : Follows c.providers.length (max c.threshold 1) x.traffic.reports (c.streak x.traffic)) (ctx : Context)
    (message : Message) : c.Tracks (c.turnDated x (.start ctx message)) := by
  obtain ⟨work, hturn⟩ := c.turnDated_start hp x ctx message
  have hpick : c.pick x.traffic = (c.streak x.traffic).active := Nat.mod_eq_of_lt hf.active_lt
  have hnew : Aged c.providers.length (max c.threshold 1) x.traffic.reports (c.streak x.traffic)
      (c.pick x.traffic) x.traffic.reports.length := by
    have htimeouts := hf.timeouts_lt
    refine ⟨hpick ▸ hf.active_lt, Nat.le_refl _, ?_, ?_⟩
    · rw [List.drop_length, hpick]
      exact (Nat.mod_eq_of_lt hf.active_lt).symm
    · simpa [List.drop_length, Report.rotations, Report.timeouts] using htimeouts
  rw [hturn]
  refine ⟨by simp [h.dated], fun i f start hi hstart => ?_⟩
  dsimp only at hi hstart
  rcases Nat.lt_trichotomy i x.traffic.flights.length with hlt | rfl | hgt
  · rw [List.getElem?_append_left hlt] at hi
    rw [List.getElem?_append_left (h.dated ▸ hlt)] at hstart
    exact h.aged i f start hi hstart
  · rw [List.getElem?_concat_length] at hi
    rw [← h.dated, List.getElem?_concat_length] at hstart
    cases hi
    cases hstart
    exact hnew
  · rw [List.getElem?_eq_none (by simp; omega)] at hi
    cases hi

theorem Tracks.move (h : c.Tracks x)
    (hf : Follows c.providers.length (max c.threshold 1) x.traffic.reports (c.streak x.traffic)) (i now : Nat) :
    c.Tracks (c.turnDated x (.move i now)) := by
  cases hi : x.traffic.flights[i]? with
  | none =>
    rw [c.turnDated_idle hi]
    exact h
  | some f =>
    obtain ⟨place, work⟩ := f
    cases hd : work.isDone with
    | false =>
      rw [c.turnDated_working hi hd]
      refine ⟨by simp [h.dated], fun j f start hj hstart => ?_⟩
      -- a send keeps to its provider
      rw [List.getElem?_set] at hj
      split at hj
      · next hij =>
        subst hij
        have haged := h.aged i _ start hi hstart
        split at hj
        · cases hj
          exact haged
        · cases hj
      · exact h.aged j f start hj hstart
    | true =>
      cases work with
      | step change rest => cases hd
      | wait d rest => cases hd
      | done result =>
        rw [c.turnDated_reporting hi]
        refine ⟨by simp only [List.length_eraseIdx, h.dated], fun j f start hj hstart => ?_⟩
        rw [List.getElem?_eraseIdx] at hj hstart
        have haged : Aged c.providers.length (max c.threshold 1) x.traffic.reports (c.streak x.traffic)
            f.place start := by
          by_cases hlt : j < i
          · rw [if_pos hlt] at hj hstart
            exact h.aged j f start hj hstart
          · rw [if_neg hlt] at hj hstart
            exact h.aged (j + 1) f start hj hstart
        exact haged.hears hf.active_lt (hears x.traffic.deck c.slot place (max c.threshold 1) c.providers.length result)

theorem Tracks.run (h : c.Tracks x) (hp : c.providers ≠ [])
    (hf : Follows c.providers.length (max c.threshold 1) x.traffic.reports (c.streak x.traffic))
    (turns : List Turn) : c.Tracks (c.runDated x turns) := by
  induction turns generalizing x with
  | nil => exact h
  | cons turn turns ih =>
    have hnext : c.Tracks (c.turnDated x turn) := by
      cases turn with
      | start ctx message => exact h.start hp hf ctx message
      | move i now => exact h.move hf i now
    exact ih hnext (c.turn_follows hp hf turn)

end Sticky

/-! ## What becomes of a report -/

/-- The effect of a report on a streak, by the reports since its send started. -/
structure Belated (count threshold : Nat) (since : List Report) (s : Streak) (r : Report) (s' : Streak) : Prop where
  /-- Providers come into use in turn. -/
  inUse : s.active = (r.place + Report.rotations since) % count
  /-- A report is dropped unless the changes since are a whole number of rounds, -/
  dropped : ¬ count ∣ Report.rotations since → s' = s ∧ r.next = none
  /-- and is heard like that of a new send if they are. -/
  heard : count ∣ Report.rotations since → (r.isSuccess = true → s' = ⟨s.active, 0⟩) ∧
    (r.isTimeout = true → s' =
      if s.timeouts + 1 < threshold then ⟨s.active, s.timeouts + 1⟩ else ⟨(s.active + 1) % count, 0⟩)
  /-- A round takes many timeouts: with fewer of them since its send started, a stale report is dropped. -/
  soon : 0 < Report.rotations since → Report.timeouts since ≤ threshold * (count - 1) → s' = s ∧ r.next = none

section
variable {count threshold start : Nat} {reports : List Report} {s s' : Streak} {r : Report}

/-- The provider of a send is in use after a whole number of rounds, and after no other number of changes. -/
theorem Aged.round (h : Aged count threshold reports s r.place start) :
    r.place = s.active ↔ count ∣ Report.rotations (reports.drop start) := by
  rw [h.inUse]
  constructor
  · intro hown
    have hdiv := Nat.div_add_mod (r.place + Report.rotations (reports.drop start)) count
    rw [← hown, Nat.add_comm r.place] at hdiv
    exact ⟨_, (Nat.add_right_cancel hdiv).symm⟩
  · rintro ⟨rounds, hrounds⟩
    rw [hrounds, Nat.add_mul_mod_self_left, Nat.mod_eq_of_lt h.known]

/-- A round takes more timeouts than these. -/
theorem Aged.within_round (h : Aged count threshold reports s r.place start)
    (hchanged : 0 < Report.rotations (reports.drop start))
    (hfew : Report.timeouts (reports.drop start) ≤ threshold * (count - 1)) :
    ¬ count ∣ Report.rotations (reports.drop start) := by
  intro hround
  have hknown := h.known
  have hpaid := h.paid
  have hcost : threshold * count ≤ threshold * Report.rotations (reports.drop start) :=
    Nat.mul_le_mul_left _ (Nat.le_of_dvd hchanged hround)
  have hsplit : threshold * (count - 1) + threshold = threshold * count := by
    rw [← Nat.mul_succ, Nat.succ_eq_add_one, Nat.sub_add_cancel (by omega)]
  omega

theorem Hears.foreign (h : Hears count threshold s r s') (hforeign : r.place ≠ s.active) : s' = s ∧ r.next = none := by
  cases h with
  | success own | miss own | rotation own => exact absurd own hforeign
  | dropped _ told => exact ⟨rfl, told⟩

theorem Hears.own (h : Hears count threshold s r s') (hown : r.place = s.active) :
    (r.isSuccess = true → s' = ⟨s.active, 0⟩) ∧ (r.isTimeout = true → s' =
      if s.timeouts + 1 < threshold then ⟨s.active, s.timeouts + 1⟩ else ⟨(s.active + 1) % count, 0⟩) := by
  cases h with
  | success _ ok => simp [Report.isTimeout_of_isSuccess ok]
  | miss _ late room => simp [Report.isSuccess_of_isTimeout late, room]
  | rotation _ late full => simp [Report.isSuccess_of_isTimeout late, Nat.not_lt.mpr full]
  | dropped foreign => simp [foreign hown]

theorem Aged.belated (h : Aged count threshold reports s r.place start) (hr : Hears count threshold s r s') :
    Belated count threshold (reports.drop start) s r s' where
  inUse := h.inUse
  dropped hstale := hr.foreign (mt h.round.mp hstale)
  heard hround := hr.own (h.round.mpr hround)
  soon hchanged hfew := hr.foreign (mt h.round.mp (h.within_round hchanged hfew))

end

namespace Sticky

variable {σ : Type} (c : Sticky σ)

/-- In any run of overlapping sends, the report of a send whose provider was replaced since the send started
    changes nothing, unless the providers have gone round a whole number of times since, and the same one is
    in use again; then it has the effect of a new send's report. -/
theorem stale_reports_dropped (hp : c.providers ≠ []) (ht : 1 ≤ c.threshold) (d : Deck σ)
    (fresh : d.streak c.slot = {}) (turns : List Turn) :
    let x := c.runDated { traffic := { deck := d } } turns
    x.traffic = c.run { deck := d } turns ∧ ∀ i now,
      let y := c.turn x.traffic (.move i now)
      (y.reports = x.traffic.reports ∧ c.streak y = c.streak x.traffic) ∨
        ∃ r start, x.traffic.flights[i]? = some ⟨r.place, .done r.result⟩ ∧ x.starts[i]? = some start ∧
          y.reports = x.traffic.reports ++ [r] ∧
          Belated c.providers.length c.threshold (x.traffic.reports.drop start) (c.streak x.traffic) r (c.streak y) := by
  intro x
  have hthreshold : max c.threshold 1 = c.threshold := by omega
  have hnone : c.Tracks { traffic := { deck := d } } := ⟨rfl, fun i flight start hf => by cases hf⟩
  have htracks : c.Tracks x := hnone.run hp (c.fresh_follows hp d fresh) turns
  refine ⟨c.runDated_traffic _ turns, fun i now => ?_⟩
  obtain hsame | ⟨r, hf, hreports, hr⟩ := c.turn_hears x.traffic i now
  · exact Or.inl hsame
  · obtain ⟨hi, -⟩ := List.getElem?_eq_some_iff.mp hf
    have hstart := List.getElem?_eq_getElem (htracks.dated ▸ hi)
    have haged := htracks.aged i _ _ hf hstart
    rw [hthreshold] at hr haged
    exact Or.inr ⟨r, _, hf, hstart, hreports, haged.belated hr⟩

/-! ### A round of two providers -/

/-- Two providers that take their time. -/
def slowPair : Sticky Unit :=
  ⟨0, 1, [fun _ _ => return .error (.providerTimeout "first"), fun _ _ => return .error (.providerTimeout "second")]⟩

/-- One send is overtaken by another through the same provider, and then by one through the other. -/
def roundTurns : List Turn :=
  let message : Message := ⟨"verify_code", [], ["+4915112345678"]⟩
  [.start .unbounded message, .start .unbounded message, .move 1 10, .start .unbounded message, .move 1 20]

/-- The report of the first send comes while the other provider is in use. -/
theorem stale_reports_dropped_sample : slowPair.providers ≠ [] ∧ 1 ≤ slowPair.threshold ∧
    let x := slowPair.runDated { traffic := { deck := { outer := () } } } (roundTurns.take 3)
    ∃ r, x.traffic.flights[0]? = some ⟨r.place, .done r.result⟩ ∧ Report.rotations x.traffic.reports = 1 ∧
      Belated 2 1 x.traffic.reports ⟨1, 0⟩ r ⟨1, 0⟩ := by
  have hp : slowPair.providers ≠ [] := List.cons_ne_nil _ _
  refine ⟨hp, by decide, ?_⟩
  obtain ⟨-, hmoves⟩ := slowPair.stale_reports_dropped hp (by decide) { outer := () } rfl (roundTurns.take 3)
  obtain ⟨hsame, -⟩ | ⟨r, start, hf, hstart, -, h⟩ := hmoves 0 30
  · exact absurd (congrArg List.length hsame) (by decide)
  · cases (show some 0 = some start from hstart)
    exact ⟨r, hf, rfl, h⟩

/-- It comes after the round, and replaces the first provider once more, which has had no other timeout since. -/
theorem stale_report_heard :
    let x := slowPair.runDated { traffic := { deck := { outer := () } } } roundTurns
    let y := slowPair.turn x.traffic (.move 0 30)
    x.traffic.flights.map Flight.place = [0] ∧ x.starts = [0] ∧
      x.traffic.reports.map Report.next = [some 1, some 0] ∧
      slowPair.streak x.traffic = ⟨0, 0⟩ ∧ slowPair.streak y = ⟨1, 0⟩ := by
  decide

end Sticky

end Passcode
