/-
  Passcode.Proofs.Keyspace.Server — marks: texts put under a key for some seconds.

  A mark is there as long as its expiry is not over, and to put another one under the same key, for
  as many seconds, only extends it.

  Proved: what a server does with the two requests about marks (`serve_exists`, `serve_setex`); a
  mark is found up to its end (`Marked.found`), and putting marks keeps it (`Marked.setFor`). The end of
  a mark is the one it was put with (`endsAt_of_setFor`) as long as none is put under its key
  (`EndsAt.setFor`); after that it is not found (`EndsAt.lapsed`).
-/

import Passcode.Keyspace.Server
import Passcode.Proofs.Text.Numeral

namespace Passcode.Keyspace

theorem serve_exists (k : Keyspace) (now : Int) (key : String) :
    k.serve now (.command ["EXISTS", key]) = (.number (if (k.get? now key).isSome then 1 else 0), k) := by
  have hu : "EXISTS".toUpper = "EXISTS" := by decide +kernel
  simp only [serve, command, List.head?_cons, Option.map_some, hu, Option.toList_some, List.drop_succ_cons,
    List.drop_zero, List.cons_append, List.nil_append]

theorem serve_setex_eq (k : Keyspace) (now : Int) (key seconds value : String) :
    k.serve now (.command ["SETEX", key, seconds, value]) =
      match time? seconds with
      | some s => settle k (.status "OK") (k.setFor now key value s)
      | none => (.error "ERR value is not an integer or out of range", k) := by
  have hu : "SETEX".toUpper = "SETEX" := by decide +kernel
  cases ht : time? seconds with
  | none | some s =>
    simp only [serve, command, List.head?_cons, Option.map_some, hu, Option.toList_some, List.drop_succ_cons,
      List.drop_zero, List.cons_append, List.nil_append, ht]

theorem serve_setex (k : Keyspace) (now : Int) (key value : String) {seconds : Nat}
    (h : (seconds : Int) ≤ Int64.maxValue.toInt) :
    k.serve now (.command ["SETEX", key, toString seconds, value]) =
      settle k (.status "OK") (k.setFor now key value seconds) := by
  have hmin := Int64.toInt_minValue_lt_zero
  have ht : time? (toString seconds) = some (seconds : Int) := plainInteger?_toString (i := seconds) (by omega) h
  rw [serve_setex_eq, ht]

/-- A server that runs commands does not ask to send them again. -/
theorem fault_final (e : CommandFault) : (Reply.error e.text).isPassing = false := by
  cases e <;> decide +kernel

theorem settle_final (k : Keyspace) (text : String) (r : Except CommandFault Keyspace) :
    (settle k (.status text) r).1.isPassing = false := by
  cases r with
  | ok k' => rfl
  | error e => exact fault_final e

/-- A key holds something that does not expire before an instant. -/
def Marked (k : Keyspace) (key : String) (last : Int) : Prop :=
  ∃ h e, k.holdings.get? key = some h ∧ h.expiresAt = some e ∧ last ≤ e

variable {k : Keyspace} {key : String} {last now : Int}

theorem Marked.found (hm : k.Marked key last) (h : now ≤ last) : (k.get? now key).isSome = true := by
  obtain ⟨held, e, hg, he, hle⟩ := hm
  have hl : Live now held := by
    intro x hx
    rw [he] at hx
    cases hx
    omega
  simp [get?, hg, Option.filter, hl]

theorem Marked.mono {last' : Int} (hm : k.Marked key last) (h : last' ≤ last) : k.Marked key last' := by
  obtain ⟨held, e, hg, he, hle⟩ := hm
  exact ⟨held, e, hg, he, Int.le_trans h hle⟩

theorem setFor_ok {value : String} {seconds : Int} {k' : Keyspace} (h : k.setFor now key value seconds = .ok k') :
    k' = k.put key ⟨.text value, some (now + seconds * 1000)⟩ := by
  unfold setFor at h
  split at h
  · cases h
  · cases h
    rfl

/-- To put a mark under any key leaves a mark that does not outlast the new one. -/
theorem Marked.setFor (hm : k.Marked key last) {key' value : String} {seconds : Int} {k' : Keyspace}
    (h : k.setFor now key' value seconds = .ok k') (hle : last ≤ now + seconds * 1000) : k'.Marked key last := by
  rw [setFor_ok h]
  by_cases hk : key = key'
  · subst hk
    exact ⟨_, _, Table.get?_insert_self .., rfl, hle⟩
  · obtain ⟨held, e, hg, he, hl⟩ := hm
    exact ⟨held, e, (Table.get?_insert ..).trans ((if_neg hk).trans hg), he, hl⟩

/-! ## The end of a mark -/

/-- A key holds something that expires at an instant. -/
def EndsAt (k : Keyspace) (key : String) (last : Int) : Prop :=
  ∃ h, k.holdings.get? key = some h ∧ h.expiresAt = some last

theorem EndsAt.marked (hm : k.EndsAt key last) : k.Marked key last := by
  obtain ⟨held, hg, he⟩ := hm
  exact ⟨held, last, hg, he, Int.le_refl _⟩

theorem EndsAt.lapsed (hm : k.EndsAt key last) (h : last < now) : k.get? now key = none := by
  obtain ⟨held, hg, he⟩ := hm
  have hl : ¬ Live now held := by
    intro hlive
    have := hlive last he
    omega
  simp [get?, hg, Option.filter, hl]

theorem endsAt_of_setFor {value : String} {seconds : Int} {k' : Keyspace}
    (h : k.setFor now key value seconds = .ok k') : k'.EndsAt key (now + seconds * 1000) := by
  rw [setFor_ok h]
  exact ⟨_, Table.get?_insert_self .., rfl⟩

/-- To put a mark under another key does not change when a mark ends. -/
theorem EndsAt.setFor (hm : k.EndsAt key last) {key' value : String} {seconds : Int} {k' : Keyspace}
    (h : k.setFor now key' value seconds = .ok k') (hne : key ≠ key') : k'.EndsAt key last := by
  rw [setFor_ok h]
  obtain ⟨held, hg, he⟩ := hm
  exact ⟨held, (Table.get?_insert ..).trans ((if_neg hne).trans hg), he⟩

end Passcode.Keyspace
