/-
  Passcode.Proofs.Json.Record — a record that is written reads back, field by field.

  Proved: what is found in a record is its fields with a declared name, in their order
  (`asRecord?_record`), and so every field when all are declared (`asRecord?_whole`); what is found under a
  declared name does not depend on the other names (`lookup_asRecord?_object`); a whole number is read as one
  of 64 bits when it is one (`asInt?_int`); numbers of a machine's width, choices, lists and dictionaries of
  what reads back read back (`asUInt64?_nat`, `asName?_str`, `asList?_array`, `asDictionary?_record` and
  others).
-/

import Passcode.Token.Claims

namespace Passcode.Json

theorem foldlM_add? (names : List String) (fields : List (String × Json)) (found : List (String × Json))
    (hd : (found.map Prod.fst ++ fields.map Prod.fst).Nodup) :
    (fields.map fun f => (some f.1, f.2)).foldlM (Record.add? names) found =
      some (found ++ fields.filter fun f => names.contains f.1) := by
  induction fields generalizing found with
  | nil => simp
  | cons f fields ih =>
    have hnew : (found.any (·.1 == f.1)) = false := by
      rw [List.nodup_append] at hd
      simp only [List.any_eq_false, beq_iff_eq]
      intro p hp heq
      exact hd.2.2 p.1 (List.mem_map_of_mem hp) f.1 (by simp) heq
    rw [List.map_cons, List.foldlM_cons]
    by_cases hn : names.contains f.1 = true
    · have hadd : Record.add? names found (some f.1, f.2) = some (found ++ [f]) := by
        simp only [Record.add?, Option.bind_eq_bind, Option.bind_some, hn, hnew, Bool.false_eq_true, if_true, if_false]
      rw [hadd, Option.bind_eq_bind, Option.bind_some, ih, List.filter_cons, if_pos hn, List.append_assoc]
      · rfl
      · simpa using hd
    · have hadd : Record.add? names found (some f.1, f.2) = some found := by
        simp only [Record.add?, Option.bind_eq_bind, Option.bind_some, hn, Bool.false_eq_true, if_false]
      rw [hadd, Option.bind_eq_bind, Option.bind_some, ih, List.filter_cons, if_neg hn]
      · exact hd.sublist (List.Sublist.append_left (List.sublist_cons_self _ _) _)

/-- What is found in a record whose fields all have names of their own. -/
theorem asRecord?_record {names : List String} {fields : List (String × Json)}
    (hd : (fields.map Prod.fst).Nodup) :
    (record fields).asRecord? names = some ⟨fields.filter fun f => names.contains f.1, false⟩ := by
  have h := foldlM_add? names fields [] (by simpa using hd)
  simp only [record, asRecord?, h, Option.map_some, List.nil_append]

/-- What is found in a record that gives every declared field, in the declared order. -/
theorem asRecord?_whole {names : List String} {fields : List (String × Json)} (hd : names.Nodup)
    (hn : fields.map Prod.fst = names) : (record fields).asRecord? names = some ⟨fields, false⟩ := by
  rw [asRecord?_record (hn ▸ hd), List.filter_eq_self.mpr]
  intro f hf
  exact List.contains_iff_mem.mpr (hn ▸ List.mem_map_of_mem hf)

/-- The first value that an object gives for a name. -/
def given (name : String) (fields : List (Option String × Json)) : Option Json :=
  (fields.find? (·.1 == some name)).map Prod.snd

/-- A field is found from now on under its own name, which is new then, and changes nothing else. -/
theorem lookup_add? {names : List String} {name : String} (hn : name ∈ names) {field : Option String × Json}
    {found next : List (String × Json)} (h : Record.add? names found field = some next) :
    next.lookup name = (found.lookup name).or (given name [field]) := by
  obtain ⟨_ | key, value⟩ := field
  · simp [Record.add?] at h
  · simp only [Record.add?, Option.bind_eq_bind, Option.bind_some] at h
    by_cases hk : key = name
    · subst hk
      rw [if_pos (List.contains_iff_mem.mpr hn)] at h
      by_cases hold : found.any (·.1 == key) = true
      · rw [if_pos hold] at h
        cases h
      · rw [if_neg hold] at h
        cases h
        have hnew : found.lookup key = none := by
          rw [List.lookup_eq_none_iff]
          intro p hp
          rw [bne_iff_ne]
          rintro rfl
          exact hold (List.any_eq_true.mpr ⟨p, hp, beq_self_eq_true _⟩)
        simp [given, List.lookup_append, hnew]
    · have hother : (name == key) = false := by simpa using fun h : name = key => hk h.symm
      have hsame : next.lookup name = found.lookup name := by
        split at h
        · split at h
          · cases h
          · cases h
            simp [List.lookup_append, List.lookup_cons, hother]
        · cases h
          rfl
      simp [hsame, given, hk]

theorem lookup_foldlM_add? {names : List String} {name : String} (hn : name ∈ names)
    {fields : List (Option String × Json)} {found all : List (String × Json)}
    (h : fields.foldlM (Record.add? names) found = some all) :
    all.lookup name = (found.lookup name).or (given name fields) := by
  induction fields generalizing found with
  | nil =>
    cases h
    simp [given]
  | cons field fields ih =>
    rw [List.foldlM_cons, Option.bind_eq_bind, Option.bind_eq_some_iff] at h
    obtain ⟨next, hadd, hrest⟩ := h
    have hgiven : given name (field :: fields) = (given name [field]).or (given name fields) := by
      by_cases hk : field.1 = some name <;> simp [given, hk]
    rw [ih hrest, lookup_add? hn hadd, hgiven, Option.or_assoc]

/-- Of a declared name, the value that an object gives is found. -/
theorem lookup_asRecord?_object {names : List String} {name : String} (hn : name ∈ names)
    {fields : List (Option String × Json)} {r : Record} (h : (object fields).asRecord? names = some r) :
    r.fields.lookup name = given name fields := by
  rw [asRecord?, Option.map_eq_some_iff] at h
  obtain ⟨all, hall, rfl⟩ := h
  simpa using lookup_foldlM_add? hn hall

/-! ## Numbers -/

/-- A number of 64 bits. -/
def Fits (i : Int) : Prop := Int64.minValue.toInt ≤ i ∧ i ≤ Int64.maxValue.toInt

instance (i : Int) : Decidable (Fits i) := inferInstanceAs (Decidable (_ ∧ _))

theorem asInt?_int (i : Int) : (int i).asInt? = if Fits i then some i else none := by
  simp only [asInt?, asInt64?, asWholeIn?, int, asWhole?, Option.filter]
  by_cases h : Int64.minValue.toInt ≤ i ∧ i ≤ Int64.maxValue.toInt
  · have hi : (Int64.ofInt i).toInt = i := Int64.toInt_ofInt_of_le h.1 (Int.lt_add_one_of_le h.2)
    simp only [Fits, h, and_self, decide_true, if_true, Option.map_some, hi]
  · simp only [Fits, h, decide_false, Bool.false_eq_true, if_false, Option.map_none]

theorem asWholeIn?_int {low high i : Int} (hl : low ≤ i) (hh : i ≤ high) : (int i).asWholeIn? low high = some i := by
  simp only [asWholeIn?, int, asWhole?, Option.filter, hl, hh, and_self, decide_true, if_true]

@[simp] theorem asUInt64?_nat (n : UInt64) : (nat n.toNat).asUInt64? = some n := by
  have hn := n.toNat_lt
  rw [asUInt64?, nat, ← int, asWholeIn?_int (by omega) (by unfold UInt64.size; omega)]
  simp

@[simp] theorem asUInt32?_nat (n : UInt32) : (nat n.toNat).asUInt32? = some n := by
  have hn := n.toNat_lt
  rw [asUInt32?, nat, ← int, asWholeIn?_int (by omega) (by unfold UInt32.size; omega)]
  simp

@[simp] theorem asInt64?_int (i : Int64) : (int i.toInt).asInt64? = some i := by
  rw [asInt64?, asWholeIn?_int i.minValue_le_toInt i.toInt_le]
  simp

/-! ## Texts and choices -/

@[simp] theorem asString?_str (s : String) : (str s).asString? = some s := rfl

@[simp] theorem asBool?_bool (b : Bool) : (bool b).asBool? = some b := rfl

@[simp] theorem asOption?_ofOption (o : Option String) : (ofOption str o).asOption? asString? = some o := by
  cases o <;> rfl

variable {α : Type}

/-- A choice is known by its name. -/
theorem asName?_str {read : String → Option α} {name : α → String} (h : ∀ a, read (name a) = some a) (a : α) :
    (str (name a)).asName? read = some a := h a

/-! ## Lists and dictionaries -/

section
variable {encode : α → Json} {decode : Json → Option α} (h : ∀ a, decode (encode a) = some a)
include h

theorem asList?_array (as : List α) : (array (as.map encode)).asList? decode = some as := by
  rw [asList?]
  induction as with
  | nil => rfl
  | cons a as ih =>
    simp only [List.map_cons, List.mapM_cons, h a, ih, Option.bind_eq_bind, Option.bind_some, Option.pure_def]

/-- Entries that all have new names are added in their order. -/
theorem foldlM_addNamed? (entries known : List (String × α))
    (hd : (known.map Prod.fst ++ entries.map Prod.fst).Nodup) :
    (entries.map fun p => (some p.1, encode p.2)).foldlM (addNamed? decode) known = some (known ++ entries) := by
  induction entries generalizing known with
  | nil => simp
  | cons p entries ih =>
    have hnew : (known.any (·.1 == p.1)) = false := by
      simp only [List.any_eq_false, beq_iff_eq]
      intro q hq heq
      exact (List.nodup_append.mp hd).2.2 q.1 (List.mem_map_of_mem hq) p.1 (by simp) heq
    have hadd : addNamed? decode known (some p.1, encode p.2) = some (known ++ [p]) := by
      simp only [addNamed?, Option.bind_eq_bind, Option.bind_some, h, hnew, Bool.false_eq_true, if_false]
      rfl
    rw [List.map_cons, List.foldlM_cons, hadd, Option.bind_eq_bind, Option.bind_some, ih, List.append_assoc]
    · rfl
    · simpa using hd

theorem asDictionary?_record {entries : List (String × α)} (hd : (entries.map Prod.fst).Nodup) :
    (record (entries.map fun p => (p.1, encode p.2))).asDictionary? decode = some entries := by
  rw [record, asDictionary?, List.map_map]
  exact foldlM_addNamed? h entries [] hd

end

end Passcode.Json
