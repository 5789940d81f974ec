/-
  Passcode.Proofs.Settings.RoundTrip — settings that are written read back.

  What is written of settings gives every field, those with a default and those without a value included.
  So none of the defaults comes in, and each part reads back by itself.

  Templates are a map, which is written in no particular order.

  Proved: settings survive their text, in whatever order the templates are written (`written_settings_read_back`).
-/

import Passcode.Proofs.Json.Record
import Passcode.Proofs.Json.RoundTrip
import Passcode.Settings.App

namespace Passcode

open Json (asDictionary?_record asList?_array asName?_str asRecord?_whole asString?_str)
open Json.Record (required withDefault)

/-! ## Choices -/

@[simp] theorem Environment.isPlain_toJson (e : Environment) : e.toJson.isPlain = true := rfl

@[simp] theorem Environment.ofJson?_toJson (e : Environment) : ofJson? e.toJson = some e := by
  cases e <;> rfl

theorem LogFormat.ofName?_name (f : LogFormat) : ofName? f.name = some f := by
  cases f <;> rfl

theorem StoreBackend.ofName?_name (b : StoreBackend) : ofName? b.name = some b := by
  cases b <;> rfl

theorem ProviderKind.ofName?_name (k : ProviderKind) : ofName? k.name = some k := by
  cases k <;> rfl

theorem FailoverStrategy.ofName?_name (s : FailoverStrategy) : ofName? s.name = some s := by
  cases s <;> rfl

/-! ## Parts -/

@[simp] theorem CacheSettings.isPlain_toJson (c : CacheSettings) : c.toJson.isPlain = true := by
  simp [toJson]

@[simp] theorem CacheSettings.ofJson?_toJson (c : CacheSettings) : ofJson? c.toJson = some c := by
  simp [ofJson?, toJson, asRecord?_whole, required, withDefault, List.lookup_cons]

@[simp] theorem CodeSettings.isPlain_toJson (c : CodeSettings) : c.toJson.isPlain = true := by
  simp [toJson]

@[simp] theorem CodeSettings.ofJson?_toJson (c : CodeSettings) : ofJson? c.toJson = some c := by
  have hname := asName?_str StoreBackend.ofName?_name
  simp [ofJson?, toJson, asRecord?_whole, required, withDefault, List.lookup_cons, hname]

@[simp] theorem TokenSettings.isPlain_toJson (c : TokenSettings) : c.toJson.isPlain = true := by
  simp [toJson]

@[simp] theorem TokenSettings.ofJson?_toJson (c : TokenSettings) : ofJson? c.toJson = some c := by
  simp [ofJson?, toJson, asRecord?_whole, required, withDefault, List.lookup_cons]

@[simp] theorem LogSettings.isPlain_toJson (c : LogSettings) : c.toJson.isPlain = true := by
  simp [toJson]

@[simp] theorem LogSettings.ofJson?_toJson (c : LogSettings) : ofJson? c.toJson = some c := by
  have hname := asName?_str LogFormat.ofName?_name
  simp [ofJson?, toJson, asRecord?_whole, required, withDefault, List.lookup_cons, hname]

@[simp] theorem ProviderSettings.isPlain_toJson (c : ProviderSettings) : c.toJson.isPlain = true := by
  simp [toJson]

@[simp] theorem ProviderSettings.ofJson?_toJson (c : ProviderSettings) : ofJson? c.toJson = some c := by
  have hname := asName?_str ProviderKind.ofName?_name
  simp [ofJson?, toJson, asRecord?_whole, required, withDefault, List.lookup_cons, hname]

@[simp] theorem RetrySettings.isPlain_toJson (c : RetrySettings) : c.toJson.isPlain = true := by
  simp [toJson]

@[simp] theorem RetrySettings.ofJson?_toJson (c : RetrySettings) : ofJson? c.toJson = some c := by
  simp [ofJson?, toJson, asRecord?_whole, required, List.lookup_cons]

@[simp] theorem RateSettings.isPlain_toJson (c : RateSettings) : c.toJson.isPlain = true := by
  simp [toJson]

@[simp] theorem RateSettings.ofJson?_toJson (c : RateSettings) : ofJson? c.toJson = some c := by
  simp [ofJson?, toJson, asRecord?_whole, required, withDefault, List.lookup_cons]

@[simp] theorem DeliverySettings.isPlain_toJson (c : DeliverySettings) : c.toJson.isPlain = true := by
  simp [toJson]

/-- Of templates with one id only the last would be read. -/
theorem DeliverySettings.ofJson?_toJson (c : DeliverySettings) (hdistinct : (c.templates.map Prod.fst).Nodup) :
    ofJson? c.toJson = some c := by
  have hproviders := asList?_array ProviderSettings.ofJson?_toJson c.providers
  have hstrategy := asName?_str FailoverStrategy.ofName?_name
  have htemplates := asDictionary?_record asString?_str hdistinct
  simp [ofJson?, toJson, asRecord?_whole, required, withDefault, List.lookup_cons, hproviders, hstrategy, htemplates]

/-! ## All settings -/

namespace Settings

theorem isPlain_toJson (c : Settings) : c.toJson.isPlain = true := by
  simp [toJson]

theorem ofJson?_toJson (c : Settings) (hdistinct : (c.delivery.templates.map Prod.fst).Nodup) :
    ofJson? c.toJson = some c := by
  have hdelivery := c.delivery.ofJson?_toJson hdistinct
  simp [ofJson?, toJson, asRecord?_whole, required, withDefault, List.lookup_cons, hdelivery]

/-- The settings with other templates, or with the same ones in another order. -/
def withTemplates (c : Settings) (templates : Templates) : Settings :=
  { c with delivery := { c.delivery with templates } }

/-- The same settings, with the same body for every template id. -/
structure Same (c r : Settings) : Prop where
  bodies : ∀ id, r.delivery.templates.body? id = c.delivery.templates.body? id
  rest : r.withTemplates c.delivery.templates = c

end Settings

/-- The order in which templates with different ids are kept does not matter. -/
theorem Templates.body?_perm {xs ys : Templates} (h : xs.Perm ys) (hdistinct : (xs.map Prod.fst).Nodup) (id : String) :
    xs.body? id = ys.body? id := by
  induction h with
  | nil => rfl
  | @cons t xs ys _ ih =>
    obtain ⟨first, body⟩ := t
    have htail : xs.lookup id = ys.lookup id := ih (List.nodup_cons.mp hdistinct).2
    rw [body?, body?, List.lookup_cons, List.lookup_cons, htail]
  | swap t u rest =>
    obtain ⟨second, secondBody⟩ := t
    obtain ⟨first, firstBody⟩ := u
    have hne : first ≠ second := fun heq => (List.nodup_cons.mp hdistinct).1 (heq ▸ List.mem_cons_self)
    simp only [body?, List.lookup_cons]
    by_cases hsecond : id = second
    · rw [hsecond, beq_false_of_ne hne.symm, beq_self_eq_true]
    · rw [beq_false_of_ne hsecond]
  | trans hxy _ ihx ihy => exact (ihx hdistinct).trans (ihy ((hxy.map Prod.fst).nodup_iff.mp hdistinct))

/-- Settings survive their text: it is read, as the same settings, in whatever order the templates were written. -/
theorem written_settings_read_back (c : Settings) (hdistinct : (c.delivery.templates.map Prod.fst).Nodup)
    (written : Templates) (horder : written.Perm c.delivery.templates) :
    ∃ r, (Json.parse? (c.withTemplates written).toJson.text).bind Settings.ofJson? = some r ∧ c.Same r := by
  have hwritten : (written.map Prod.fst).Nodup := (horder.map Prod.fst).nodup_iff.mpr hdistinct
  refine ⟨c.withTemplates written, ?_, fun id => Templates.body?_perm horder hwritten id, rfl⟩
  rw [Json.parse?_text (c.withTemplates written).isPlain_toJson, Option.bind_some]
  exact (c.withTemplates written).ofJson?_toJson hwritten

/-- Settings at the bounds of their fields, with texts that are written with escapes. -/
def extremeSettings : Settings where
  environment := .staging
  cache := { url := "redis://\"quoted\"\\\u0000", connectionTimeout := 18446744073709551615, keySpace := some "" }
  code := { maxAttempts := -9223372036854775808, backend := .memory }
  token := { issuer := some "\u001f\u007f", accessExpiry := 9223372036854775807 }
  delivery := {
    providers := [{ name := "", kind := .twilio, requestTimeoutSecs := 0 }, { name := "短信", kind := .memory }]
    strategy := .roundRobin
    templates := [("", "\t\r\n"), ("😀", "\x7bcode\x7d")]
    templateSecret := some "null" }

theorem written_settings_read_back_sample : (extremeSettings.delivery.templates.map Prod.fst).Nodup ∧
    extremeSettings.delivery.templates.reverse.Perm extremeSettings.delivery.templates ∧
    ∃ r, (Json.parse? (extremeSettings.withTemplates extremeSettings.delivery.templates.reverse).toJson.text).bind
      Settings.ofJson? = some r ∧ extremeSettings.Same r := by
  have hdistinct : (extremeSettings.delivery.templates.map Prod.fst).Nodup := by decide
  have horder := List.reverse_perm extremeSettings.delivery.templates
  exact ⟨hdistinct, horder, written_settings_read_back extremeSettings hdistinct _ horder⟩

end Passcode
