/-
  Passcode.Proofs.Dispatch.Wording — which faults of a provider that posts messages can be told in one language.

  Most of what such a provider answers names nothing but the provider, the template or a masked number. A report
  on postings that failed is different: for each of them it has the whole text of a fault, in both languages, so
  its payload holds separators. What is read as the English half of a report ends in the middle of its first
  entry, and what is read as the Chinese half is the Chinese half of that entry (`report_misread`).

  Proved: what a send can fail with (`send_fails`); and that both halves of every fault are read back whole
  exactly if its payloads are plain, never for a report, and for all else that the provider answers when its own
  name and the template's id are plain (`halves_read_back`).
-/

import Passcode.Proofs.Dispatch.Batch
import Passcode.Proofs.Fault

namespace Passcode.Twilio

open Bilingual (Plain englishOf chineseOf separator)

variable {σ : Type} {c : ProviderSettings} {message : Message} {fault : SendFault}

/-- A fault that lists postings that failed. -/
def IsReport (c : ProviderSettings) (fault : SendFault) : Prop :=
  ∃ postings : List Posting, postings.filterMap (Posting.report? c) ≠ [] ∧
    fault = .provider c.name ("; ".intercalate (postings.filterMap (Posting.report? c)))

/-- Whatever else a send can fail with. -/
inductive Fails (c : ProviderSettings) (templates : Templates) (message : Message) : SendFault → Prop
  | refused {fault : SendFault} (h : Refused c templates message fault) : Fails c templates message fault
  | late : Fails c templates message (.providerTimeout c.name)
  | stopped : Fails c templates message .cancelled

theorem delivery_eq_error {postings : List Posting} {ending : Ending}
    (h : ending.delivery c (postings.filterMap (Posting.report? c)) = .error fault) :
    IsReport c fault ∨ fault = .providerTimeout c.name ∨ fault = .cancelled := by
  cases ending with
  | late => exact .inr (.inl (Except.error.inj h).symm)
  | stopped => exact .inr (.inr (Except.error.inj h).symm)
  | whole =>
    rw [Ending.delivery] at h
    by_cases hnone : postings.filterMap (Posting.report? c) = []
    · rw [if_pos hnone] at h
      cases h
    · rw [if_neg hnone] at h
      exact .inl ⟨postings, hnone, (Except.error.inj h).symm⟩

/-- A send fails with a report, or before anything is posted, or for want of time. -/
theorem send_fails {templates : Templates} {line : Line σ} {ctx : Context} {t : Nat} {s : σ}
    (h : ((provider c templates line ctx message).run t s).value = .error fault) :
    IsReport c fault ∨ Fails c templates message fault := by
  rcases compose_spec c templates message with ⟨reason, hcompose, hrefused⟩ | ⟨body, numbers, hcompose, -⟩
  · simp only [provider, hcompose, Task.run_pure, Except.error.injEq] at h
    subst h
    exact .inr (.refused hrefused)
  · obtain ⟨postings, finish, s', ending, -, -, -, hplain⟩ := postEach_posts line c ctx body numbers [] t s []
    rw [List.nil_append] at hplain
    simp only [provider, hcompose, hplain] at h
    rcases delivery_eq_error h with hreport | rfl | rfl
    · exact .inl hreport
    · exact .inr .late
    · exact .inr .stopped

/-! ## Payloads -/

/-- An entry of a report holds a separator. -/
theorem infix_report? {p : Posting} {report : String} (h : p.report? c = some report) :
    separator.toList <:+: report.toList := by
  unfold Posting.report? at h
  cases hfate : p.fate c with
  | accepted => simp [hfate] at h
  | late => simp [hfate] at h
  | failed reason =>
    simp only [hfate, Option.some.injEq] at h
    rw [← h, String.toList_append, Bilingual.toList_text]
    exact ((List.infix_append' _ _ _).trans (List.suffix_append _ _).isInfix)

theorem prefix_intercalate (separator first : String) (rest : List String) :
    first.toList <+: (separator.intercalate (first :: rest)).toList := by
  cases rest with
  | nil => rw [String.intercalate_singleton]
  | cons second rest =>
    rw [String.intercalate_cons_cons, String.toList_append, String.toList_append, List.append_assoc]
    exact List.prefix_append _ _

theorem report_not_plain (h : IsReport c fault) : ¬ ∀ payload ∈ (Fault.send fault).payloads, Plain payload := by
  obtain ⟨postings, hsome, rfl⟩ := h
  intro hplain
  obtain ⟨report, reports, hreports⟩ := List.exists_cons_of_ne_nil hsome
  obtain ⟨p, -, hreport⟩ := List.mem_filterMap.mp (hreports ▸ List.mem_cons_self : report ∈ _)
  apply hplain _ (List.mem_cons_of_mem _ List.mem_cons_self)
  rw [hreports]
  have hfirst := (prefix_intercalate "; " report reports).isInfix
  exact ((infix_report? hreport).trans hfirst).trans (List.infix_append' [' '] _ [' '])

/-- A masked number is stars, plus signs and digits. -/
theorem plain_mask (s : String) : Plain (Phone.mask s) := by
  apply Bilingual.plain_of_barless
  have hsignificant : '|' ∉ Phone.significant s.toList := by
    intro h
    exact absurd (List.mem_filter.mp h).2 (by decide)
  rw [Phone.mask, String.toList_ofList, Phone.maskChars]
  split
  · simp only [List.mem_append, not_or]
    exact ⟨⟨fun h => hsignificant (List.mem_of_mem_take h), by decide⟩, fun h => hsignificant (List.mem_of_mem_drop h)⟩
  · decide

theorem plain_unknown (id : String) : Plain ("unknown template " ++ id) ↔ Plain id := by
  have hwords : ¬ separator.toList <:+: ' ' :: "unknown template".toList ++ [' '] := by decide +kernel
  have htext : ' ' :: (("unknown template " ++ id).toList ++ [' ']) =
      ' ' :: "unknown template".toList ++ ' ' :: (id.toList ++ [' ']) := by
    rw [String.toList_append]
    rfl
  rw [Plain, htext, Bilingual.infix_blank, or_iff_right hwords, Plain]

theorem fails_plain {templates : Templates} (h : Fails c templates message fault) (hname : Plain c.name)
    (hid : Plain message.template) : ∀ payload ∈ (Fault.send fault).payloads, Plain payload := by
  cases h with
  | refused h =>
    cases h with
    | unknown => exact List.forall_mem_cons.mpr ⟨hname, by simpa [plain_unknown] using hid⟩
    | tooLong => exact List.forall_mem_cons.mpr ⟨hname, by simpa using (by decide +kernel)⟩
    | recipient => exact List.forall_mem_singleton.mpr (plain_mask _)
  | late => exact List.forall_mem_singleton.mpr hname
  | stopped => exact fun _ h => nomatch h

/-! ## Halves -/

/-- For every fault, whatever its payloads: what is read as the English half is the beginning of it, and each half
    is read back whole exactly if all payloads are plain. So of what a provider that posts messages answers, a
    report on postings that failed has neither of its halves read back, and all other faults have both, if the
    provider's name and the template's id are plain. -/
theorem halves_read_back (f : Fault) :
    (englishOf f.message.text).toList <+: f.message.english.toList ∧
    (englishOf f.message.text = f.message.english ↔ ∀ payload ∈ f.payloads, Plain payload) ∧
    (chineseOf f.message.text = f.message.chinese ↔ ∀ payload ∈ f.payloads, Plain payload) ∧
    ∀ (σ : Type) (c : ProviderSettings) (templates : Templates) (line : Line σ) (ctx : Context) (message : Message)
      (t : Nat) (s : σ) (fault : SendFault),
      ((provider c templates line ctx message).run t s).value = .error fault → f = .send fault →
      (IsReport c fault → englishOf f.message.text ≠ f.message.english ∧ chineseOf f.message.text ≠ f.message.chinese) ∧
      (¬ IsReport c fault → Plain c.name → Plain message.template →
        englishOf f.message.text = f.message.english ∧ chineseOf f.message.text = f.message.chinese) := by
  refine ⟨f.message.englishOf_isPrefix, f.english_iff, f.chinese_iff, ?_⟩
  rintro σ c templates line ctx message t s fault h rfl
  have henglish := (Fault.send fault).english_iff
  have hchinese := (Fault.send fault).chinese_iff
  constructor
  · intro hreport
    have hnot := report_not_plain hreport
    exact ⟨mt henglish.mp hnot, mt hchinese.mp hnot⟩
  · intro hother hname hid
    have hplain := fails_plain ((send_fails h).resolve_left hother) hname hid
    exact ⟨henglish.mpr hplain, hchinese.mpr hplain⟩

/-! ### A provider whose requests are refused, or never answered -/

theorem halves_read_back_sample :
    let e := (provider sampleSettings sampleTemplates (sampleLine .silent) .unbounded sampleMessage).run 0 ()
    e.value = .error (.providerTimeout "api") ∧
    englishOf (SendFault.providerTimeout "api").message.text = "SMS provider api timed out" ∧
    chineseOf (SendFault.providerTimeout "api").message.text = "短信服务商 api 超时" := by
  intro e
  have hvalue : e.value = .error (.providerTimeout "api") := by decide +kernel
  have hother : ¬ IsReport sampleSettings (.providerTimeout "api") := by
    rintro ⟨postings, -, h⟩
    cases h
  have hread := ((halves_read_back (.send (.providerTimeout "api"))).2.2.2 Unit sampleSettings sampleTemplates
    (sampleLine .silent) .unbounded sampleMessage 0 () _ hvalue rfl).2 hother (by decide +kernel) (by decide +kernel)
  exact ⟨hvalue, hread.1, hread.2⟩

/-- One recipient, whose posting is refused: the English half ends where the entry's Chinese half begins, and what
    is read as the Chinese half is that of the entry. -/
theorem report_misread :
    let e := (provider sampleSettings sampleTemplates (sampleLine (.answer 410 (some ""))) .unbounded
      sampleMessage).run 0 ()
    let fault : SendFault := .provider "api"
      ("+15****0001: SMS provider api failed: 410 Gone | " ++ "短信服务商 api 发送失败: 410 Gone")
    e.value = .error fault ∧
    englishOf fault.message.text = "SMS provider api failed: +15****0001: SMS provider api failed: 410 Gone" ∧
    englishOf fault.message.text ≠ fault.message.english ∧
    chineseOf fault.message.text = "短信服务商 api 发送失败: 410 Gone" ∧
    chineseOf fault.message.text ≠ fault.message.chinese := by
  intro e fault
  have hvalue : e.value = .error fault := by decide +kernel
  let entry : Bilingual := ⟨"SMS provider api failed: +15****0001: SMS provider api failed: 410 Gone",
    Bilingual.text ⟨"短信服务商 api 发送失败: 410 Gone",
      "短信服务商 api 发送失败: +15****0001: SMS provider api failed: 410 Gone | 短信服务商 api 发送失败: 410 Gone"⟩⟩
  have htext : fault.message.text = entry.text := by decide +kernel
  have hfirst : Text.Clear separator.toList entry.english.toList := by decide +kernel
  have hsecond : Text.Clear separator.toList "短信服务商 api 发送失败: 410 Gone".toList := by decide +kernel
  have hnot : ¬ ∀ payload ∈ (Fault.send fault).payloads, Plain payload := by decide +kernel
  refine ⟨hvalue, ?_, mt (Fault.send fault).english_iff.mp hnot, ?_, mt (Fault.send fault).chinese_iff.mp hnot⟩
  · rw [htext]
    exact entry.englishOf_text_iff.mpr hfirst
  · rw [htext, Bilingual.chineseOf_text hfirst]
    exact (Bilingual.englishOf_text_iff _).mpr hsecond

end Passcode.Twilio
