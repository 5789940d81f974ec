/-
  Passcode.Proofs.Fault — how the halves of a fault's text are read back.

  The text of a fault is one line: its English half, a separator, its Chinese half. It is cut where the first
  separator stands, and payloads come before that place as they are. So a payload that holds a separator, or
  makes one with the blanks around it, moves the cut into the English half: what is read as English ends there,
  and what is read as Chinese begins there.

  Proved: a message is fixed words around its payloads (`Fault.frame_message`), and no fixed words make a
  separator (`Bilingual.infix_fill_iff`). For every fault both halves are read back whole when each payload is plain,
  and neither of them is otherwise (`Fault.english_iff`, `Fault.chinese_iff`).
-/

import Mathlib.Algebra.GroupWithZero.Nat
import Passcode.Fault
import Passcode.Proofs.Text.Numeral
import Passcode.Proofs.Text.Pattern

namespace Passcode

namespace Bilingual

/-! ## Where a text is cut -/

theorem separator_ne_nil : separator.toList ≠ [] := by decide

theorem toList_text (b : Bilingual) : b.text.toList = b.english.toList ++ (separator.toList ++ b.chinese.toList) := by
  rw [text, String.toList_append, String.toList_append, List.append_assoc]

/-- The English half is read back if no separator comes before the one that follows it. -/
theorem englishOf_text_iff (b : Bilingual) :
    englishOf b.text = b.english ↔ Text.Clear separator.toList b.english.toList := by
  obtain ⟨a, cs, -, hclear, -, hsplit⟩ := Text.splitFrom_head separator_ne_nil b.english.toList b.chinese.toList
  have hread : englishOf b.text = String.ofList a := by
    rw [englishOf, Text.split, toList_text, hsplit]
    rfl
  rw [hread]
  constructor
  · intro h
    rw [← h, String.toList_ofList]
    exact hclear
  · intro h
    rw [Text.splitFrom_append separator_ne_nil h, List.cons.injEq] at hsplit
    rw [← hsplit.1, String.ofList_toList]

/-- What is read as the English half is how it begins. -/
theorem englishOf_isPrefix (b : Bilingual) : (englishOf b.text).toList <+: b.english.toList := by
  obtain ⟨a, cs, hcut, -, hle, hsplit⟩ := Text.splitFrom_head separator_ne_nil b.english.toList b.chinese.toList
  have hread : englishOf b.text = String.ofList a := by
    rw [englishOf, Text.split, toList_text, hsplit]
    rfl
  rw [hread, String.toList_ofList]
  exact List.prefix_of_prefix_length_le (hcut ▸ List.prefix_append a _) (List.prefix_append _ _) hle

/-- What follows a cut that comes too early: a separator within the English half, or one that the half makes with
    the separator behind it. -/
theorem early_cut {a e c rest : List Char} (h : a ++ (separator.toList ++ rest) = e ++ (separator.toList ++ c))
    (hle : a.length ≤ e.length) (hne : a ≠ e) :
    rest = '|' :: ' ' :: c ∨ ∃ u, e = a ++ (separator.toList ++ u) ∧ rest = u ++ (separator.toList ++ c) := by
  have hseparator : separator.toList = [' ', '|', ' '] := rfl
  rw [hseparator] at h ⊢
  obtain ⟨d, rfl⟩ : ∃ d, e = a ++ d := by
    rcases List.append_eq_append_iff.mp h with ⟨d, hd, -⟩ | ⟨d, hd, -⟩
    · exact ⟨d, hd⟩
    · refine ⟨[], ?_⟩
      have hnil : d = [] := by
        rw [hd, List.length_append] at hle
        exact List.eq_nil_of_length_eq_zero (by omega)
      rw [hd, hnil, List.append_nil, List.append_nil]
  rw [List.append_assoc, List.append_cancel_left_eq] at h
  match d with
  | [] => simp at hne
  | [x] => simp at h
  | [x, y] =>
    simp only [List.cons_append, List.nil_append, List.cons.injEq] at h
    exact Or.inl h.2.2.2
  | x :: y :: z :: u =>
    simp only [List.cons_append, List.nil_append, List.cons.injEq] at h
    obtain ⟨rfl, rfl, rfl, hrest⟩ := h
    exact Or.inr ⟨u, rfl, hrest⟩

theorem chineseOf_eq {text : String} {a piece : List Char} {pieces : List (List Char)}
    (h : Text.splitFrom separator.toList 0 text.toList = a :: piece :: pieces) :
    chineseOf text = String.ofList piece := by
  rw [chineseOf, Text.split, h]
  rfl

/-- Where the English half is read back, the Chinese half is, up to its first separator. -/
theorem chineseOf_text {b : Bilingual} (h : Text.Clear separator.toList b.english.toList) :
    chineseOf b.text = englishOf b.chinese := by
  obtain ⟨piece, pieces, hpiece, -⟩ := Text.splitFrom_prefix separator_ne_nil b.chinese.toList
  have hsplit := Text.splitFrom_append separator_ne_nil h b.chinese.toList
  rw [← toList_text, hpiece] at hsplit
  rw [chineseOf_eq hsplit, englishOf, Text.split, hpiece]
  rfl

/-- A text without a separator is read whole. -/
theorem englishOf_eq_self {text : String} (h : ¬ separator.toList <:+: text.toList) : englishOf text = text := by
  rw [englishOf, Text.split, Text.splitFrom_of_not_infix h, List.map_singleton, List.headD_cons, String.ofList_toList]

/-- Where the cut comes too early, the Chinese half is not read back: what follows the cut begins with the bar
    that the Chinese half does not begin with, or is a part of the English half, and then it is too short. -/
theorem chineseOf_text_ne {b : Bilingual} {x : Char} {cs : List Char} (hchinese : b.chinese.toList = x :: cs)
    (hx : x ≠ '|')
    (hshort : ∀ a u, b.english.toList = a ++ (separator.toList ++ u) → u.length < b.chinese.toList.length)
    (h : ¬ Text.Clear separator.toList b.english.toList) : chineseOf b.text ≠ b.chinese := by
  obtain ⟨a, rest, hcut, hclear, hle, hsplit⟩ :=
    Text.splitFrom_head separator_ne_nil b.english.toList b.chinese.toList
  have hne : a ≠ b.english.toList := by
    rintro rfl
    exact h hclear
  rw [← toList_text] at hsplit
  rcases early_cut hcut hle hne with rfl | ⟨u, hu, rfl⟩
  · obtain ⟨piece, pieces, hpiece, hbegins⟩ := Text.splitFrom_prefix separator_ne_nil ('|' :: ' ' :: b.chinese.toList)
    rw [hpiece] at hsplit
    rw [chineseOf_eq hsplit]
    intro hread
    rw [← String.toList_inj, String.toList_ofList, hchinese] at hread
    rw [hread] at hbegins
    exact hx (List.cons_prefix_cons.mp hbegins).1
  · obtain ⟨piece, cs, -, -, hpiece, hrest⟩ := Text.splitFrom_head separator_ne_nil u b.chinese.toList
    rw [hrest] at hsplit
    rw [chineseOf_eq hsplit]
    intro hread
    rw [← String.toList_inj, String.toList_ofList] at hread
    have := hshort a u hu
    rw [hread] at hpiece
    omega

/-! ## Words and payloads -/

/-- A payload of a message, and the words behind it in both languages. -/
structure Slot where
  payload : String
  english : String := ""
  chinese : String := ""

/-- Words in both languages, with payloads between them. -/
structure Frame where
  /-- The words in front of the first payload. -/
  english : String
  chinese : String
  slots : List Slot := []

/-- The half of a message that begins with `opening`. -/
def fill (words : Slot → String) (opening : String) : List Slot → String
  | [] => opening
  | slot :: rest => opening ++ slot.payload ++ fill words (words slot) rest

/-- A payload that makes no separator, not even with a blank on either side of it. -/
def Plain (payload : String) : Prop := ¬ separator.toList <:+: ' ' :: (payload.toList ++ [' '])

instance (payload : String) : Decidable (Plain payload) := inferInstanceAs (Decidable (¬ _))

/-- Words without bars, in front of the payloads and behind each of them, with a blank on either side of a payload;
    only the last one may end the text. -/
def Spaced (opening : String) : List String → Prop
  | [] => '|' ∉ opening.toList
  | words :: rest =>
    '|' ∉ opening.toList ∧ opening.toList.getLast? = some ' ' ∧
      (words = "" ∧ rest = [] ∨ words.toList.head? = some ' ') ∧ Spaced words rest

instance decidableSpaced (opening : String) : (rest : List String) → Decidable (Spaced opening rest)
  | [] => inferInstanceAs (Decidable (_ ∉ _))
  | words :: rest =>
    have := decidableSpaced words rest
    inferInstanceAs (Decidable (_ ∧ _ ∧ _ ∧ _))

/-- A text without a bar holds no separator. -/
theorem not_infix_of_barless {cs : List Char} (h : '|' ∉ cs) : ¬ separator.toList <:+: cs := by
  intro hoccurs
  exact h (hoccurs.subset (by decide))

theorem plain_of_barless {payload : String} (h : '|' ∉ payload.toList) : Plain payload :=
  not_infix_of_barless (by simp [h])

/-- A separator around a blank lies on one side of it. -/
theorem infix_blank (a b : List Char) :
    separator.toList <:+: a ++ ' ' :: b ↔ separator.toList <:+: a ++ [' '] ∨ separator.toList <:+: ' ' :: b :=
  Text.triple_infix (by decide) a b

theorem fill_head (words : Slot → String) {opening : String} {x : Char} (slots : List Slot)
    (h : opening.toList.head? = some x) : ∃ cs, (fill words opening slots).toList = x :: cs := by
  obtain ⟨cs, hcs⟩ := List.head?_eq_some_iff.mp h
  cases slots with
  | nil => exact ⟨cs, hcs⟩
  | cons slot rest => exact ⟨_, by rw [fill, String.toList_append, String.toList_append, hcs]; rfl⟩

/-- A half holds a separator, with a blank behind it, only where a payload makes it. -/
theorem infix_fill_iff (words : Slot → String) {opening : String} {slots : List Slot}
    (h : Spaced opening (slots.map words)) :
    separator.toList <:+: (fill words opening slots).toList ++ [' '] ↔ ∃ slot ∈ slots, ¬ Plain slot.payload := by
  induction slots generalizing opening with
  | nil =>
    have hbar : '|' ∉ opening.toList := h
    have hnone : ¬ separator.toList <:+: opening.toList ++ [' '] := not_infix_of_barless (by simp [hbar])
    simp [fill, hnone]
  | cons slot rest ih =>
    obtain ⟨hbar, hlast, hwords, hrest⟩ := h
    obtain ⟨front, hfront⟩ := List.getLast?_eq_some_iff.mp hlast
    have hopening : ¬ separator.toList <:+: front ++ [' '] := by
      rw [← hfront]
      exact not_infix_of_barless hbar
    have htext : (fill words opening (slot :: rest)).toList ++ [' '] =
        front ++ ' ' :: (slot.payload.toList ++ ((fill words (words slot) rest).toList ++ [' '])) := by
      simp [fill, hfront]
    rw [htext, infix_blank, or_iff_right hopening]
    rcases hwords with ⟨hwords, hend⟩ | hwords
    · obtain rfl : rest = [] := by simpa using hend
      simp [fill, hwords, Plain]
    · obtain ⟨behind, hbehind⟩ := fill_head words rest hwords
      rw [hbehind, List.cons_append, ← List.cons_append, infix_blank, ← List.cons_append, ← hbehind, ih hrest]
      simp [Plain]

theorem length_fill (words : Slot → String) (opening : String) (slots : List Slot) :
    (fill words opening slots).length =
      opening.length + (slots.map fun slot => slot.payload.length).sum + (slots.map fun slot => (words slot).length).sum := by
  induction slots generalizing opening with
  | nil => rfl
  | cons slot rest ih =>
    simp only [fill, String.length_append, ih, List.map_cons, List.sum_cons]
    omega

/-- The first words of a half hold no bar, so no separator begins before their last blank. -/
theorem length_before_separator (words : Slot → String) {opening : String} (slots : List Slot)
    (h : '|' ∉ opening.toList) {a u : List Char}
    (hcut : (fill words opening slots).toList = a ++ (separator.toList ++ u)) : opening.length ≤ a.length + 1 := by
  obtain ⟨behind, hbehind⟩ : ∃ behind, (fill words opening slots).toList = opening.toList ++ behind := by
    cases slots with
    | nil => exact ⟨[], by rw [fill, List.append_nil]⟩
    | cons slot rest => exact ⟨_, by rw [fill, String.toList_append, String.toList_append, List.append_assoc]⟩
  have hbegins : a ++ [' '] ++ ['|'] <+: opening.toList ++ behind := ⟨' ' :: u, by
    rw [← hbehind, hcut]
    simp [separator]⟩
  obtain ⟨d, hd, -⟩ := Text.split_of_prefix_append h hbegins
  have hlength := congrArg List.length hd
  simp only [List.length_append, List.length_singleton, String.length_toList] at hlength
  omega

theorem Spaced.barless {opening : String} {rest : List String} (h : Spaced opening rest) : '|' ∉ opening.toList := by
  cases rest with
  | nil => exact h
  | cons words rest => exact h.1

namespace Frame

def message (w : Frame) : Bilingual := ⟨fill Slot.english w.english w.slots, fill Slot.chinese w.chinese w.slots⟩

def payloads (w : Frame) : List String := w.slots.map Slot.payload

/-- The words make no separator by themselves, and what follows the first of them is not much longer in English
    than all of them are in Chinese. -/
structure Sound (w : Frame) : Prop where
  english : Spaced w.english (w.slots.map Slot.english)
  chinese : Spaced w.chinese (w.slots.map Slot.chinese)
  opens : w.chinese ≠ ""
  shorter : (w.slots.map fun slot => slot.english.length).sum <
    w.chinese.length + (w.slots.map fun slot => slot.chinese.length).sum + 2

variable {w : Frame}

theorem fill_plain (words : Slot → String) {opening : String} (h : Spaced opening (w.slots.map words)) :
    ¬ separator.toList <:+: (fill words opening w.slots).toList ++ [' '] ↔ ∀ payload ∈ w.payloads, Plain payload := by
  rw [infix_fill_iff words h, payloads]
  simp

theorem clear_iff (h : w.Sound) :
    Text.Clear separator.toList w.message.english.toList ↔ ∀ payload ∈ w.payloads, Plain payload := by
  have hbar : ¬ separator.toList <:+: [' ', '|'] := by decide
  have hend : separator.toList <:+: w.message.english.toList ++ [' ', '|'] ↔
      separator.toList <:+: w.message.english.toList ++ [' '] := (infix_blank _ _).trans (or_iff_left hbar)
  rw [← fill_plain Slot.english h.english]
  exact not_congr hend

/-- Of a message whose words are sound the English half is read back exactly if its payloads are plain. -/
theorem englishOf_iff (h : w.Sound) :
    englishOf w.message.text = w.message.english ↔ ∀ payload ∈ w.payloads, Plain payload :=
  (englishOf_text_iff w.message).trans (clear_iff h)

/-- So is the Chinese half. -/
theorem chineseOf_iff (h : w.Sound) :
    chineseOf w.message.text = w.message.chinese ↔ ∀ payload ∈ w.payloads, Plain payload := by
  by_cases hclear : Text.Clear separator.toList w.message.english.toList
  · have hplain := (clear_iff h).mp hclear
    have hnone : ¬ separator.toList <:+: w.message.chinese.toList := by
      intro hoccurs
      exact (fill_plain Slot.chinese h.chinese).mpr hplain (hoccurs.trans (List.prefix_append _ _).isInfix)
    exact iff_of_true ((chineseOf_text hclear).trans (englishOf_eq_self hnone)) hplain
  · refine iff_of_false ?_ (mt (clear_iff h).mpr hclear)
    obtain ⟨x, cs, hopening⟩ := List.exists_cons_of_ne_nil (mt String.toList_eq_nil_iff.mp h.opens)
    have hx : x ≠ '|' := by
      rintro rfl
      exact h.chinese.barless (by simp [hopening])
    obtain ⟨rest, hchinese⟩ := fill_head Slot.chinese w.slots (List.head?_eq_some_iff.mpr ⟨cs, hopening⟩)
    refine chineseOf_text_ne hchinese hx ?_ hclear
    intro a u hcut
    have hbegins := length_before_separator Slot.english w.slots h.english.barless hcut
    have hlength := congrArg List.length hcut
    have hseparator : separator.toList.length = 3 := rfl
    have hshorter := h.shorter
    simp only [message, List.length_append, String.length_toList, length_fill, hseparator] at hlength ⊢
    omega

end Frame

end Bilingual

/-! ## Faults -/

open Bilingual (Frame Plain englishOf chineseOf)

namespace Bilingual.Frame

/-- Words alone. -/
def ofWords (b : Bilingual) : Frame := ⟨b.english, b.chinese, []⟩

/-- Words with a payload behind them. -/
def ending (english chinese payload : String) : Frame := ⟨english, chinese, [{ payload }]⟩

theorem message_ending (english chinese payload : String) :
    (ending english chinese payload).message = ⟨english ++ payload, chinese ++ payload⟩ := by
  simp only [ending, message, fill, String.append_empty]

theorem message_middle (english chinese payload english' chinese' payload' : String) :
    Frame.message ⟨english, chinese, [⟨payload, english', chinese'⟩, { payload := payload' }]⟩ =
      ⟨english ++ payload ++ english' ++ payload', chinese ++ payload ++ chinese' ++ payload'⟩ := by
  simp only [message, fill, String.append_empty, String.append_assoc]

theorem sound_ofWords {b : Bilingual} (h : '|' ∉ b.english.toList ∧ '|' ∉ b.chinese.toList ∧ b.chinese ≠ "") :
    (ofWords b).Sound := ⟨h.1, h.2.1, h.2.2, Nat.zero_lt_succ _⟩

theorem sound_ending {english chinese : String}
    (h : Spaced english [""] ∧ Spaced chinese [""] ∧ chinese ≠ "") (payload : String) :
    (ending english chinese payload).Sound := ⟨h.1, h.2.1, h.2.2, Nat.zero_lt_succ _⟩

end Bilingual.Frame

/-- The words and payloads of a code fault. -/
def CodeFault.frame : CodeFault → Frame
  | system m => .ending "Code store failure: " "验证码存储故障: " m
  | f => .ofWords f.message

def SendFault.frame : SendFault → Frame
  | providerTimeout p => ⟨"SMS provider ", "短信服务商 ", [⟨p, " timed out", " 超时"⟩]⟩
  | provider p m => ⟨"SMS provider ", "短信服务商 ", [⟨p, " failed: ", " 发送失败: "⟩, { payload := m }]⟩
  | unauthorized r => .ending "Template not authorized: " "短信模板未授权: " r
  | invalidRecipient r => .ending "Invalid recipient: " "无效的接收号码: " r
  | f => .ofWords f.message

def Fault.frame : Fault → Frame
  | validation m => .ending "Validation error: " "参数校验失败: " m
  | internal m => .ending "Internal error: " "内部错误: " m
  | code f => f.frame
  | send f => f.frame
  | f => .ofWords f.message

theorem CodeFault.frame_message (f : CodeFault) : f.frame.message = f.message := by
  cases f with
  | system m => exact Frame.message_ending _ _ m
  | tooFrequent | tooManyAttempts | notFound => rfl

theorem SendFault.frame_message (f : SendFault) : f.frame.message = f.message := by
  cases f with
  | provider p m => exact Frame.message_middle _ _ p _ _ m
  | unauthorized r => exact Frame.message_ending _ _ r
  | invalidRecipient r => exact Frame.message_ending _ _ r
  | rateLimited | allProvidersFailed n | providerTimeout p | cancelled => rfl

theorem Fault.frame_message (f : Fault) : f.frame.message = f.message := by
  cases f with
  | validation m => exact Frame.message_ending _ _ m
  | internal m => exact Frame.message_ending _ _ m
  | code f => exact f.frame_message
  | send f => exact f.frame_message
  | deadlineExceeded | token f => rfl

theorem CodeFault.frame_sound (f : CodeFault) : f.frame.Sound := by
  cases f with
  | system m => exact Frame.sound_ending (by decide +kernel) m
  | tooFrequent | tooManyAttempts | notFound => exact Frame.sound_ofWords (by decide +kernel)

theorem SendFault.frame_sound (f : SendFault) : f.frame.Sound := by
  cases f with
  | allProvidersFailed n =>
    have hn : '|' ∉ (toString n).toList := by
      intro h
      rw [Nat.toString_eq_repr, Nat.toList_repr] at h
      exact absurd (Text.isDigit_of_mem_toDigits h) (by decide)
    have hbarless : ∀ {a b : String}, '|' ∉ a.toList → '|' ∉ b.toList → '|' ∉ (a ++ toString n ++ b).toList := by
      intro a b ha hb
      simp only [String.toList_append, List.mem_append, not_or]
      exact ⟨⟨ha, hn⟩, hb⟩
    refine Frame.sound_ofWords ⟨hbarless (by decide +kernel) (by decide +kernel),
      hbarless (by decide +kernel) (by decide +kernel), ?_⟩
    exact fun h => absurd (String.append_eq_empty_iff.mp h).2 (by decide +kernel)
  | providerTimeout p =>
    exact ⟨(by decide +kernel : Bilingual.Spaced "SMS provider " [" timed out"]),
      (by decide +kernel : Bilingual.Spaced "短信服务商 " [" 超时"]), (by decide +kernel : "短信服务商 " ≠ ""),
      (by decide +kernel : [" timed out".length].sum < "短信服务商 ".length + [" 超时".length].sum + 2)⟩
  | provider p m =>
    exact ⟨(by decide +kernel : Bilingual.Spaced "SMS provider " [" failed: ", ""]),
      (by decide +kernel : Bilingual.Spaced "短信服务商 " [" 发送失败: ", ""]), (by decide +kernel : "短信服务商 " ≠ ""),
      (by decide +kernel : [" failed: ".length, 0].sum < "短信服务商 ".length + [" 发送失败: ".length, 0].sum + 2)⟩
  | unauthorized r => exact Frame.sound_ending (by decide +kernel) r
  | invalidRecipient r => exact Frame.sound_ending (by decide +kernel) r
  | rateLimited | cancelled => exact Frame.sound_ofWords (by decide +kernel)

theorem Fault.frame_sound (f : Fault) : f.frame.Sound := by
  cases f with
  | validation m => exact Frame.sound_ending (by decide +kernel) m
  | internal m => exact Frame.sound_ending (by decide +kernel) m
  | deadlineExceeded => exact Frame.sound_ofWords (by decide +kernel)
  | code f => exact f.frame_sound
  | send f => exact f.frame_sound
  | token f => cases f <;> exact Frame.sound_ofWords (by decide +kernel)

/-- What a fault's message is filled in with. -/
def Fault.payloads (f : Fault) : List String := f.frame.payloads

/-- For every fault, whatever its payloads: the English half is read back exactly if they are plain. -/
theorem Fault.english_iff (f : Fault) :
    englishOf f.message.text = f.message.english ↔ ∀ payload ∈ f.payloads, Plain payload := by
  rw [← f.frame_message]
  exact Frame.englishOf_iff f.frame_sound

theorem Fault.chinese_iff (f : Fault) :
    chineseOf f.message.text = f.message.chinese ↔ ∀ payload ∈ f.payloads, Plain payload := by
  rw [← f.frame_message]
  exact Frame.chineseOf_iff f.frame_sound

end Passcode
