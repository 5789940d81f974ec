/-
  Passcode.Proofs.Token.Claims — claims that are written read back.

  Proved: the claims of a credential are a plain value (`isPlain_refresh`, `isPlain_access`), which
  reads as the same claims when their numbers have 64 bits, and else as none (`ofJson?_refresh`,
  `ofJson?_access`); a refresh credential does not read as an access credential, while an access
  credential reads as a refresh credential (`ofJson?_access_of_refresh`, `ofJson?_refresh_of_access`);
  and what every reader of tokens sees of a credential is its expiry, unless that is negative, and its
  issuer (`registered_access`, `registered_refresh`). Whatever claims are presented, written here or not,
  the issuer that is read is the one that every reader of tokens sees (`issuers_access`,
  `issuers_refresh`). The claims of a template read back as well (`ofJson?_template`), and of their expiry
  holds the same (`registered_template`).
-/

import Passcode.Proofs.Json.Record
import Passcode.Proofs.Json.RoundTrip
import Passcode.Token.Claims
import Passcode.Token.Signed

namespace Passcode

open Json (Fits asRecord?_record asInt?_int asString?_str)

theorem isPlain_refresh (c : RefreshClaims) : c.toJson.isPlain = true := by
  obtain ⟨user, session, issuedAt, expiresAt, issuer⟩ := c
  cases issuer <;> rfl

/-- The fields of a refresh credential. -/
def RefreshClaims.found (c : RefreshClaims) : Json.Record :=
  ⟨("uid", .int c.user) :: ("ssid", .str c.session) :: ("iat", .int c.issuedAt) :: ("exp", .int c.expiresAt) ::
    Json.optionalField "iss" .str c.issuer, false⟩

theorem asRecord?_refresh (c : RefreshClaims) :
    c.toJson.asRecord? ["uid", "ssid", "iat", "exp", "iss"] = some c.found := by
  obtain ⟨user, session, issuedAt, expiresAt, issuer⟩ := c
  cases issuer with
  | none => exact asRecord?_record (show ["uid", "ssid", "iat", "exp"].Nodup by decide)
  | some issuer => exact asRecord?_record (show ["uid", "ssid", "iat", "exp", "iss"].Nodup by decide)

theorem ofJson?_refresh (c : RefreshClaims) : RefreshClaims.ofJson? c.toJson =
    if Fits c.user ∧ Fits c.issuedAt ∧ Fits c.expiresAt then some c else none := by
  have hr := asRecord?_refresh c
  obtain ⟨user, session, issuedAt, expiresAt, issuer⟩ := c
  have hi : (RefreshClaims.found ⟨user, session, issuedAt, expiresAt, issuer⟩).withDefault "iss"
      (Json.asOption? Json.asString?) none = some issuer := by
    cases issuer <;> rfl
  simp only [RefreshClaims.found] at hi
  simp only [RefreshClaims.ofJson?, hr, Option.bind_eq_bind, Option.bind_some, RefreshClaims.found, hi,
    Json.Record.required, List.lookup_cons, asInt?_int, asString?_str, String.reduceBEq]
  by_cases h1 : Fits user
  · by_cases h2 : Fits issuedAt
    · by_cases h3 : Fits expiresAt
      · simp [h1, h2, h3]
      · simp [h1, h2, h3]
    · simp [h1, h2]
  · simp [h1]

/-! ## Access credentials -/

theorem isPlain_access (c : AccessClaims) : c.toJson.isPlain = true := by
  obtain ⟨user, session, fingerprint, issuedAt, expiresAt, issuer⟩ := c
  cases issuer <;> rfl

theorem ofJson?_access (c : AccessClaims) : AccessClaims.ofJson? c.toJson =
    if Fits c.user ∧ Fits c.issuedAt ∧ Fits c.expiresAt then some c else none := by
  obtain ⟨user, session, fingerprint, issuedAt, expiresAt, issuer⟩ := c
  have hr : (AccessClaims.toJson ⟨user, session, fingerprint, issuedAt, expiresAt, issuer⟩).asRecord?
      ["uid", "ssid", "user_agent", "iat", "exp", "iss"] = some ⟨("uid", .int user) :: ("ssid", .str session) ::
        ("user_agent", .str fingerprint) :: ("iat", .int issuedAt) :: ("exp", .int expiresAt) ::
          Json.optionalField "iss" .str issuer, false⟩ := by
    cases issuer with
    | none => exact asRecord?_record (show ["uid", "ssid", "user_agent", "iat", "exp"].Nodup by decide)
    | some issuer => exact asRecord?_record (show ["uid", "ssid", "user_agent", "iat", "exp", "iss"].Nodup by decide)
  have hi : (Json.Record.mk (("uid", .int user) :: ("ssid", .str session) :: ("user_agent", .str fingerprint) ::
      ("iat", .int issuedAt) :: ("exp", .int expiresAt) :: Json.optionalField "iss" .str issuer) false).withDefault
        "iss" (Json.asOption? Json.asString?) none = some issuer := by
    cases issuer <;> rfl
  simp only [AccessClaims.ofJson?, hr, Option.bind_eq_bind, Option.bind_some, hi, Json.Record.required,
    List.lookup_cons, asInt?_int, asString?_str, String.reduceBEq]
  by_cases h1 : Fits user
  · by_cases h2 : Fits issuedAt
    · by_cases h3 : Fits expiresAt
      · simp [h1, h2, h3]
      · simp [h1, h2, h3]
    · simp [h1, h2]
  · simp [h1]

/-! ## One kind read as the other -/

/-- A refresh credential does not say which client it belongs to. -/
theorem ofJson?_access_of_refresh (c : RefreshClaims) : AccessClaims.ofJson? c.toJson = none := by
  obtain ⟨user, session, issuedAt, expiresAt, issuer⟩ := c
  have hr : (RefreshClaims.toJson ⟨user, session, issuedAt, expiresAt, issuer⟩).asRecord?
      ["uid", "ssid", "user_agent", "iat", "exp", "iss"] = some ⟨("uid", .int user) :: ("ssid", .str session) ::
        ("iat", .int issuedAt) :: ("exp", .int expiresAt) :: Json.optionalField "iss" .str issuer, false⟩ := by
    cases issuer with
    | none => exact asRecord?_record (show ["uid", "ssid", "iat", "exp"].Nodup by decide)
    | some issuer => exact asRecord?_record (show ["uid", "ssid", "iat", "exp", "iss"].Nodup by decide)
  have hclient : (Json.Record.mk (("uid", .int user) :: ("ssid", .str session) :: ("iat", .int issuedAt) ::
      ("exp", .int expiresAt) :: Json.optionalField "iss" .str issuer) false).required "user_agent" Json.asString? =
        none := by
    cases issuer <;> rfl
  simp only [AccessClaims.ofJson?, hr, Option.bind_eq_bind, Option.bind_some, hclient, Option.bind_none,
    Option.bind_fun_none]

/-- Of an access credential the client is passed over, and what is left is a refresh credential. -/
theorem ofJson?_refresh_of_access (c : AccessClaims) : RefreshClaims.ofJson? c.toJson =
    RefreshClaims.ofJson? (RefreshClaims.mk c.user c.session c.issuedAt c.expiresAt c.issuer).toJson := by
  have hr := asRecord?_refresh ⟨c.user, c.session, c.issuedAt, c.expiresAt, c.issuer⟩
  obtain ⟨user, session, fingerprint, issuedAt, expiresAt, issuer⟩ := c
  have ha : (AccessClaims.toJson ⟨user, session, fingerprint, issuedAt, expiresAt, issuer⟩).asRecord?
      ["uid", "ssid", "iat", "exp", "iss"] =
        some (RefreshClaims.found ⟨user, session, issuedAt, expiresAt, issuer⟩) := by
    cases issuer with
    | none => exact asRecord?_record (show ["uid", "ssid", "user_agent", "iat", "exp"].Nodup by decide)
    | some issuer => exact asRecord?_record (show ["uid", "ssid", "user_agent", "iat", "exp", "iss"].Nodup by decide)
  simp only [RefreshClaims.ofJson?, ha, hr]

/-! ## Registered claims -/

/-- A whole number has no exponent. -/
theorem exponent_ofChars_intChars (i : Int) : (Json.Literal.ofChars (Json.intChars i)).exponent = [] := by
  have hd : ∀ c ∈ Nat.toDigits 10 i.natAbs, Text.isDigit c = true := fun c hc => Text.isDigit_of_mem_toDigits hc
  have hw : (Nat.toDigits 10 i.natAbs).takeWhile Text.isDigit = Nat.toDigits 10 i.natAbs :=
    List.takeWhile_eq_self_iff.mpr hd
  have hs : (if (Json.intChars i).head? = some '-' then (Json.intChars i).drop 1 else Json.intChars i) =
      Nat.toDigits 10 i.natAbs := by
    unfold Json.intChars
    split
    · simp
    · obtain ⟨c, cs, hcs, hc⟩ := Text.toDigits_eq_cons i.natAbs
      rw [hcs, List.head?_cons, if_neg]
      exact fun h => Text.isDigit_ne hc rfl (Option.some.inj h)
  simp only [Json.Literal.ofChars, hs, hw, List.drop_length, List.head?_nil, reduceCtorEq, if_false, List.drop_nil]

/-- The reader of a count gets behind every whole number. -/
theorem passesCount_int (i : Int) : Token.passesCount (.int i) = true := by
  have hr : (Json.Number.whole i).reading ≠ .stuck := by
    unfold Json.Number.reading Json.Literal.magnitude
    simp only [Json.Number.literal, exponent_ofChars_intChars, List.head?_nil, List.drop_nil, reduceCtorEq, or_self,
      if_false, Json.exponentDigits]
    split
    · exact fun h => nomatch h
    · rename_i h
      split at h
      · cases h
      · cases h
        exact fun h => nomatch h
  exact decide_eq_true hr

/-- A count is read of a whole number that is not negative. -/
theorem count?_int {i : Int} (h : Fits i) :
    (Json.int i).asUInt64?.map UInt64.toNat = if 0 ≤ i then some i.toNat else none := by
  simp only [Json.asUInt64?, Json.asWholeIn?, Json.int, Json.asWhole?, Option.filter]
  by_cases h0 : 0 ≤ i
  · have hlt : i.toNat < UInt64.size := by
      have hle := h.2
      have hmax : Int64.maxValue.toInt < UInt64.size := by decide
      omega
    have hin : (0 : Int) ≤ i ∧ i ≤ (UInt64.size : Int) - 1 := by omega
    simp only [hin, and_self, decide_true, if_true, Option.map_some, UInt64.toNat_ofNat_of_lt' hlt]
  · simp [h0]

/-- What every reader of tokens sees of claims that have an expiry and, if at all, an issuer. -/
theorem registered_expiring {v : Json} {expiresAt : Int} {issuer : Option String}
    (hr : v.asRecord? ["exp", "nbf", "sub", "iss", "aud"] =
      some ⟨("exp", .int expiresAt) :: Json.optionalField "iss" .str issuer, false⟩)
    (h0 : 0 ≤ expiresAt) (he : Fits expiresAt) : Token.Registered.ofJson? v =
      some { expiry := some expiresAt.toNat, issuers := issuer.map ([·]), hasAudience := false } := by
  have hcount : (Json.int expiresAt).asUInt64?.map UInt64.toNat = some expiresAt.toNat := by
    rw [count?_int he, if_pos h0]
  have hnull : Token.passesCount .null = true ∧ Token.passesText .null = true ∧ Token.passesNames .null = true ∧
      Token.names? .null = none := by decide +kernel
  cases issuer with
  | none => simp [Token.Registered.ofJson?, hr, Json.optionalField, List.lookup_cons, passesCount_int, hcount, hnull]
  | some issuer =>
    have hs : Token.passesNames (.str issuer) = true ∧ Token.names? (.str issuer) = some [issuer] := by
      constructor <;> rfl
    simp [Token.Registered.ofJson?, hr, Json.optionalField, List.lookup_cons, passesCount_int, hcount, hnull, hs]

theorem registered_access {c : AccessClaims} (h0 : 0 ≤ c.expiresAt) (he : Fits c.expiresAt) :
    Token.Registered.ofJson? c.toJson =
      some { expiry := some c.expiresAt.toNat, issuers := c.issuer.map ([·]), hasAudience := false } := by
  obtain ⟨user, session, fingerprint, issuedAt, expiresAt, issuer⟩ := c
  refine registered_expiring ?_ h0 he
  cases issuer with
  | none => exact asRecord?_record (show ["uid", "ssid", "user_agent", "iat", "exp"].Nodup by decide)
  | some issuer => exact asRecord?_record (show ["uid", "ssid", "user_agent", "iat", "exp", "iss"].Nodup by decide)

theorem registered_refresh {c : RefreshClaims} (h0 : 0 ≤ c.expiresAt) (he : Fits c.expiresAt) :
    Token.Registered.ofJson? c.toJson =
      some { expiry := some c.expiresAt.toNat, issuers := c.issuer.map ([·]), hasAudience := false } := by
  obtain ⟨user, session, issuedAt, expiresAt, issuer⟩ := c
  refine registered_expiring ?_ h0 he
  cases issuer with
  | none => exact asRecord?_record (show ["uid", "ssid", "iat", "exp"].Nodup by decide)
  | some issuer => exact asRecord?_record (show ["uid", "ssid", "iat", "exp", "iss"].Nodup by decide)

/-- A text is read as one name. -/
theorem names?_of_asString? {v : Json} {s : String} (h : v.asString? = some s) : Token.names? v = some [s] := by
  cases v with
  | string text =>
    cases text with
    | error defect => cases h
    | ok text =>
      cases h
      rfl
  | _ => cases h

/-- A number is read as no name. -/
theorem names?_of_asInt? {v : Json} {i : Int} (h : v.asInt? = some i) : Token.names? v = none := by
  cases v with
  | number n => rfl
  | _ => cases h

/-- A reader of names and a reader of an optional text agree about what they both read. -/
theorem names?_of_asOption? {v : Json} {issuer : Option String} (h : v.asOption? Json.asString? = some issuer) :
    Token.names? v = issuer.map ([·]) := by
  by_cases hnull : v = .null
  · subst hnull
    cases h
    rfl
  · rw [Json.asOption?] at h
    · obtain ⟨s, hs, rfl⟩ := Option.map_eq_some_iff.mp h
      exact names?_of_asString? hs
    · exact hnull

/-- An issuer that an object gives is read alike by every reader of tokens and by the reader of claims. -/
theorem names?_given {names : List String} (hn : "iss" ∈ names) {fields : List (Option String × Json)}
    {r : Json.Record} {issuer : Option String} (hr : (Json.object fields).asRecord? names = some r)
    (hi : r.withDefault "iss" (Json.asOption? Json.asString?) none = some issuer) :
    Token.names? ((Json.given "iss" fields).getD .null) = issuer.map ([·]) := by
  rw [Json.Record.withDefault, Json.lookup_asRecord?_object hn hr] at hi
  cases hg : Json.given "iss" fields with
  | none =>
    rw [hg] at hi
    cases hi
    rfl
  | some v =>
    rw [hg] at hi
    exact names?_of_asOption? hi

/-- What every reader of tokens sees as issuers. -/
theorem registered_issuers {v : Json} {registered : Token.Registered}
    (h : Token.Registered.ofJson? v = some registered) :
    (∃ fields, v = .object fields ∧ registered.issuers = Token.names? ((Json.given "iss" fields).getD .null)) ∨
    ∃ exp nbf sub iss aud, v = .array [exp, nbf, sub, iss, aud] ∧ registered.issuers = Token.names? iss ∧
      registered.hasAudience = (Token.names? aud).isSome := by
  rw [Token.Registered.ofJson?, Option.bind_eq_bind, Option.bind_eq_some_iff] at h
  obtain ⟨r, hr, h⟩ := h
  dsimp only at h
  split at h
  · cases h
  · rename_i hfull
    split at h
    · cases h
    · cases h
      cases v with
      | object fields =>
        left
        have hissuer : r.fields.lookup "iss" = Json.given "iss" fields := Json.lookup_asRecord?_object (by decide) hr
        exact ⟨fields, rfl, congrArg (fun v => Token.names? (v.getD .null)) hissuer⟩
      | array items =>
        right
        rw [Json.asRecord?] at hr
        split at hr
        · rename_i hlen
          cases hr
          rcases items with _ | ⟨exp, _ | ⟨nbf, _ | ⟨sub, _ | ⟨iss, _ | ⟨aud, _ | ⟨more, items⟩⟩⟩⟩⟩⟩
          iterate 5
            · exact absurd rfl hfull
          · exact ⟨exp, nbf, sub, iss, aud, rfl, rfl, rfl⟩
          · simp only [List.length_cons, List.length_nil] at hlen
            omega
        · cases hr
      | _ => cases hr

/-- The issuer of an access credential is the one that every reader of tokens sees. An array, in which the other
    readers look for five claims, has no room for an issuer. -/
theorem issuers_access {v : Json} {claims : AccessClaims} {registered : Token.Registered}
    (hc : AccessClaims.ofJson? v = some claims) (hr : Token.Registered.ofJson? v = some registered) :
    registered.issuers = claims.issuer.map ([·]) := by
  simp only [AccessClaims.ofJson?, Option.bind_eq_bind, Option.bind_eq_some_iff, Option.pure_def,
    Option.some.injEq] at hc
  obtain ⟨r, hfound, user, huser, session, hsession, client, hclient, issuedAt, hissuedAt, expiresAt, hexpiresAt,
    issuer, hissuer, rfl⟩ := hc
  obtain ⟨fields, rfl, hissuers⟩ | ⟨exp, nbf, sub, iss, aud, rfl, hissuers, -⟩ := registered_issuers hr
  · rw [hissuers]
    exact names?_given (by decide) hfound hissuer
  · cases hfound
    cases hissuer
    rw [hissuers]
    exact names?_of_asInt? hissuedAt

/-- The issuer of a refresh credential is the one that every reader of tokens sees, too. In an array it stands
    where the others look for an audience. -/
theorem issuers_refresh {v : Json} {claims : RefreshClaims} {registered : Token.Registered}
    (hc : RefreshClaims.ofJson? v = some claims) (hr : Token.Registered.ofJson? v = some registered)
    (ha : registered.hasAudience = false) : registered.issuers = claims.issuer.map ([·]) := by
  simp only [RefreshClaims.ofJson?, Option.bind_eq_bind, Option.bind_eq_some_iff, Option.pure_def,
    Option.some.injEq] at hc
  obtain ⟨r, hfound, user, huser, session, hsession, issuedAt, hissuedAt, expiresAt, hexpiresAt, issuer, hissuer,
    rfl⟩ := hc
  obtain ⟨fields, rfl, hissuers⟩ | ⟨exp, nbf, sub, iss, aud, rfl, hissuers, haudience⟩ := registered_issuers hr
  · rw [hissuers]
    exact names?_given (by decide) hfound hissuer
  · cases hfound
    have hnames : Token.names? aud = issuer.map ([·]) := names?_of_asOption? hissuer
    rw [haudience, hnames] at ha
    rw [hissuers]
    cases issuer with
    | none => exact names?_of_asInt? hexpiresAt
    | some issuer => cases ha

/-! ## Signed template ids -/

theorem isPlain_template (c : TemplateClaims) : c.toJson.isPlain = true := by
  obtain ⟨template, expiresAt⟩ := c
  cases expiresAt <;> rfl

theorem ofJson?_template {c : TemplateClaims} (he : ∀ e ∈ c.expiresAt, Fits e) :
    TemplateClaims.ofJson? c.toJson = some c := by
  obtain ⟨template, expiresAt⟩ := c
  have hr : (TemplateClaims.toJson ⟨template, expiresAt⟩).asRecord? ["tpl", "exp"] =
      some ⟨("tpl", .str template) :: Json.optionalField "exp" .int expiresAt, false⟩ := by
    cases expiresAt with
    | none => exact asRecord?_record (show ["tpl"].Nodup by decide)
    | some e => exact asRecord?_record (show ["tpl", "exp"].Nodup by decide)
  have hexpiry : (Json.Record.mk (("tpl", .str template) :: Json.optionalField "exp" .int expiresAt) false).withDefault
      "exp" (Json.asOption? Json.asInt?) none = some expiresAt := by
    cases expiresAt with
    | none => rfl
    | some e =>
      have hfits : Fits e := he e rfl
      show (Json.asInt? (.int e)).map some = some (some e)
      rw [asInt?_int, if_pos hfits, Option.map_some]
  simp only [TemplateClaims.ofJson?, hr, Option.bind_eq_bind, Option.bind_some, hexpiry, Json.Record.required,
    List.lookup_cons, asString?_str, String.reduceBEq]
  rfl

/-- What every reader of tokens sees of the claims of a template is their expiry, unless it is negative. -/
theorem registered_template {c : TemplateClaims} (he : ∀ e ∈ c.expiresAt, Fits e) :
    Token.Registered.ofJson? c.toJson = some {
      expiry := c.expiresAt.bind fun e => if 0 ≤ e then some e.toNat else none
      issuers := none
      hasAudience := false } := by
  obtain ⟨template, expiresAt⟩ := c
  have hnull : Token.passesCount .null = true ∧ Token.passesText .null = true ∧ Token.passesNames .null = true ∧
      Token.names? .null = none ∧ Json.asUInt64? .null = none := by decide +kernel
  have hr : (TemplateClaims.toJson ⟨template, expiresAt⟩).asRecord? ["exp", "nbf", "sub", "iss", "aud"] =
      some ⟨Json.optionalField "exp" .int expiresAt, false⟩ := by
    cases expiresAt with
    | none => exact asRecord?_record (show ["tpl"].Nodup by decide)
    | some e => exact asRecord?_record (show ["tpl", "exp"].Nodup by decide)
  cases expiresAt with
  | none => simp [Token.Registered.ofJson?, hr, Json.optionalField, hnull]
  | some e =>
    have hcount := count?_int (he e rfl)
    simp [Token.Registered.ofJson?, hr, Json.optionalField, List.lookup_cons, passesCount_int, hcount, hnull]

end Passcode
