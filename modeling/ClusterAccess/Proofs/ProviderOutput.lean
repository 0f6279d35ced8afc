import ClusterAccess.Crypto.Keys
import ClusterAccess.Proofs.Cache.Origin
import ClusterAccess.Proofs.Except
import ClusterAccess.Proofs.Refresh
import ClusterAccess.Proofs.RefreshTiming
import ClusterAccess.Proofs.Text

namespace ClusterAccess

open Text (isBlankText trim)
open Time (Instant parseTimestamp)

def Json.HasText (d : Json) (selector text : String) : Prop :=
  Selector.select? d selector = some (.string text)

/-- A credential goes stale, whatever the margin is: it is stale at some time and ever after. -/
def Credential.GoesStale (c : Credential) : Prop :=
  ∀ margin, ∃ deadline, ∀ now : Instant, now.before deadline = false → c.needsRefresh now margin

namespace Credential

variable {c : Credential} {t : Instant}

theorem goesStale_of_expiresAt (h : c.expiresAt = some t) : c.GoesStale := by
  intro margin
  cases hd : t.sub? margin with
  | some deadline =>
    refine ⟨deadline, fun now hnow => ?_⟩
    simp only [needsRefresh, h, hd, hnow, Bool.not_false]
  | none =>
    -- a margin that leaves the range of time makes the credential stale at once
    refine ⟨t, fun now _ => ?_⟩
    simp only [needsRefresh, h, hd]

end Credential

namespace Provider

/-- At the time that its expiry spells, or never if no place for an expiry is given. -/
inductive Expires (p : Provider) (d : Json) : Option Instant → Prop where
  | never (h : p.expirySelector = none) : Expires p d none
  | at {selector raw : String} {t : Instant} (h : p.expirySelector = some selector)
    (hraw : d.HasText selector raw) (ht : parseTimestamp raw = some t) : Expires p d (some t)

/-- The output itself, or what stands at the selectors in the document that it is. -/
inductive Accepts (p : Provider) (stdout : String) : Credential → Prop where
  | raw (hs : p.tokenSelector = none) (hb : isBlankText stdout = false) :
    Accepts p stdout (.bearer (trim stdout) none)
  | document {selector token : String} {d : Json} {expiresAt : Option Instant}
    (hs : p.tokenSelector = some selector) (hd : Json.parse? (trim stdout) = some d)
    (ht : d.HasText selector token) (hb : isBlankText token = false)
    (he : p.Expires d expiresAt) : Accepts p stdout (.bearer (trim token) expiresAt)

variable {p : Provider} {d : Json} {selector stdout token : String} {t : Instant}
  {expiresAt : Option Instant} {c : Credential}

theorem bind_string?_eq_some_iff :
    (Selector.select? d selector).bind Json.string? = some token ↔ d.HasText selector token := by
  rw [Option.bind_eq_some_iff, Json.HasText]
  constructor
  · rintro ⟨v, hv, ht⟩
    cases v with
    | string s =>
      cases ht
      exact hv
    | _ => cases ht
  · intro h
    exact ⟨_, h, rfl⟩

theorem tokenAt_eq_ok_iff : tokenAt d selector = .ok token ↔
    ∃ text, d.HasText selector text ∧ isBlankText text = false ∧ trim text = token := by
  rw [tokenAt]
  constructor
  · intro h
    split at h
    next text ht =>
      obtain ⟨ht, hb⟩ := Option.filter_eq_some_iff.1 ht
      rw [Bool.not_eq_true'] at hb
      exact ⟨text, bind_string?_eq_some_iff.1 ht, hb, Except.ok.inj h⟩
    next => cases h
  · rintro ⟨text, ht, hb, rfl⟩
    have hkept : (some text).filter (fun t => !isBlankText t) = some text := by
      rw [Option.filter_some, hb, Bool.not_false, if_pos rfl]
    rw [bind_string?_eq_some_iff.2 ht, hkept]

theorem instantAt_eq_ok_iff : instantAt d selector = .ok t ↔
    ∃ raw, d.HasText selector raw ∧ parseTimestamp raw = some t := by
  rw [instantAt]
  constructor
  · intro h
    split at h
    next => cases h
    next raw hraw =>
      split at h
      next t ht =>
        cases h
        exact ⟨raw, bind_string?_eq_some_iff.1 hraw, ht⟩
      next => cases h
  · rintro ⟨raw, hraw, ht⟩
    rw [bind_string?_eq_some_iff.2 hraw]
    simp only [ht]

theorem document_eq_ok_iff {text : String} :
    p.document text = .ok d ↔ Json.parse? text = some d := by
  rw [document]
  cases Json.parse? text <;> simp

theorem isEmpty_of_parse {text : String} (h : Json.parse? text = some d) :
    text.isEmpty = false := by
  rw [Bool.eq_false_iff]
  intro he
  rw [String.isEmpty_iff.1 he] at h
  cases h

theorem accepts_of_parseOutput (h : p.parseOutput stdout = .ok c) : p.Accepts stdout c := by
  simp only [parseOutput] at h
  split at h
  next => cases h
  next he =>
    have hb : isBlankText stdout = false := by
      rw [String.isEmpty_iff, Text.trim_eq_empty_iff, Bool.not_eq_true] at he
      exact he
    split at h
    next hs =>
      cases h
      exact .raw hs hb
    next selector hs =>
      obtain ⟨d, hdoc, h⟩ := Except.bind_eq_ok_iff.1 h
      obtain ⟨token, htoken, h⟩ := Except.bind_eq_ok_iff.1 h
      have hd := document_eq_ok_iff.1 hdoc
      obtain ⟨text, ht, hb, rfl⟩ := tokenAt_eq_ok_iff.1 htoken
      split at h
      next he =>
        cases h
        exact .document hs hd ht hb (.never he)
      next expiry he =>
        obtain ⟨t, hi, h⟩ := Except.bind_eq_ok_iff.1 h
        cases h
        obtain ⟨raw, hraw, hp⟩ := instantAt_eq_ok_iff.1 hi
        exact .document hs hd ht hb (.at he hraw hp)

theorem Accepts.parseOutput_eq (h : p.Accepts stdout c) : p.parseOutput stdout = .ok c := by
  cases h with
  | raw hs hb => simp only [parseOutput, Text.isEmpty_trim hb, hs, Bool.false_eq_true, if_false]
  | document hs hd ht hb he =>
    have hne := isEmpty_of_parse hd
    have hdoc := document_eq_ok_iff (p := p).2 hd
    have htoken := tokenAt_eq_ok_iff.2 ⟨_, ht, hb, rfl⟩
    simp only [parseOutput, hne, hs, hdoc, htoken, Bool.false_eq_true, if_false, bind, Except.bind]
    cases he with
    | never he => simp only [he]; rfl
    | «at» he hraw hp => simp only [he, instantAt_eq_ok_iff.2 ⟨_, hraw, hp⟩]; rfl

theorem parseOutput_eq_ok_iff : p.parseOutput stdout = .ok c ↔ p.Accepts stdout c :=
  ⟨accepts_of_parseOutput, fun h => h.parseOutput_eq⟩

/-- An output is refused, or its credential ends when the text at a selector says. -/
inductive KeepsExpiry (p : Provider) (selector stdout : String) : Prop where
  | refused {detail : String} (h : p.parseOutput stdout = .error (.badCommandOutput detail)) :
    KeepsExpiry p selector stdout
  | dated {c : Credential} {d : Json} {raw : String} {t : Instant}
    (hc : p.parseOutput stdout = .ok c) (hd : Json.parse? (trim stdout) = some d)
    (hraw : d.HasText selector raw) (ht : parseTimestamp raw = some t)
    (he : c.expiresAt = some t) : KeepsExpiry p selector stdout

theorem KeepsExpiry.expiresAt_ne_none (h : p.KeepsExpiry selector stdout)
    (hc : p.parseOutput stdout = .ok c) : c.expiresAt ≠ none := by
  cases h with
  | refused h => cases hc.symm.trans h
  | dated hc' _ _ _ he =>
    cases hc.symm.trans hc'
    rw [he]
    exact Option.some_ne_none _

/-- With a selector for the token, no output yields a credential without its expiry. -/
theorem keepsExpiry_of_tokenSelector (he : p.expirySelector = some selector)
    (hs : p.tokenSelector.isSome = true) (stdout : String) : p.KeepsExpiry selector stdout := by
  cases hp : p.parseOutput stdout with
  | error e =>
    obtain ⟨detail, rfl⟩ := p.blamesOutput_parseOutput stdout e hp
    exact .refused hp
  | ok c =>
    cases accepts_of_parseOutput hp with
    | raw hn _ => rw [hn] at hs; cases hs
    | document _ hd _ _ hx =>
      cases hx with
      | never hn => cases he.symm.trans hn
      | «at» he' hraw ht =>
        cases he.symm.trans he'
        exact .dated hp hd hraw ht rfl

theorem keepsExpiry_iff (he : p.expirySelector = some selector) :
    p.KeepsExpiry selector stdout ↔ p.tokenSelector.isSome = true ∨ isBlankText stdout = true := by
  constructor
  · intro h
    cases hs : p.tokenSelector with
    | some _ => exact .inl rfl
    | none =>
      right
      cases hb : isBlankText stdout with
      | true => rfl
      | false =>
        exact absurd rfl (h.expiresAt_ne_none (Accepts.parseOutput_eq (.raw hs hb)))
  · rintro (hs | hb)
    · exact keepsExpiry_of_tokenSelector he hs stdout
    · have hp : p.parseOutput stdout =
          .error (.badCommandOutput ("'" ++ p.describe ++ "' produced no output")) := by
        simp only [parseOutput, (Text.trim_eq_empty_iff stdout).2 hb]
        rfl
      exact .refused hp

/-- Whatever a cache has been through, what refreshes have put into it goes stale. -/
def CachesNoneForEver [Library] (p : Provider) : Prop :=
  ∀ initial es cache v, (Cache.ofInitial initial).run es = some cache →
    Cache.FedBy (CredentialSource.provider p).Gives es → cache.cached = some v →
      initial = some v ∨ v.GoesStale

theorem gives_ok_iff [Library] : (CredentialSource.provider p).Gives (.ok c) ↔
    p.command.isSome = true ∧ ∃ stdout, p.Accepts stdout c := by
  have hcommand : (∃ i, (CredentialSource.provider p).invocation = .ok i) ↔
      p.command.isSome = true := by
    rw [CredentialSource.invocation, invocation]
    cases p.command <;> simp
  simp only [CredentialSource.gives_ok_iff, hcommand, CredentialSource.parseOutput,
    parseOutput_eq_ok_iff]

/-- A token that is the whole output stays in the cache for ever. -/
theorem not_cachesNoneForEver [Library] {program : String} (hs : p.tokenSelector = none)
    (hc : p.command = some program) : ¬ p.CachesNoneForEver := by
  intro h
  have hsome : p.command.isSome = true := by
    rw [hc]
    rfl
  have hgives : (CredentialSource.provider p).Gives (.ok (.bearer (trim "t") none)) :=
    gives_ok_iff.2 ⟨hsome, "t", .raw hs rfl⟩
  have hfed := Cache.fedBy_singleRun hgives
  obtain ⟨cache, hr, hv, -⟩ := Cache.run_singleRun (.bearer (trim "t") none)
  rcases h none _ cache _ hr hfed hv with hi | hstale
  · cases hi
  · obtain ⟨deadline, hdeadline⟩ := hstale ⟨0⟩
    have hself : deadline.before deadline = false := by simp [Instant.before]
    cases hdeadline deadline hself

theorem cachesNoneForEver_iff [Library] (he : p.expirySelector = some selector) :
    p.CachesNoneForEver ↔ p.tokenSelector.isSome = true ∨ p.command = none := by
  constructor
  · intro h
    cases hs : p.tokenSelector with
    | some _ => exact .inl rfl
    | none =>
      cases hc : p.command with
      | none => exact .inr rfl
      | some program => exact absurd h (not_cachesNoneForEver hs hc)
  · intro h initial es cache v hr hfed hv
    rcases Cache.cached_origin hr hv with hi | ⟨k, hk⟩
    · exact .inl hi
    · right
      obtain ⟨hcommand, stdout, ha⟩ := gives_ok_iff.1 (hfed k _ hk)
      rcases h with hs | hc
      · have hkept := keepsExpiry_of_tokenSelector he hs stdout
        have hdated := hkept.expiresAt_ne_none ha.parseOutput_eq
        obtain ⟨t, ht⟩ := Option.ne_none_iff_exists'.1 hdated
        exact v.goesStale_of_expiresAt ht
      · rw [hc] at hcommand
        cases hcommand

/-- When a provider heeds its selector for the expiry. -/
structure HeedsExpiry [Library] (p : Provider) (selector : String) : Prop where
  output : ∀ stdout, p.KeepsExpiry selector stdout ↔
    p.tokenSelector.isSome = true ∨ isBlankText stdout = true
  unkept : ∀ stdout, ¬ p.KeepsExpiry selector stdout → ∃ c,
    p.parseOutput stdout = .ok c ∧ c.secret = .token (trim stdout) ∧
      ∀ now margin, c.needsRefresh now margin = false
  cached : p.CachesNoneForEver ↔ p.tokenSelector.isSome = true ∨ p.command = none

theorem expirySelector_heeded [Library] (he : p.expirySelector = some selector) :
    p.HeedsExpiry selector where
  output _ := keepsExpiry_iff he
  unkept stdout h := by
    rw [keepsExpiry_iff he, not_or, Option.not_isSome_iff_eq_none, Bool.not_eq_true] at h
    obtain ⟨hs, hb⟩ := h
    refine ⟨.bearer (trim stdout) none, Accepts.parseOutput_eq (.raw hs hb), rfl, ?_⟩
    exact Credential.needsRefresh_of_never rfl
  cached := cachesNoneForEver_iff he

def documented : Provider :=
  ⟨"gcp", some "gcloud", ["config", "config-helper"], some "credential/access_token",
    some "credential/token_expiry", none, none⟩

theorem expirySelector_heeded_documented :
    documented.expirySelector = some "credential/token_expiry" ∧
      documented.HeedsExpiry "credential/token_expiry" :=
  ⟨rfl, expirySelector_heeded rfl⟩

/-- With a place for the expiry only, the output is taken for a token that never expires. -/
theorem not_keepsExpiry_configured :
    ∃ p, ofConfig ⟨"gcp", [("cmd-path", .string "gcloud"),
        ("expiry-key", .string "credential/token_expiry")]⟩ = .ok p ∧
      p.expirySelector = some "credential/token_expiry" ∧
      p.parseOutput "ya29.token\n" = .ok (.bearer "ya29.token" none) ∧
      ¬ p.KeepsExpiry "credential/token_expiry" "ya29.token\n" ∧ ¬ p.CachesNoneForEver := by
  refine ⟨_, rfl, rfl, rfl, ?_, ?_⟩
  · intro h
    exact h.expiresAt_ne_none rfl rfl
  · exact not_cachesNoneForEver rfl rfl

end Provider

end ClusterAccess
