import ClusterAccess.Proofs.Material
import ClusterAccess.Proofs.Record
import ClusterAccess.Proofs.Refresh
import ClusterAccess.Proofs.Text

namespace ClusterAccess

open Json (Document Fields Optionally)
open Text (Given Missing)

namespace ClientCertificate

/-- The texts can be read, and the key belongs to the certificate. -/
inductive IsPair [Library] (certificate key : String) : ClientCertificate → Prop where
  | intro {c : Certificate} {k : PrivateKey} {owned : PublicKey}
    (hc : Certificate.ofBytes? (Text.utf8 certificate) = some c)
    (hk : PrivateKey.ofBytes? (Text.utf8 key) = some k)
    (howned : c.publicKey? = some owned) (hsame : k.publicKey? = some owned) :
    IsPair certificate key ⟨c, some k⟩

variable {certificate key source : String} {c : ClientCertificate} {bytes : List UInt8}

theorem validate_eq_ok_iff [Library] : c.validate = .ok () ↔ ∃ k owned, c.key = some k ∧
    c.certificate.publicKey? = some owned ∧ k.publicKey? = some owned := by
  rw [validate]
  cases c.key with
  | none => simp
  | some k =>
    cases c.certificate.publicKey? with
    | none => simp
    | some owned =>
      by_cases hsame : k.publicKey? = some owned
      · simp [hsame]
      · simp [hsame]

theorem ofPem_eq_ok_iff [Library] :
    ofPem certificate key = .ok c ↔ IsPair certificate key c := by
  simp only [ofPem, Except.bind_eq_ok_iff, Certificate.parse_eq_ok_iff, PrivateKey.parse_eq_ok_iff]
  constructor
  · rintro ⟨x, hx, k, hk, _, hv, hc⟩
    obtain ⟨k', owned, hk', howned, hsame⟩ := validate_eq_ok_iff.1 hv
    cases hk'
    cases hc
    exact .intro hx hk howned hsame
  · rintro ⟨hx, hk, howned, hsame⟩
    exact ⟨_, hx, _, hk, (), validate_eq_ok_iff.2 ⟨_, _, rfl, howned, hsame⟩, rfl⟩

end ClientCertificate

namespace Plugin

def Status.fieldNames : List String :=
  ["token", "clientCertificateData", "clientKeyData", "expirationTimestamp"]

def Response.fieldNames : List String := ["apiVersion", "kind", "status"]

/-- A document is that of a status: its fields are texts, null, or left out. -/
structure Status.IsIn (s : Status) (d : Document) : Prop where
  record : d.IsRecord fieldNames
  token : Optionally Document.IsText ((d.given fieldNames).lookup "token") s.token
  certificateData : Optionally Document.IsText
    ((d.given fieldNames).lookup "clientCertificateData") s.certificateData
  keyData : Optionally Document.IsText ((d.given fieldNames).lookup "clientKeyData") s.keyData
  expiry : Optionally Document.IsText ((d.given fieldNames).lookup "expirationTimestamp") s.expiry

structure Response.IsIn (r : Response) (d : Document) : Prop where
  record : d.IsRecord fieldNames
  apiVersion : Optionally Document.IsText ((d.given fieldNames).lookup "apiVersion") r.apiVersion
  kind : Optionally Document.IsText ((d.given fieldNames).lookup "kind") r.kind
  status : Optionally (fun d s => Status.IsIn s d) ((d.given fieldNames).lookup "status") r.status

/-- When a status ends: at the time that its text spells, or never if there is none. -/
inductive Status.Expires (s : Status) : Option Time.Instant → Prop where
  | never (h : s.expiry = none) : Expires s none
  | at {raw : String} {t : Time.Instant} (h : s.expiry = some raw)
    (ht : Time.parseTimestamp raw = some t) : Expires s (some t)

variable {α : Type} {d : Document} {fs : Fields} {name : String} {s : Status} {r : Response}
  {p : Plugin} {stdout : String} {c : Credential}

theorem get?_optionalOf_iff {read : Document → Option α} {R : Document → α → Prop}
    (hread : ∀ d a, read d = some a ↔ R d a) (hnull : read .null = none) {o : Option α} :
    fs.get? name none (optionalOf read) = some o ↔ Optionally R (fs.lookup name) o := by
  rw [Fields.get?]
  cases fs.lookup name with
  | none =>
    constructor
    · intro h
      cases h
      exact .absent
    · rintro ⟨⟩
      rfl
  | some d =>
    by_cases hd : d = .null
    · subst hd
      constructor
      · intro h
        cases h
        exact .null
      · intro h
        cases h with
        | null => rfl
        | given h => cases hnull.symm.trans ((hread _ _).2 h)
    · have hof : optionalOf read d = (read d).map some := by
        rw [optionalOf]
        exact hd
      simp only [hof, Option.map_eq_some_iff]
      constructor
      · rintro ⟨a, ha, rfl⟩
        exact .given ((hread d a).1 ha)
      · intro h
        cases h with
        | null => exact absurd rfl hd
        | given h => exact ⟨_, (hread d _).2 h, rfl⟩

theorem text?_eq_some_iff {t : String} : d.text? = some t ↔ d.IsText t := by
  constructor
  · intro h
    cases d with
    | string pieces => exact ⟨pieces, rfl, h⟩
    | _ => cases h
  · rintro ⟨pieces, rfl, h⟩
    exact h

theorem get?_optionalText_iff {o : Option String} :
    fs.get? name none Document.optionalText? = some o ↔
      Optionally Document.IsText (fs.lookup name) o := by
  have hof : Document.optionalText? = optionalOf Document.text? := by
    funext d
    cases d <;> rfl
  rw [hof]
  exact get?_optionalOf_iff (fun _ _ => text?_eq_some_iff) rfl

theorem Status.ofDocument?_eq_some_iff : Status.ofDocument? d = some s ↔ s.IsIn d := by
  simp only [Status.ofDocument?, Option.bind_eq_bind, Option.bind_eq_some_iff,
    Json.fields?_eq_some_iff, get?_optionalText_iff, Option.pure_def, Option.some.injEq]
  constructor
  · rintro ⟨_, ⟨hd, rfl⟩, token, ht, certificate, hc, key, hk, expiry, he, rfl⟩
    exact ⟨hd, ht, hc, hk, he⟩
  · rintro ⟨hd, ht, hc, hk, he⟩
    exact ⟨_, ⟨hd, rfl⟩, _, ht, _, hc, _, hk, _, he, rfl⟩

theorem Response.ofDocument?_eq_some_iff : Response.ofDocument? d = some r ↔ r.IsIn d := by
  have hstatus {fs : Fields} {o : Option Status} :
      fs.get? "status" none (optionalOf Status.ofDocument?) = some o ↔
        Optionally (fun d s => Status.IsIn s d) (fs.lookup "status") o :=
    get?_optionalOf_iff (fun _ _ => Status.ofDocument?_eq_some_iff) rfl
  simp only [Response.ofDocument?, Option.bind_eq_bind, Option.bind_eq_some_iff,
    Json.fields?_eq_some_iff, get?_optionalText_iff, hstatus, Option.pure_def, Option.some.injEq]
  constructor
  · rintro ⟨_, ⟨hd, rfl⟩, version, hv, kind, hk, status, hs, rfl⟩
    exact ⟨hd, hv, hk, hs⟩
  · rintro ⟨hd, hv, hk, hs⟩
    exact ⟨_, ⟨hd, rfl⟩, _, hv, _, hk, _, hs, rfl⟩

theorem status_eq_ok_iff : p.status r = .ok s ↔
    r.kind = some "ExecCredential" ∧ r.apiVersion = some p.apiVersion ∧ r.status = some s := by
  rw [Plugin.status, documentKind]
  by_cases hk : r.kind = some "ExecCredential"
  · by_cases hv : r.apiVersion = some p.apiVersion
    · cases r.status <;> simp [hk, hv, fault]
    · simp [hk, hv, fault]
  · simp [hk, fault]

theorem Status.expiresAt_eq_ok_iff {t : Option Time.Instant} :
    s.expiresAt = .ok t ↔ s.Expires t := by
  rw [Status.expiresAt]
  constructor
  · intro h
    split at h
    next hn =>
      cases h
      exact .never hn
    next raw hs =>
      split at h
      next t ht =>
        cases h
        exact .at hs ht
      next => cases h
  · intro h
    cases h with
    | never h => rw [h]
    | «at» h ht => simp only [h, ht]

variable [Library]

/-- A certificate with its key, or without any of them, a token as it is given. -/
inductive Status.Holds (s : Status) : Secret → Prop where
  | certificate {certificate key : String} {c : ClientCertificate}
    (hc : Given s.certificateData certificate) (hk : Given s.keyData key)
    (hp : ClientCertificate.IsPair certificate key c) : Holds s (.certificate c)
  | token {t : String} (hc : Missing s.certificateData) (hk : Missing s.keyData)
    (ht : Given s.token t) : Holds s (.token t)

/-- The credential in the output of a plugin. -/
inductive Accepts (p : Plugin) (stdout : String) : Credential → Prop where
  | intro {d : Document} {r : Response} {s : Status} {secret : Secret}
    {expiresAt : Option Time.Instant}
    (hd : Document.parse? (Text.trim stdout) = some d) (hr : r.IsIn d)
    (kind : r.kind = some "ExecCredential") (version : r.apiVersion = some p.apiVersion)
    (status : r.status = some s) (expiry : s.Expires expiresAt) (hs : s.Holds secret) :
    Accepts p stdout ⟨secret, expiresAt⟩

theorem Status.credential_eq_ok_iff :
    s.credential = .ok c ↔ s.Expires c.expiresAt ∧ s.Holds c.secret := by
  rw [Status.credential, Except.bind_eq_ok_iff]
  constructor
  · rintro ⟨t, ht, h⟩
    have he := expiresAt_eq_ok_iff.1 ht
    split at h
    next certificate key hc hk =>
      split at h
      next c hp =>
        cases h
        exact ⟨he, .certificate (Text.nonBlank?_eq_some_iff.1 hc) (Text.nonBlank?_eq_some_iff.1 hk)
          (ClientCertificate.ofPem_eq_ok_iff.1 hp)⟩
      next => cases h
    next hc hk =>
      split at h
      next token ht =>
        cases h
        exact ⟨he, .token (Text.nonBlank?_eq_none_iff.1 hc) (Text.nonBlank?_eq_none_iff.1 hk)
          (Text.nonBlank?_eq_some_iff.1 ht)⟩
      next => cases h
    next => cases h
  · obtain ⟨secret, t⟩ := c
    rintro ⟨he, hs⟩
    refine ⟨t, expiresAt_eq_ok_iff.2 he, ?_⟩
    cases hs with
    | certificate hc hk hp =>
      rw [Text.nonBlank?_eq_some_iff.2 hc, Text.nonBlank?_eq_some_iff.2 hk]
      simp only [ClientCertificate.ofPem_eq_ok_iff.2 hp]
      rfl
    | token hc hk ht =>
      rw [Text.nonBlank?_eq_none_iff.2 hc, Text.nonBlank?_eq_none_iff.2 hk,
        Text.nonBlank?_eq_some_iff.2 ht]
      rfl

theorem parseOutput_eq_ok_iff : p.parseOutput stdout = .ok c ↔ p.Accepts stdout c := by
  rw [parseOutput]
  constructor
  · intro h
    split at h
    next => cases h
    next r hr =>
      obtain ⟨d, hd, hr⟩ := Option.bind_eq_some_iff.1 hr
      obtain ⟨s, hs, hc⟩ := Except.bind_eq_ok_iff.1 h
      obtain ⟨hkind, hversion, hstatus⟩ := status_eq_ok_iff.1 hs
      obtain ⟨hexpiry, hsecret⟩ := Status.credential_eq_ok_iff.1 hc
      exact .intro hd (Response.ofDocument?_eq_some_iff.1 hr) hkind hversion hstatus hexpiry hsecret
  · rintro ⟨hd, hr, hkind, hversion, hstatus, hexpiry, hsecret⟩
    rw [Response.parse?, hd, Option.bind_some, Response.ofDocument?_eq_some_iff.2 hr]
    have hs := status_eq_ok_iff.2 ⟨hkind, hversion, hstatus⟩
    exact Except.bind_eq_ok_iff.2 ⟨_, hs, Status.credential_eq_ok_iff.2 ⟨hexpiry, hsecret⟩⟩

theorem gives_ok_iff :
    (CredentialSource.plugin p).Gives (.ok c) ↔ ∃ stdout, p.Accepts stdout c := by
  have hcommand : ∃ i, (CredentialSource.plugin p).invocation = .ok i := ⟨p.invocation, rfl⟩
  simp only [CredentialSource.gives_ok_iff, hcommand, CredentialSource.parseOutput,
    parseOutput_eq_ok_iff, true_and]

/-- What comes of the output of a plugin. -/
structure Reads (p : Plugin) (stdout : String) : Prop where
  accepted : ∀ c, p.parseOutput stdout = .ok c ↔ p.Accepts stdout c
  rejected : (∀ c, ¬ p.Accepts stdout c) ↔
    ∃ detail, p.parseOutput stdout = .error (.badCommandOutput detail)
  blamed : ∀ e, p.parseOutput stdout = .error e → ∃ detail, e = .badCommandOutput detail

theorem responses_accepted (p : Plugin) (stdout : String) : p.Reads stdout where
  accepted _ := parseOutput_eq_ok_iff
  rejected := by
    constructor
    · intro h
      cases hp : p.parseOutput stdout with
      | ok c => exact absurd (parseOutput_eq_ok_iff.1 hp) (h c)
      | error e =>
        obtain ⟨detail, rfl⟩ := p.blamesOutput_parseOutput stdout e hp
        exact ⟨detail, rfl⟩
    · rintro ⟨detail, hp⟩ c hc
      cases hp.symm.trans (parseOutput_eq_ok_iff.2 hc)
  blamed := p.blamesOutput_parseOutput stdout

end Plugin

end ClusterAccess
