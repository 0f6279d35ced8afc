import ClusterAccess.Binder
import ClusterAccess.Proofs.Diagnostics
import ClusterAccess.Proofs.Except

namespace ClusterAccess

open Text (isBlankText)

/-- The same text, or two that are not blank. -/
inductive SameSecret : Option String → Option String → Prop where
  | same (t : Option String) : SameSecret t t
  | other {t t' : String} (h : isBlankText t = false) (h' : isBlankText t' = false) :
    SameSecret (some t) (some t')

/-- The setting of a provider that is a secret. -/
def AuthProvider.secretKey : String := "access-token"

structure AuthProvider.Resembles (p p' : AuthProvider) : Prop where
  name : p'.name = p.name
  settings : ∀ key, key ≠ secretKey → p'.value? key = p.value? key
  secret : SameSecret (p.value? secretKey) (p'.value? secretKey)

inductive User.Resembles (u : User) : User → Prop where
  | intro {token password : Option String} {authProvider : Option AuthProvider}
    {exec : Option ExecEntry} (ht : SameSecret u.token token)
    (hp : SameSecret u.password password)
    (ha : Option.Rel AuthProvider.Resembles u.authProvider authProvider)
    (he : Option.Rel ExecEntry.Alike u.exec exec) :
    Resembles u { u with token, password, authProvider, exec }

inductive Kubeconfig.Resembles (k : Kubeconfig) : Kubeconfig → Prop where
  | intro {users : List (Named User)}
    (h : List.Forall₂ (fun n n' => n'.name = n.name ∧ n.body.Resembles n'.body) k.users users) :
    Resembles k { k with users }

theorem User.Resembles.refl (u : User) : u.Resembles u := by
  have hprovider : Option.Rel AuthProvider.Resembles u.authProvider u.authProvider := by
    cases u.authProvider with
    | none => exact .none
    | some p => exact .some ⟨rfl, fun _ _ => rfl, .same _⟩
  have hexec : Option.Rel ExecEntry.Alike u.exec u.exec := by
    cases u.exec with
    | none => exact .none
    | some e => exact .some (.intro rfl)
  exact .intro (.same _) (.same _) hprovider hexec

theorem Kubeconfig.Resembles.refl (k : Kubeconfig) : k.Resembles k :=
  .intro (List.forall₂_same.2 fun n _ => ⟨rfl, .refl n.body⟩)

/-- A secret without its texts. -/
def Secret.veil : Secret → Secret
  | token _ => .token ""
  | basic .. => .basic "" ""
  | certificate c => .certificate c

def Credential.veil (c : Credential) : Credential := ⟨c.secret.veil, c.expiresAt⟩

def Outcome.veil (o : Outcome) : Outcome := o.map Credential.veil

inductive CredentialSource.Resembles : CredentialSource → CredentialSource → Prop where
  | provider {p : Provider} {initialToken : Option String}
    (h : initialToken.isSome = p.initialToken.isSome) :
    Resembles (.provider p) (.provider { p with initialToken })
  | plugin (p : Plugin) (env : TextTable) : Resembles (.plugin p) (.plugin { p with env })

inductive Strategy.Resembles : Strategy → Strategy → Prop where
  | same (st : Strategy) : Resembles st st
  | basic (username : String) {password password' : String} (h : isBlankText password = false)
    (h' : isBlankText password' = false) :
    Resembles (.basic username password) (.basic username password')
  | token {t t' : String} (h : isBlankText t = false) (h' : isBlankText t' = false) :
    Resembles (.token t) (.token t')
  | renewable {r : Renewable} {source : CredentialSource} {cached : Option Credential}
    (hs : r.source.Resembles source)
    (hc : cached.map Credential.veil = r.cached.map Credential.veil) :
    Resembles (.renewable r) (.renewable { r with source, cached })

inductive Options.Resembles (o : Options) : Options → Prop where
  | intro {strategy : Strategy} (h : o.strategy.Resembles strategy) :
    Resembles o { o with strategy }

namespace SameSecret

variable {s s' : Option String}

theorem isSome_eq (h : SameSecret s s') : s'.isSome = s.isSome := by
  cases h <;> rfl

theorem nonBlank? (h : SameSecret s s') : SameSecret (Text.nonBlank? s) (Text.nonBlank? s') := by
  cases h with
  | same => exact .same _
  | @other t t' h h' =>
    have hkept {t : String} (h : isBlankText t = false) : Text.nonBlank? (some t) = some t := by
      rw [Text.nonBlank?, Option.filter_some, if_pos (by rw [h, Bool.not_false])]
    rw [hkept h, hkept h']
    exact .other h h'

end SameSecret

section Veils

variable {c c' : Credential}

theorem Credential.expiresAt_of_veil (h : c'.veil = c.veil) : c'.expiresAt = c.expiresAt := by
  have hveil (c : Credential) : c.veil.expiresAt = c.expiresAt := rfl
  rw [← hveil, h, hveil]

theorem Outcome.rel_of_veil {x x' : Outcome} (h : x'.veil = x.veil) :
    Except.Rel Eq (fun c c' : Credential => c'.veil = c.veil) x x' := by
  cases x with
  | error e =>
    cases x' with
    | error e' => exact .error (Except.error.inj h).symm
    | ok c' => cases h
  | ok c =>
    cases x' with
    | error e' => cases h
    | ok c' => exact .ok (Except.ok.inj h)

theorem Credential.isSome_authorization? (c : Credential) :
    c.veil.authorization?.isSome = c.authorization?.isSome := by
  obtain ⟨secret, expiresAt⟩ := c
  cases secret <;> simp only [veil, Secret.veil, authorization?, Option.isSome_some]

theorem Credential.isSome_authorization?_of_veil (h : c'.veil = c.veil) :
    c'.authorization?.isSome = c.authorization?.isSome := by
  rw [← isSome_authorization?, h, isSome_authorization?]

end Veils

namespace CredentialSource.Resembles

variable {s s' : CredentialSource}

theorem refl (s : CredentialSource) : s.Resembles s := by
  cases s with
  | provider p => exact .provider rfl
  | plugin p => exact .plugin p p.env

theorem kind_eq (h : s.Resembles s') : s'.kind = s.kind := by
  cases h <;> rfl

theorem describe_eq (h : s.Resembles s') : s'.describe = s.describe := by
  cases h <;> rfl

theorem validate_eq (h : s.Resembles s') : s'.validate = s.validate := by
  cases h with
  | provider h =>
    have hnone := congrArg (!·) h
    simp only [Option.not_isSome] at hnone
    simp only [CredentialSource.validate, Provider.validate, hnone]
  | plugin p env => rfl

end CredentialSource.Resembles

namespace Strategy.Resembles

variable {st st' : Strategy}

theorem kind_eq (h : st.Resembles st') : st'.kind = st.kind := by
  cases h with
  | same => rfl
  | basic => rfl
  | token => rfl
  | renewable hs => exact hs.kind_eq

theorem sourceName_eq (h : st.Resembles st') : st'.sourceName = st.sourceName := by
  cases h with
  | same => rfl
  | basic => rfl
  | token => rfl
  | renewable hs => exact hs.describe_eq

theorem validate_eq [Library] (h : st.Resembles st') : st'.validate = st.validate := by
  cases h with
  | same => rfl
  | basic username h h' =>
    have hempty {t : String} (h : isBlankText t = false) : t.isEmpty = false := by
      rw [Bool.eq_false_iff]
      intro he
      rw [String.isEmpty_iff.1 he] at h
      cases h
    simp only [Strategy.validate, hempty h, hempty h']
  | token h h' => simp only [Strategy.validate, h, h']
  | renewable hs => exact hs.validate_eq

/-- Strategies that resemble each other renew their credentials alike, or both have a fixed one. -/
theorem renewable_or_fixed (h : st.Resembles st') :
    (∃ r r', st = .renewable r ∧ st' = .renewable r' ∧ r.source.Resembles r'.source ∧
      r'.margin = r.margin ∧ r'.cached.map Credential.veil = r.cached.map Credential.veil) ∨
    ∃ c c', st.fixedCredential? = some c ∧ st'.fixedCredential? = some c' ∧
      c'.map Credential.veil = c.map Credential.veil := by
  cases h with
  | same =>
    cases hst : st.fixedCredential? with
    | some c => exact .inr ⟨c, c, rfl, rfl, rfl⟩
    | none =>
      cases st with
      | renewable r => exact .inl ⟨r, r, rfl, rfl, .refl _, rfl, rfl⟩
      | _ => cases hst
  | basic | token => exact .inr ⟨_, _, rfl, rfl, rfl⟩
  | renewable hs hc => exact .inl ⟨_, _, rfl, rfl, hs, rfl, hc⟩

end Strategy.Resembles

namespace Options.Resembles

variable {o o' : Options} {c c' : Option Credential}

theorem strategy (h : o.Resembles o') : o.strategy.Resembles o'.strategy := by
  obtain ⟨h⟩ := h
  exact h

theorem validateCertificate_eq [Library] (h : o.Resembles o') :
    o'.validateCertificate = o.validateCertificate := by
  obtain ⟨h⟩ := h
  simp only [validateCertificate]
  cases o.certificate with
  | none => rfl
  | some c =>
    generalize o.strategy = st at h
    cases h with
    | same => rfl
    | basic => rfl
    | token => rfl
    | renewable hs => simp only [Strategy.kind, hs.kind_eq]

theorem validate_eq [Library] (h : o.Resembles o') : o'.validate = o.validate := by
  have hcertificate := h.validateCertificate_eq
  obtain ⟨h⟩ := h
  simp only [Options.validate, h.validate_eq, hcertificate]

theorem checked [Library] (h : o.Resembles o') :
    Except.Rel Eq Options.Resembles (o.validate >>= fun _ => pure o)
      (o'.validate >>= fun _ => pure o') := by
  rw [h.validate_eq]
  cases o.validate with
  | error e => exact .error rfl
  | ok _ => exact .ok h

theorem credentialWait_eq (h : o.Resembles o') : o'.credentialWait = o.credentialWait := by
  obtain ⟨-⟩ := h
  rfl

theorem waitEntry_eq (h : o.Resembles o') : o'.waitEntry = o.waitEntry := by
  obtain ⟨h⟩ := h
  simp only [waitEntry, h.kind_eq]

theorem waitError_eq (h : o.Resembles o') : o'.waitError = o.waitError := by
  obtain ⟨h⟩ := h
  simp only [waitError, h.sourceName_eq]

theorem isSome_authorization?_of_map_veil (hc : c'.map Credential.veil = c.map Credential.veil) :
    (c'.bind (·.authorization?)).isSome = (c.bind (·.authorization?)).isSome := by
  cases rel_of_map_eq hc with
  | none => rfl
  | some hveil => exact Credential.isSome_authorization?_of_veil hveil

theorem authenticationEntries_eq (h : o.Resembles o')
    (hc : c'.map Credential.veil = c.map Credential.veil) :
    o'.authenticationEntries c' = o.authenticationEntries c := by
  obtain ⟨h⟩ := h
  simp only [authenticationEntries, isSome_authorization?_of_map_veil hc]

theorem names_handshake (o : Options) (c : Option Credential) :
    (o.handshake c).request.headers.names =
      if (c.bind (·.authorization?)).isSome then [authorizationHeader] else [] := by
  rw [handshake, authenticate_handshake]
  cases c with
  | none => cases hcert : o.certificate <;> simp only [authenticate, hcert] <;> rfl
  | some c =>
    obtain ⟨secret, expiresAt⟩ := c
    cases secret <;> rfl

theorem handshakeEntries_eq (h : o.Resembles o')
    (hc : c'.map Credential.veil = c.map Credential.veil) :
    o'.handshakeEntries c' = o.handshakeEntries c := by
  have hentries := h.authenticationEntries_eq hc
  obtain ⟨h⟩ := h
  simp only [handshakeEntries, hentries, names_handshake, isSome_authorization?_of_map_veil hc]

end Options.Resembles

end ClusterAccess
