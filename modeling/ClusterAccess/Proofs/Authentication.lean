import ClusterAccess.Crypto.Keys
import ClusterAccess.Proofs.Except
import ClusterAccess.Proofs.Headers
import ClusterAccess.Simulation.Session

namespace ClusterAccess

inductive Showing where
  | nothing
  | certificate (c : ClientCertificate)
  | header (value : String)

namespace Showing

def request : Showing → Request
  | nothing => ⟨⟨[]⟩, []⟩
  | certificate c => ⟨⟨[]⟩, [c]⟩
  | header value => ⟨⟨[("Authorization", value)]⟩, []⟩

/-- A request comes to show something, and is as it was otherwise. -/
inductive Added (r : Request) : Showing → Request → Prop where
  | nothing : Added r .nothing r
  | certificate (c : ClientCertificate) :
    Added r (.certificate c) ⟨r.headers, r.certificates ++ [c]⟩
  | header {value : String} {entries : List (String × String)}
    (h : Headers.Sets "Authorization" value r.headers.entries entries) :
    Added r (.header value) ⟨⟨entries⟩, r.certificates⟩

theorem Added.of_empty {s : Showing} {r : Request} (h : Added .empty s r) : r = s.request := by
  cases h with
  | nothing => rfl
  | certificate c => rfl
  | header h =>
    rw [h.of_nil]
    rfl

def applyTo {τ : Type} [CredentialTarget τ] (t : τ) : Showing → τ
  | nothing => t
  | certificate c => CredentialTarget.addCertificate t c
  | header value => CredentialTarget.setHeader t "Authorization" value

theorem added_applyTo (s : Showing) (r : Request) : s.Added r (s.applyTo r) := by
  cases s with
  | nothing => exact .nothing
  | certificate c => exact .certificate c
  | header value => exact .header (Headers.sets_setIn _ value r.headers.entries)

/-- What a request comes to show is no second Authorization field. -/
theorem Added.count_le {s : Showing} {r r' : Request} (h : s.Added r r') :
    Headers.count "Authorization" r'.headers.entries ≤
      max 1 (Headers.count "Authorization" r.headers.entries) := by
  cases h with
  | nothing => exact Nat.le_max_right ..
  | certificate c => exact Nat.le_max_right ..
  | header h => exact Nat.le_of_eq h.count_eq

end Showing

namespace Strategy

/-- The credentials that a strategy can resolve to; renewable ones can be any. -/
inductive ResolvesTo : Strategy → Option Credential → Prop where
  | none : ResolvesTo .none Option.none
  | basic (username password : String) :
    ResolvesTo (.basic username password) (some (.basic username password))
  | token (t : String) : ResolvesTo (.token t) (some (.bearer t Option.none))
  | certificate (c : ClientCertificate) :
    ResolvesTo (.certificate c) (some (.certificate c Option.none))
  | renewable (r : Renewable) (c : Credential) : ResolvesTo (.renewable r) (some c)

theorem resolvesTo_of_fixed {st : Strategy} {credential : Option Credential}
    (h : st.fixedCredential? = some credential) : st.ResolvesTo credential := by
  cases st <;> cases h <;> constructor

end Strategy

namespace Options

/-- What options show of a credential that their strategy resolves to. -/
inductive Due (o : Options) : Option Credential → Showing → Prop where
  | nothing (hs : o.strategy = .none) (hc : o.certificate = none) : Due o none .nothing
  | attached {c : ClientCertificate} (hs : o.strategy = .none) (hc : o.certificate = some c) :
    Due o none (.certificate c)
  | certificate (c : ClientCertificate) (expiresAt : Option Time.Instant) :
    Due o (some (.certificate c expiresAt)) (.certificate c)
  | bearer (t : String) (expiresAt : Option Time.Instant) (hc : o.certificate = none) :
    Due o (some (.bearer t expiresAt)) (.header ("Bearer " ++ t))
  | basic (username password : String) (expiresAt : Option Time.Instant)
    (hc : o.certificate = none) :
    Due o (some ⟨.basic username password, expiresAt⟩)
      (.header ("Basic " ++ encodeBasic username password))

variable {o : Options} {answer : Option Outcome} {credential : Option Credential} {s s' : Showing}
  {e : Error}

theorem resolvesTo_of_currentCredential (h : o.currentCredential answer = .ok credential) :
    o.strategy.ResolvesTo credential := by
  cases hf : o.strategy.fixedCredential? with
  | some c =>
    cases (currentCredential_of_fixed hf answer).symm.trans h
    exact Strategy.resolvesTo_of_fixed hf
  | none =>
    cases hs : o.strategy with
    | renewable r =>
      rw [currentCredential_of_renewable hs] at h
      rcases answer with _ | (e | c)
      · cases h
      · cases h
      · cases h
        exact .renewable r c
    | none => simp [hs, Strategy.fixedCredential?] at hf
    | basic => simp [hs, Strategy.fixedCredential?] at hf
    | token => simp [hs, Strategy.fixedCredential?] at hf
    | certificate => simp [hs, Strategy.fixedCredential?] at hf

theorem validate_eq_ok_iff [Library] : o.validate = .ok () ↔
    validateEndpoint o.endpoint = .ok () ∧ Text.isBlankText o.namespaceName = false ∧
      o.credentialWait ≠ 0 ∧ o.validateCertificate = .ok () ∧ o.strategy.validate = .ok () := by
  rw [validate, Except.bind_unit_eq_ok_iff]
  refine and_congr_right fun _ => ?_
  cases Text.isBlankText o.namespaceName with
  | true => simp [Except.bind_unit_eq_ok_iff]
  | false =>
    cases hw : o.credentialWait == 0 with
    | true => simp [beq_iff_eq.1 hw, Except.bind_unit_eq_ok_iff]
    | false => simp [beq_eq_false_iff_ne.1 hw, Except.bind_unit_eq_ok_iff]

/-- Valid options authenticate in one way: with a certificate goes no other strategy. -/
theorem strategy_of_valid [Library] (hv : o.validate = .ok ()) {c : ClientCertificate}
    (hc : o.certificate = some c) :
    o.strategy = .none ∨ ∃ c', o.strategy = .certificate c' := by
  have hc' := (validate_eq_ok_iff.1 hv).2.2.2.1
  rw [validateCertificate, hc] at hc'
  have hs := (Except.bind_unit_eq_ok_iff.1 hc').2
  cases ho : o.strategy with
  | none => exact .inl rfl
  | certificate c' => exact .inr ⟨c', rfl⟩
  | basic => simp [ho] at hs
  | token => simp [ho] at hs
  | renewable => simp [ho] at hs

theorem certificate_eq_none [Library] (hv : o.validate = .ok ()) (hn : o.strategy ≠ .none)
    (hc : ∀ c, o.strategy ≠ .certificate c) : o.certificate = none := by
  cases ho : o.certificate with
  | none => rfl
  | some c =>
    rcases strategy_of_valid hv ho with hs | ⟨c', hs⟩
    · exact absurd hs hn
    · exact absurd hs (hc c')

theorem exists_due_of_credential (hc : o.certificate = none) (c : Credential) :
    ∃ s, o.Due (some c) s := by
  obtain ⟨secret, expiresAt⟩ := c
  cases secret with
  | certificate x => exact ⟨_, .certificate x expiresAt⟩
  | token t => exact ⟨_, .bearer t expiresAt hc⟩
  | basic u p => exact ⟨_, .basic u p expiresAt hc⟩

theorem exists_due [Library] (hv : o.validate = .ok ()) (h : o.strategy.ResolvesTo credential) :
    ∃ s, o.Due credential s := by
  generalize hs : o.strategy = st at h
  cases h with
  -- only without a strategy does it matter what certificate goes with the options
  | none =>
    cases hc : o.certificate with
    | none => exact ⟨_, .nothing hs hc⟩
    | some c => exact ⟨_, .attached hs hc⟩
  | certificate c => exact ⟨_, .certificate c none⟩
  | basic u p =>
    exact exists_due_of_credential (certificate_eq_none hv (by simp [hs]) (by simp [hs])) _
  | token t =>
    exact exists_due_of_credential (certificate_eq_none hv (by simp [hs]) (by simp [hs])) _
  | renewable r c =>
    exact exists_due_of_credential (certificate_eq_none hv (by simp [hs]) (by simp [hs])) _

theorem exists_due_of_currentCredential [Library] (hv : o.validate = .ok ())
    (h : o.currentCredential answer = .ok credential) : ∃ s, o.Due credential s :=
  exists_due hv (resolvesTo_of_currentCredential h)

theorem Due.unique (h : o.Due credential s) (h' : o.Due credential s') : s = s' := by
  cases h with
  | nothing hs hc => cases h' with
    | nothing => rfl
    | attached hs' hc' => cases hc.symm.trans hc'
  | attached hs hc => cases h' with
    | nothing hs' hc' => cases hc'.symm.trans hc
    | attached hs' hc' =>
      cases hc.symm.trans hc'
      rfl
  | certificate => cases h'; rfl
  | bearer => cases h'; rfl
  | basic => cases h'; rfl

theorem Due.authenticate_eq {τ : Type} [CredentialTarget τ] (h : o.Due credential s) (t : τ) :
    o.authenticate credential t = s.applyTo t := by
  cases h with
  | nothing hs hc => simp only [authenticate, hc, Showing.applyTo]
  | attached hs hc => simp only [authenticate, hc, Showing.applyTo]
  | certificate c expiresAt => rfl
  | bearer t expiresAt hc => rfl
  | basic u p expiresAt hc => rfl

theorem Due.request_eq (h : o.Due credential s) : o.request credential = s.request :=
  (h.authenticate_eq Request.empty ▸ s.added_applyTo .empty).of_empty

/-- Authentication shows a credential in one way, whatever the options and the target. -/
theorem exists_authenticate_eq (o : Options) (credential : Option Credential) :
    ∃ s : Showing, ∀ (τ : Type) [CredentialTarget τ] (t : τ),
      o.authenticate credential t = s.applyTo t := by
  rcases credential with _ | ⟨secret, expiresAt⟩
  · cases hc : o.certificate with
    | none => exact ⟨.nothing, fun τ _ t => by simp only [authenticate, hc, Showing.applyTo]⟩
    | some c =>
      exact ⟨.certificate c, fun τ _ t => by simp only [authenticate, hc, Showing.applyTo]⟩
  · cases secret with
    | certificate c => exact ⟨.certificate c, fun _ _ _ => rfl⟩
    | token t => exact ⟨.header ("Bearer " ++ t), fun _ _ _ => rfl⟩
    | basic u p => exact ⟨.header ("Basic " ++ encodeBasic u p), fun _ _ _ => rfl⟩

theorem exists_added (o : Options) (credential : Option Credential) (r : Request) :
    ∃ s : Showing, s.Added r (o.authenticate credential r) := by
  obtain ⟨s, hs⟩ := o.exists_authenticate_eq credential
  exact ⟨s, hs Request r ▸ s.added_applyTo r⟩

theorem handshake_request (o : Options) (credential : Option Credential) :
    (o.handshake credential).request = o.request credential := by
  rw [handshake, authenticate_handshake]
  rfl

theorem map_attached_handshake (o : Options) (answer : Option Outcome) :
    (o.attached answer o.bareHandshake).map (·.request) = o.attached answer Request.empty := by
  rw [attached_eq, attached_eq]
  cases o.currentCredential answer with
  | error e => rfl
  | ok credential => exact congrArg Except.ok (o.handshake_request credential)

structure AuthenticatesAlike [Library] (o : Options) : Prop where
  alike : ∀ credential, (o.handshake credential).request = o.request credential
  fails : ∀ answer, (o.attached answer o.bareHandshake).map (·.request) =
    o.attached answer Request.empty
  shows : o.validate = .ok () → ∀ answer credential, o.currentCredential answer = .ok credential →
    ∃ s, o.Due credential s ∧ (∀ s', o.Due credential s' → s' = s) ∧
      o.request credential = s.request ∧
      ∀ (τ : Type) [CredentialTarget τ] (t : τ), o.authenticate credential t = s.applyTo t
  gives : ∀ credential, ∃ s : Showing, ∀ (τ : Type) [CredentialTarget τ] (t : τ),
    o.authenticate credential t = s.applyTo t
  adds : ∀ credential (r : Request), ∃ s : Showing, s.Added r (o.authenticate credential r)
  frame : ∀ credential (h : Handshake),
    o.authenticate credential h = { h with request := o.authenticate credential h.request }
  single : ∀ credential (r : Request),
    Headers.count "Authorization" (o.authenticate credential r).headers.entries ≤
      max 1 (Headers.count "Authorization" r.headers.entries)
  attaches : ∀ (τ : Type) [CredentialTarget τ] answer (t : τ),
    (∀ credential, o.currentCredential answer = .ok credential →
      o.attach answer t = (.ok (), o.authenticate credential t)) ∧
    (∀ e, o.currentCredential answer = .error e → o.attach answer t = (.error e, t))

/-- Options authenticate requests and handshakes alike, and valid ones in one way only. -/
theorem authenticatesAlike [Library] (o : Options) : o.AuthenticatesAlike where
  alike := o.handshake_request
  fails := o.map_attached_handshake
  shows hv answer credential h := by
    obtain ⟨s, hs⟩ := exists_due_of_currentCredential hv h
    exact ⟨s, hs, fun s' h' => h'.unique hs, hs.request_eq, fun τ _ t => hs.authenticate_eq t⟩
  gives := o.exists_authenticate_eq
  adds := o.exists_added
  frame := o.authenticate_handshake
  single credential r := by
    obtain ⟨s, hs⟩ := o.exists_added credential r
    exact hs.count_le
  attaches τ _ answer t :=
    ⟨fun credential h => by rw [attach, h], fun e h => by rw [attach, h]⟩

def ofToken (host token : String) : Options :=
  { ofEndpoint ⟨"https", some ⟨"", none, some (.name host), none⟩, "/", none, none⟩ with
    strategy := .token token }

theorem authenticatesAlike_token :
    (ofToken "localhost" "new").validate = .ok () ∧
      (ofToken "localhost" "new").AuthenticatesAlike :=
  ⟨rfl, authenticatesAlike _⟩

/-- The field of a request that has one already takes the new value where it stands. -/
example (after : List (String × String)) (certificates : List ClientCertificate) :
    (ofToken "localhost" "new").attach none
        (⟨⟨("Accept", "*") :: ("authorization", "Bearer old") :: after⟩, certificates⟩ : Request) =
      (.ok (), ⟨⟨("Accept", "*") :: ("authorization", "Bearer new") :: after⟩, certificates⟩) :=
  rfl

end Options

end ClusterAccess
