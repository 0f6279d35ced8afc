import ClusterAccess.Proofs.Library
import ClusterAccess.Proofs.Tokens

namespace ClusterAccess

section

variable [Library]

namespace ClientCertificate

/-- A certificate has its own key. -/
def IsPaired (x : ClientCertificate) : Prop :=
  ∃ k owned, x.key = some k ∧ x.certificate.publicKey? = some owned ∧ k.publicKey? = some owned

/-- The certificate and the key were read, from wherever. -/
structure IsRead (x : ClientCertificate) : Prop where
  certificate : ∃ bytes, Certificate.ofBytes? bytes = some x.certificate
  key : ∀ k, x.key = some k → ∃ bytes, PrivateKey.ofBytes? bytes = some k

variable {x : ClientCertificate} {certificate key : String} {bytes : List UInt8} {e : Error}

theorem isPair_iff : IsPair certificate key x ↔
    Certificate.ofBytes? (Text.utf8 certificate) = some x.certificate ∧
      (∃ k, x.key = some k ∧ PrivateKey.ofBytes? (Text.utf8 key) = some k) ∧ x.IsPaired := by
  constructor
  · intro h
    cases h with
    | intro hc hk howned hsame => exact ⟨hc, ⟨_, rfl, hk⟩, _, _, rfl, howned, hsame⟩
  · obtain ⟨c, _⟩ := x
    rintro ⟨hc, ⟨k, rfl, hk⟩, k', owned, hk', howned, hsame⟩
    obtain rfl := Option.some.inj hk'
    exact .intro hc hk howned hsame

theorem identity_eq_ok_iff : x.identity = .ok bytes ↔ x.validate = .ok () ∧
    x.certificate.toPem ++ (x.key.map PrivateKey.toPem).getD [] = bytes := by
  rw [identity, Except.bind_unit_eq_ok_iff]
  exact and_congr_right fun _ => ⟨Except.ok.inj, congrArg Except.ok⟩

theorem identity_eq_error_iff : x.identity = .error e ↔ x.validate = .error e := by
  rw [identity, Except.bind_eq_error_iff]
  constructor
  · rintro (hv | ⟨_, -, h⟩)
    · exact hv
    · cases h
  · exact .inl

theorem isPair_identity (hl : Library.ReadsBack) (hx : x.IsRead) (h : x.identity = .ok bytes) :
    ∃ text, Text.utf8 text = bytes ∧ IsPair text text x := by
  obtain ⟨hv, hbytes⟩ := identity_eq_ok_iff.1 h
  obtain ⟨k, owned, hkey, howned, hsame⟩ := validate_eq_ok_iff.1 hv
  obtain ⟨source, hsource⟩ := hx.certificate
  obtain ⟨der, hder⟩ := Certificate.exists_certificate_of_ofBytes? hsource
  obtain ⟨given, hgiven⟩ := hx.key k hkey
  rw [hkey, Option.map_some, Option.getD_some] at hbytes
  have hboth := x.certificate.armours_append k.toPem
  rw [hbytes] at hboth
  have hascii := hboth.ascii (by decide) (hl.ascii given k hgiven)
  obtain ⟨text, htext⟩ : ∃ text, Text.utf8 text = bytes := ⟨_, Text.utf8_ascii hascii⟩
  have hcertificate : Certificate.ofBytes? bytes = some x.certificate :=
    Certificate.reads.ofBytes?_eq_some (.armoured (Certificate.isForm_encode hder) hboth)
  have hback : PrivateKey.ofBytes? bytes = some k := by
    have hne : x.certificate.encode ≠ [] := List.cons_ne_nil _ _
    rw [PrivateKey.ofBytes?, Reader.ofBytes?, if_pos hboth.isArmoured]
    exact (hl.first _ _ _ hne hboth).trans (hl.inverse given k hgiven)
  refine ⟨text, htext, ?_⟩
  rw [isPair_iff, htext]
  exact ⟨hcertificate, ⟨k, hkey, hback⟩, k, owned, hkey, howned, hsame⟩

end ClientCertificate

namespace Options

variable {o : Options} {x : ClientCertificate}

theorem isPaired_of_certificate (hv : o.validate = .ok ()) (hx : o.certificate = some x) :
    x.IsPaired := by
  obtain ⟨-, -, -, hcertificate, -⟩ := validate_eq_ok_iff.1 hv
  rw [validateCertificate, hx] at hcertificate
  exact ClientCertificate.validate_eq_ok_iff.1 (Except.bind_unit_eq_ok_iff.1 hcertificate).1

theorem isPaired_of_strategy (hv : o.validate = .ok ()) (hx : o.strategy = .certificate x) :
    x.IsPaired := by
  obtain ⟨-, -, -, -, hstrategy⟩ := validate_eq_ok_iff.1 hv
  rw [hx] at hstrategy
  exact ClientCertificate.validate_eq_ok_iff.1 hstrategy

end Options

theorem Plugin.Accepts.isPaired {p : Plugin} {stdout : String} {c : Credential}
    {x : ClientCertificate} (h : p.Accepts stdout c) (hx : c.secret = .certificate x) :
    x.IsPaired := by
  cases h with
  | intro _ _ _ _ _ _ hs =>
    cases hs with
    | certificate _ _ hp =>
      cases hx
      exact (ClientCertificate.isPair_iff.1 hp).2.2
    | token => cases hx

/-- What a strategy holds was checked, as was what a plugin puts out; providers give tokens. -/
theorem Strategy.Made.isPaired_of_provides {st : Strategy} {c : Credential} {x : ClientCertificate}
    (hm : st.Made) (hv : st.validate = .ok ()) (hp : st.Provides c)
    (hx : c.secret = .certificate x) : x.IsPaired := by
  cases hm with
  | none =>
    obtain ⟨answer, -, h⟩ := hp
    cases h
  | basic username password =>
    obtain ⟨answer, -, h⟩ := hp
    cases h
    cases hx
  | token t =>
    obtain ⟨answer, -, h⟩ := hp
    cases h
    cases hx
  | certificate y =>
    obtain ⟨answer, -, h⟩ := hp
    cases h
    cases hx
    exact ClientCertificate.validate_eq_ok_iff.1 hv
  | provider hconfig margin =>
    rcases origin_of_provides hp with hi | hg
    · obtain ⟨token, -, rfl⟩ := Option.map_eq_some_iff.1 hi
      cases hx
    · obtain ⟨-, stdout, ha⟩ := Provider.gives_ok_iff.1 hg
      cases ha with
      | raw => cases hx
      | document => cases hx
  | plugin p margin =>
    rcases origin_of_provides hp with hi | hg
    · cases hi
    · obtain ⟨stdout, ha⟩ := Plugin.gives_ok_iff.1 hg
      exact ha.isPaired hx

/-- Client certificates go with their keys and are read back from what is written of them. -/
structure ClientIdentity : Prop where
  valid : ∀ x : ClientCertificate, x.validate = .ok () ↔ x.IsPaired
  texts : ∀ certificate key (x : ClientCertificate),
    ClientCertificate.ofPem certificate key = .ok x ↔
    Certificate.ofBytes? (Text.utf8 certificate) = some x.certificate ∧
      (∃ k, x.key = some k ∧ PrivateKey.ofBytes? (Text.utf8 key) = some k) ∧ x.IsPaired
  written : ∀ x : ClientCertificate, (∃ bytes, x.identity = .ok bytes) ↔ x.validate = .ok ()
  refused : ∀ (x : ClientCertificate) e, x.identity = .error e ↔ x.validate = .error e
  readBack : Library.ReadsBack → ∀ (x : ClientCertificate) bytes, x.IsRead →
    x.identity = .ok bytes →
      ∃ text, Text.decodeUtf8? bytes = some text ∧ ClientCertificate.ofPem text text = .ok x
  options : ∀ o : Options, o.validate = .ok () →
    (∀ x, o.certificate = some x → x.IsPaired) ∧ ∀ x, o.strategy = .certificate x → x.IsPaired
  plugins : ∀ (p : Plugin) stdout c x, p.parseOutput stdout = .ok c →
    c.secret = .certificate x → x.IsPaired
  connections : ∀ o c x, Obtained o → o.strategy.Provides c → c.secret = .certificate x → x.IsPaired

end

open Crypto.SecretNumbers (smallKey)

/-- A certificate for the key `smallKey`. -/
def keyedCertificate : List UInt8 :=
  [0x30, 0x36, 0x30, 0x2c, 0x02, 0x01, 0x01, 0x30, 0x03, 0x06, 0x01, 0x2a, 0x30, 0x00, 0x30, 0x04,
    0x17, 0x00, 0x17, 0x00, 0x30, 0x00, 0x30, 0x18, 0x30, 0x0b, 0x06, 0x09, 0x2a, 0x86, 0x48, 0x86,
    0xf7, 0x0d, 0x01, 0x01, 0x01, 0x03, 0x09, 0x00, 0x30, 0x06, 0x02, 0x01, 0x05, 0x02, 0x01, 0x03,
    0x30, 0x03, 0x06, 0x01, 0x2a, 0x03, 0x01, 0x00]

end ClusterAccess
