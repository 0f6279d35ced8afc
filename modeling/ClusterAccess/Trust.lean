import ClusterAccess.Certificate.Chain
import ClusterAccess.Error
import ClusterAccess.Text.Diagnostic

namespace ClusterAccess

open Time

/-- What the checks of a connection found out about the server's chain. -/
inductive ChainStatus where
  | trusted
  | unknownRoot
  | failed (reason : String)
  deriving DecidableEq, Repr

/-- What a server's chain has to lead to. -/
inductive TrustPolicy where
  | platformRoots
  | authority (ca : Certificate)
  | insecure
  deriving DecidableEq, Repr

namespace ChainStatus

/-- The wording of the results of a chain check by their numbers; other numbers have none. -/
def resultTexts : List (Nat × String) :=
  [(0, "ok"), (1, "unspecified certificate verification error"),
    (2, "unable to get issuer certificate"), (3, "unable to get certificate CRL"),
    (4, "unable to decrypt certificate's signature"), (5, "unable to decrypt CRL's signature"),
    (6, "unable to decode issuer public key"), (7, "certificate signature failure"),
    (8, "CRL signature failure"),
    (9, "certificate is not yet valid or the system clock is incorrect"),
    (10, "certificate has expired"), (11, "CRL is not yet valid"), (12, "CRL has expired"),
    (13, "format error in certificate's notBefore field"),
    (14, "format error in certificate's notAfter field"),
    (15, "format error in CRL's lastUpdate field"), (16, "format error in CRL's nextUpdate field"),
    (17, "out of memory"), (18, "self-signed certificate"),
    (19, "self-signed certificate in certificate chain"),
    (20, "unable to get local issuer certificate"),
    (21, "unable to verify the first certificate"), (22, "certificate chain too long"),
    (23, "certificate revoked"), (24, "issuer certificate doesn't have a public key"),
    (25, "path length constraint exceeded"), (26, "unsuitable certificate purpose"),
    (27, "certificate not trusted"), (28, "certificate rejected"), (29, "subject issuer mismatch"),
    (30, "authority and subject key identifier mismatch"),
    (31, "authority and issuer serial number mismatch"),
    (32, "key usage does not include certificate signing"),
    (33, "unable to get CRL issuer certificate"), (34, "unhandled critical extension"),
    (35, "key usage does not include CRL signing"), (36, "unhandled critical CRL extension"),
    (37, "invalid non-CA certificate (has CA markings)"),
    (38, "proxy path length constraint exceeded"),
    (39, "key usage does not include digital signature"),
    (40, "proxy certificates not allowed, please set the appropriate flag"),
    (41, "invalid or inconsistent certificate extension"),
    (42, "invalid or inconsistent certificate policy extension"), (43, "no explicit policy"),
    (44, "different CRL scope"), (45, "unsupported extension feature"),
    (46, "RFC 3779 resource not subset of parent's resources"), (47, "permitted subtree violation"),
    (48, "excluded subtree violation"),
    (49, "name constraints minimum and maximum not supported"),
    (50, "application verification failure"), (51, "unsupported name constraint type"),
    (52, "unsupported or invalid name constraint syntax"),
    (53, "unsupported or invalid name syntax"), (54, "CRL path validation error"),
    (55, "path loop"), (56, "Suite B: certificate version invalid"),
    (57, "Suite B: invalid public key algorithm"), (58, "Suite B: invalid ECC curve"),
    (59, "Suite B: invalid signature algorithm"), (60, "Suite B: curve not allowed for this LOS"),
    (61, "Suite B: cannot sign P-384 with P-256"), (62, "hostname mismatch"),
    (63, "email address mismatch"), (64, "IP address mismatch"),
    (65, "no matching DANE TLSA records"), (66, "EE certificate key too weak"),
    (67, "CA certificate key too weak"), (68, "CA signature digest algorithm too weak"),
    (69, "invalid certificate verification context"), (70, "issuer certificate lookup error"),
    (71, "Certificate Transparency required, but no valid SCTs found"),
    (72, "proxy subject name violation"), (73, "OCSP verification needed"),
    (74, "OCSP verification failed"), (75, "OCSP unknown cert"),
    (76, "Cannot find certificate signature algorithm"),
    (77, "subject signature algorithm and issuer public key algorithm mismatch"),
    (78, "cert info signature and signature algorithm mismatch"), (79, "invalid CA certificate"),
    (80, "Path length invalid for non-CA cert"),
    (81, "Path length given without key usage keyCertSign"),
    (82, "Key usage keyCertSign invalid for non-CA cert"), (83, "Issuer name empty"),
    (84, "Subject name empty"), (85, "Missing Authority Key Identifier"),
    (86, "Missing Subject Key Identifier"), (87, "Empty Subject Alternative Name extension"),
    (88, "Subject empty and Subject Alt Name extension not critical"),
    (89, "Basic Constraints of CA cert not marked critical"),
    (90, "Authority Key Identifier marked critical"),
    (91, "Subject Key Identifier marked critical"),
    (92, "CA cert does not include key usage extension"),
    (93, "Using cert extension requires at least X509v3"),
    (94, "Certificate public key has explicit ECC parameters")]

def resultText (code : Int) : String :=
  match code with
  | .ofNat n => (resultTexts.lookup n).getD "unknown certificate verification error"
  | .negSucc _ => "unknown certificate verification error"

def rootless : List Int := [2, 18, 19, 20]

def ofResult (code : Int) : ChainStatus :=
  if code == 0 then trusted
  else if rootless.contains code then unknownRoot
  else failed (resultText code)

end ChainStatus

/-- A check that a presented chain, the server's certificate first, leads to an authority. -/
abbrev ChainCheck := Certificate → List Certificate → Except Error Unit

def checkChain [Library] (now : Instant) : ChainCheck := fun ca chain =>
  match chain with
  | [] => .error (.untrustedServer "the server presented no certificates")
  | server :: others => (Chain.verify now ca server others).mapError fun f =>
      .untrustedServer ("the chain does not lead to the configured CA: " ++
        ChainStatus.resultText f.code)

namespace TrustPolicy

def ofOptions (ca : Option Certificate) (allowInsecure : Bool) : TrustPolicy :=
  match ca, allowInsecure with
  | some ca, _ => authority ca
  | none, true => insecure
  | none, false => platformRoots

def name : TrustPolicy → String
  | platformRoots => "platform-roots"
  | authority _ => "custom-ca"
  | insecure => "insecure"

/-- Only an unknown root is checked further, and any other fault is final. -/
def validateBy {m : Type → Type} [Monad m] (p : TrustPolicy) (status : ChainStatus)
    (chain : List Certificate) (check : Certificate → List Certificate → m (Except Error Unit)) :
    m (Except Error Unit) :=
  match p, status with
  | insecure, _ => pure (.ok ())
  | _, .trusted => pure (.ok ())
  | _, .failed reason => pure (.error (.untrustedServer reason))
  | platformRoots, .unknownRoot =>
    pure (.error (.untrustedServer "the server certificate is not trusted"))
  | authority ca, .unknownRoot => check ca chain

def validate (p : TrustPolicy) (status : ChainStatus) (chain : List Certificate)
    (check : ChainCheck) : Except Error Unit :=
  Id.run (p.validateBy status chain fun ca chain => pure (check ca chain))

@[simp]
theorem validate_insecure {status : ChainStatus} {chain : List Certificate} {check : ChainCheck} :
    insecure.validate status chain check = .ok () := rfl

@[simp]
theorem validate_trusted {p : TrustPolicy} {chain : List Certificate} {check : ChainCheck} :
    p.validate .trusted chain check = .ok () := by
  cases p <;> rfl

@[simp]
theorem validate_authority_failed {ca : Certificate} {reason : String} {chain : List Certificate}
    {check : ChainCheck} : (authority ca).validate (.failed reason) chain check =
      .error (.untrustedServer reason) := rfl

@[simp]
theorem validate_authority_unknownRoot {ca : Certificate} {chain : List Certificate}
    {check : ChainCheck} : (authority ca).validate .unknownRoot chain check = check ca chain := rfl

@[simp]
theorem validate_platformRoots_failed {reason : String} {chain : List Certificate}
    {check : ChainCheck} : platformRoots.validate (.failed reason) chain check =
      .error (.untrustedServer reason) := rfl

@[simp]
theorem validate_platformRoots_unknownRoot {chain : List Certificate} {check : ChainCheck} :
    platformRoots.validate .unknownRoot chain check =
      .error (.untrustedServer "the server certificate is not trusted") := rfl

def consults (p : TrustPolicy) (status : ChainStatus) : Bool :=
  match p, status with
  | authority _, .unknownRoot => true
  | _, _ => false

def debug : TrustPolicy → String
  | platformRoots => "PlatformRoots"
  | authority ca => Text.call "CustomCa" [Text.quoted ca.subjectText]
  | insecure => "Insecure"

end TrustPolicy

structure ServerValidator where
  policy : TrustPolicy
  check : ChainCheck

namespace ServerValidator

def validate (v : ServerValidator) (status : ChainStatus) (chain : List Certificate) :
    Except Error Unit :=
  v.policy.validate status chain v.check

def accepts (v : ServerValidator) (status : ChainStatus) (chain : List Certificate) : Bool :=
  (v.validate status chain).isOk

theorem accepts_iff {v : ServerValidator} {status : ChainStatus} {chain : List Certificate} :
    v.accepts status chain = true ↔ v.validate status chain = .ok () := by
  rw [accepts]
  cases v.validate status chain <;> simp [Except.isOk, Except.toBool]

end ServerValidator

end ClusterAccess
