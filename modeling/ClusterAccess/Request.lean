import ClusterAccess.Credential

namespace ClusterAccess

/-- What header fields can be set in and client certificates can be added to. -/
class CredentialTarget (τ : Type) where
  setHeader : τ → String → String → τ
  addCertificate : τ → ClientCertificate → τ

/-- A certificate is attached as it is, anything else as the value of a header field. -/
def Credential.applyTo {τ : Type} [CredentialTarget τ] (c : Credential) (t : τ) : τ :=
  match c.secret, c.authorization? with
  | .certificate certificate, _ => CredentialTarget.addCertificate t certificate
  | _, some value => CredentialTarget.setHeader t authorizationHeader value
  | _, none => t

/-- The parts of a request that authentication touches. -/
structure Request where
  headers : Headers
  certificates : List ClientCertificate
  deriving DecidableEq, Repr

namespace Request

def empty : Request := ⟨.empty, []⟩

def setHeader (r : Request) (name value : String) : Request :=
  { r with headers := r.headers.set name value }

def addCertificate (r : Request) (c : ClientCertificate) : Request :=
  { r with certificates := r.certificates ++ [c] }

instance : CredentialTarget Request := ⟨setHeader, addCertificate⟩

def present (r : Request) (c : Credential) : Request := c.applyTo r

def debug (r : Request) : String :=
  Text.record "HttpRequestContext"
    [("headers", r.headers.debug),
      ("client_certificates", Text.listing (r.certificates.map ClientCertificate.debug))]

end Request

end ClusterAccess
