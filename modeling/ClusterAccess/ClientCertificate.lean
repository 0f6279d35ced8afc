import ClusterAccess.Material
import ClusterAccess.Text.Diagnostic

namespace ClusterAccess

structure ClientCertificate where
  certificate : Certificate
  key : Option PrivateKey
  deriving DecidableEq, Repr

namespace ClientCertificate

def subject (c : ClientCertificate) : String := c.certificate.subjectText

def source (c : ClientCertificate) : String := "client certificate '" ++ c.subject ++ "'"

def debug (c : ClientCertificate) : String :=
  Text.record "ClientCertificate"
    [("subject", Text.quoted c.subject),
      ("private_key", Text.quoted (if c.key.isSome then "<redacted>" else "<missing>"))]

variable [Library]

def validate (c : ClientCertificate) : Except Error Unit :=
  match c.key with
  | none => .error (.badCertificate c.source
      "the private key for the client certificate is not available")
  | some key =>
    match c.certificate.publicKey? with
    | none => .error (.badCertificate c.source Certificate.malformed)
    | some owned =>
      if key.publicKey? == some owned then .ok ()
      else .error (.badCertificate c.source
        "the private key does not match the certificate's public key")

def load (h : Host) (certificate : Material) (key : Option Material) :
    Except Error ClientCertificate := do
  let certificate ← Certificate.load h certificate
  match key with
  | none => return ⟨certificate, none⟩
  | some m => return ⟨certificate, some (← PrivateKey.load h m)⟩

/-- Reads the texts of a certificate and of the key that has to belong to it. -/
def ofPem (certificate key : String) : Except Error ClientCertificate := do
  let certificate ← Certificate.parse (Text.utf8 certificate) "plugin client certificate"
  let key ← PrivateKey.parse (Text.utf8 key) "plugin client key"
  let c : ClientCertificate := ⟨certificate, some key⟩
  c.validate
  return c

def identity (c : ClientCertificate) : Except Error (List UInt8) := do
  c.validate
  return c.certificate.toPem ++ (c.key.map PrivateKey.toPem).getD []

end ClientCertificate

end ClusterAccess
