import ClusterAccess.ClientCertificate
import ClusterAccess.Headers
import ClusterAccess.Time.Timestamp

namespace ClusterAccess

open Time

inductive Secret where
  | token (token : String)
  | basic (username password : String)
  | certificate (certificate : ClientCertificate)
  deriving DecidableEq, Repr

structure Credential where
  secret : Secret
  expiresAt : Option Instant
  deriving DecidableEq, Repr

def authorizationHeader : String := "Authorization"

def encodeBasic (username password : String) : String :=
  Base64.encodeText (Text.utf8 (username ++ ":" ++ password))

def Secret.kind : Secret → String
  | token _ => "bearer-token"
  | basic .. => "basic"
  | certificate _ => "client-certificate"

namespace Credential

def bearer (token : String) (expiresAt : Option Instant) : Credential := ⟨.token token, expiresAt⟩

def basic (username password : String) : Credential := ⟨.basic username password, none⟩

def certificate (c : ClientCertificate) (expiresAt : Option Instant) : Credential :=
  ⟨.certificate c, expiresAt⟩

def token? (c : Credential) : Option String :=
  match c.secret with
  | .token t => some t
  | _ => none

/-- An expiry that the margin moves out of the range of time counts as passed. -/
def needsRefresh (c : Credential) (now : Instant) (margin : Span) : Bool :=
  match c.expiresAt with
  | none => false
  | some t =>
    match t.sub? margin with
    | some deadline => !now.before deadline
    | none => true

def authorization? (c : Credential) : Option String :=
  match c.secret with
  | .token t => some ("Bearer " ++ t)
  | .basic username password => some ("Basic " ++ encodeBasic username password)
  | .certificate _ => none

def debugInstant (t : Option Instant) : String := Text.optional (t.map Instant.timestampZ)

def debug (c : Credential) : String :=
  Text.partialRecord "Credential"
    [("kind", Text.quoted c.secret.kind), ("expires_at", debugInstant c.expiresAt)]

end Credential

end ClusterAccess
