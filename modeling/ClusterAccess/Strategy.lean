import ClusterAccess.Cache
import ClusterAccess.CredentialSource
import ClusterAccess.Request

namespace ClusterAccess

open Time

variable [Library]

/-- Credentials that are renewed a margin before their expiry. -/
structure Renewable where
  source : CredentialSource
  cached : Option Credential
  margin : Span
  deriving DecidableEq, Repr

inductive Strategy where
  | none
  | basic (username password : String)
  | token (token : String)
  | certificate (c : ClientCertificate)
  | renewable (r : Renewable)
  deriving DecidableEq, Repr

def Time.Span.debug (s : Span) : String :=
  Text.record "TimeDelta" [("secs", Text.decimalInt (s.nanos / 1000000000)),
    ("nanos", Text.decimalInt (s.nanos % 1000000000))]

def Renewable.debug (r : Renewable) : String :=
  Text.record "RefreshableCredential"
    [("command", r.source.debug), ("cached", Text.optional (r.cached.map Credential.debug)),
      ("refresh_margin", r.margin.debug)]

namespace Strategy

def kind : Strategy → String
  | none => "none"
  | basic .. => "basic"
  | token _ => "bearer-token"
  | certificate _ => "client-certificate"
  | renewable r => r.source.kind

def sourceName : Strategy → String
  | renewable r => r.source.describe
  | s => s.kind

def validate : Strategy → Except Error Unit
  | none => .ok ()
  | basic username password =>
    if username.isEmpty then
      .error (.badAuthentication "the username for basic authentication has not been configured")
    else if password.isEmpty then
      .error (.badAuthentication "the password for basic authentication has not been configured")
    else .ok ()
  | token t =>
    if Text.isBlankText t then
      .error (.badAuthentication "the bearer token has not been configured")
    else .ok ()
  | certificate c => c.validate
  | renewable r => r.source.validate

def fixedCredential? : Strategy → Option (Option Credential)
  | none => some Option.none
  | basic username password => some (some (.basic username password))
  | token t => some (some (.bearer t Option.none))
  | certificate c => some (some (.certificate c Option.none))
  | renewable _ => Option.none

/-- Errors are made failures to refresh; `answer` is what the cache answers. -/
def resolve (st : Strategy) (answer : Outcome) : Except Error (Option Credential) :=
  match st.fixedCredential? with
  | some c => .ok c
  | Option.none => (answer.map some).mapError Error.asRefreshFailure

def debug : Strategy → String
  | none => "None"
  | basic username _ =>
    Text.record "Basic" [("username", Text.quoted username), ("password", Text.redacted)]
  | token _ => Text.record "BearerToken" [("token", Text.redacted)]
  | certificate c => Text.call "ClientCertificate" [c.debug]
  | renewable r =>
    match r.source with
    | .provider _ => Text.call "TokenProvider" [r.debug]
    | .plugin _ => Text.call "CredentialPlugin" [r.debug]

end Strategy

end ClusterAccess
