import ClusterAccess.Strategy
import ClusterAccess.Trust
import ClusterAccess.Url.Parse

namespace ClusterAccess

variable [Library]

structure Options where
  endpoint : Url
  namespaceName : String
  authority : Option Certificate
  allowInsecure : Bool
  strategy : Strategy
  certificate : Option ClientCertificate
  logHeaders : Bool
  credentialWait : Nat
  deriving DecidableEq, Repr

def Time.debugMillis (n : Nat) : String :=
  let frac := fun (digits : List Char) =>
    match (digits.reverse.dropWhile (· == '0')).reverse with
    | [] => ""
    | ds => "." ++ String.ofList ds
  if 1000 ≤ n then Text.decimal (n / 1000) ++ frac (Text.paddedDigits 3 (n % 1000)) ++ "s"
  else if n == 0 then "0ns"
  else Text.decimal n ++ "ms"

namespace Options

def ofEndpoint (endpoint : Url) : Options :=
  ⟨endpoint, "default", none, false, .none, none, false, 60000⟩

def withCertificate (o : Options) (c : ClientCertificate) : Options :=
  { o with strategy := .certificate c, certificate := some c }

def validateEndpoint (u : Url) : Except Error Unit :=
  if u.scheme != "https" && u.scheme != "http" then
    .error (.badEndpoint u.text ("unsupported scheme '" ++ u.scheme ++ "'"))
  else if u.host?.all (·.text.isEmpty) then .error (.badEndpoint u.text "missing host")
  else .ok ()

/-- Checks the attached certificate: it is valid, and no other authentication goes with it. -/
def validateCertificate (o : Options) : Except Error Unit :=
  match o.certificate with
  | none => .ok ()
  | some c => do
    c.validate
    match o.strategy with
    | .certificate _ | .none => .ok ()
    | s => .error (.badAuthentication
        ("a client certificate cannot be combined with " ++ s.kind ++ " authentication"))

def validate (o : Options) : Except Error Unit := do
  validateEndpoint o.endpoint
  if Text.isBlankText o.namespaceName then .error (.badOptions "namespace must not be empty")
  if o.credentialWait == 0 then
    .error (.badOptions "credential wait must be greater than zero")
  o.validateCertificate
  o.strategy.validate

def trustPolicy (o : Options) : TrustPolicy := .ofOptions o.authority o.allowInsecure

def debug (o : Options) : String :=
  Text.record "ConnectionOptions"
    [("endpoint", Text.quoted o.endpoint.text), ("namespace", Text.quoted o.namespaceName),
      ("ca_certificate", Text.optionalQuoted (o.authority.map Certificate.subjectText)),
      ("allow_insecure", Text.truth o.allowInsecure), ("auth_strategy", o.strategy.debug),
      ("client_certificate", Text.optional (o.certificate.map ClientCertificate.debug)),
      ("log_headers", Text.truth o.logHeaders),
      ("credential_wait", Time.debugMillis o.credentialWait)]

end Options

end ClusterAccess
