import ClusterAccess.Command
import ClusterAccess.Credential
import ClusterAccess.Json.Printer

namespace ClusterAccess

open Time

variable [Library]

structure ClusterInfo where
  server : String
  authorityData : Option String
  insecure : Bool
  deriving DecidableEq, Repr

structure Plugin where
  apiVersion : String
  command : String
  args : List String
  env : TextTable
  installHint : Option String
  cluster : Option ClusterInfo
  deriving DecidableEq, Repr

namespace ClusterInfo

def toJson (c : ClusterInfo) : Json :=
  .object ([("server", .string c.server)] ++
    (c.authorityData.toList.map fun d => ("certificate-authority-data", .string d)) ++
    if c.insecure then [("insecure-skip-tls-verify", .bool true)] else [])

def debug (c : ClusterInfo) : String :=
  Text.record "ExecClusterInfo"
    [("server", Text.quoted c.server),
      ("certificate_authority_data", Text.optionalQuoted c.authorityData),
      ("insecure_skip_tls_verify", Text.truth c.insecure)]

end ClusterInfo

namespace Plugin

def infoVariable : String := "KUBERNETES_EXEC_INFO"

def documentKind : String := "ExecCredential"

def versions : List String :=
  ["client.authentication.k8s.io/v1", "client.authentication.k8s.io/v1beta1",
    "client.authentication.k8s.io/v1alpha1"]

def describe (p : Plugin) : String := p.command

def validate (p : Plugin) : Except Error Unit :=
  if Text.isBlankText p.command then .error (.badAuthentication "exec plugin has no command")
  else if !versions.contains p.apiVersion then
    .error (.badAuthentication ("exec plugin apiVersion '" ++ p.apiVersion ++
      "' is not supported (expected one of " ++ ", ".intercalate versions ++ ")"))
  else .ok ()

def info (p : Plugin) : Json :=
  .object [("apiVersion", .string p.apiVersion), ("kind", .string documentKind),
    ("spec", .object (("interactive", .bool false) ::
      p.cluster.toList.map fun c => ("cluster", c.toJson)))]

def infoText (p : Plugin) : String := p.info.compact

def invocation (p : Plugin) : Invocation :=
  ⟨p.command, p.args, p.env.insert infoVariable p.infoText⟩

structure Status where
  token : Option String
  certificateData : Option String
  keyData : Option String
  expiry : Option String
  deriving DecidableEq, Repr

structure Response where
  apiVersion : Option String
  kind : Option String
  status : Option Status
  deriving DecidableEq, Repr

open Json in
def Status.ofDocument? (d : Document) : Option Status := do
  let fs ← d.fields? ["token", "clientCertificateData", "clientKeyData", "expirationTimestamp"]
  return {
    token := ← fs.get? "token" none Document.optionalText?
    certificateData := ← fs.get? "clientCertificateData" none Document.optionalText?
    keyData := ← fs.get? "clientKeyData" none Document.optionalText?
    expiry := ← fs.get? "expirationTimestamp" none Document.optionalText? }

open Json in
def optionalOf {α : Type} (read : Document → Option α) : Document → Option (Option α)
  | .null => some none
  | d => (read d).map some

open Json in
def Response.ofDocument? (d : Document) : Option Response := do
  let fs ← d.fields? ["apiVersion", "kind", "status"]
  return {
    apiVersion := ← fs.get? "apiVersion" none Document.optionalText?
    kind := ← fs.get? "kind" none Document.optionalText?
    status := ← fs.get? "status" none (optionalOf Status.ofDocument?) }

def Response.parse? (text : String) : Option Response :=
  (Json.Document.parse? text).bind Response.ofDocument?

def fault {α : Type} (detail : String) : Except Error α := .error (.badCommandOutput detail)

def status (p : Plugin) (r : Response) : Except Error Status :=
  if r.kind != some documentKind then
    fault ("expected kind '" ++ documentKind ++ "', got '" ++ r.kind.getD "" ++ "'")
  else if r.apiVersion != some p.apiVersion then
    fault ("plugin returned apiVersion '" ++ r.apiVersion.getD "" ++ "' but '" ++ p.apiVersion ++
      "' was requested")
  else
    match r.status with
    | some s => .ok s
    | none => fault "missing required field 'status'"

def Status.expiresAt (s : Status) : Except Error (Option Instant) :=
  match s.expiry with
  | none => .ok none
  | some raw =>
    match parseTimestamp raw with
    | some t => .ok (some t)
    | none =>
      fault ("status.expirationTimestamp '" ++ raw ++ "' is not an RFC3339 timestamp")

/-- The credential in a status: the certificate, if there is one, before the token. -/
def Status.credential (s : Status) : Except Error Credential := do
  let expiresAt ← s.expiresAt
  match Text.nonBlank? s.certificateData, Text.nonBlank? s.keyData with
  | some certificate, some key =>
    match ClientCertificate.ofPem certificate key with
    | .ok c => return .certificate c expiresAt
    | .error e => fault e.message
  | none, none =>
    match Text.nonBlank? s.token with
    | some token => return .bearer token expiresAt
    | none => fault "missing required field 'status.token'"
  | _, _ => fault "status.clientCertificateData and status.clientKeyData must be set together"

def parseOutput (p : Plugin) (stdout : String) : Except Error Credential :=
  match Response.parse? (Text.trim stdout) with
  | none => fault ("output of '" ++ p.command ++ "' is not a valid ExecCredential: malformed JSON")
  | some r => do (← p.status r).credential

def debug (p : Plugin) : String :=
  Text.record "ExecPlugin"
    [("api_version", Text.quoted p.apiVersion), ("command", Text.quoted p.command),
      ("args", Text.quotedList p.args), ("env", Text.quotedList (p.env.map (·.1))),
      ("install_hint", Text.optionalQuoted p.installHint),
      ("cluster", Text.optional (p.cluster.map ClusterInfo.debug))]

end Plugin

end ClusterAccess
