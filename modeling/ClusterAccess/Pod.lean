import ClusterAccess.Options

namespace ClusterAccess

variable [Library]

structure Pod where
  host : Option String
  port : Option String
  deriving DecidableEq, Repr

namespace Pod

def hostVariable : String := "KUBERNETES_SERVICE_HOST"

def portVariable : String := "KUBERNETES_SERVICE_PORT"

def accountDirectory : String := "/var/run/secrets/kubernetes.io/serviceaccount"

def given? (s : Option String) : Option String := (Text.nonBlank? s).map Text.trim

def isInCluster (p : Pod) : Bool := (given? p.host).isSome && (given? p.port).isSome

/-- The text of the endpoint of a host and a port; an address with colons is put in brackets. -/
def endpointText (host port : String) : String :=
  let host := if (Ipv6.parse? host.toList).isSome then "[" ++ host ++ "]" else host
  "https://" ++ host ++ ":" ++ port

def endpoint (p : Pod) : Except Error Url :=
  match given? p.host, given? p.port with
  | some host, some port =>
    let text := endpointText host port
    (Url.parse text).mapError fun e => .badEndpoint text e.message
  | _, _ =>
    .error (.noServiceAccount (hostVariable ++ " and " ++ portVariable ++ " must both be set"))

def file? (h : Host) (path : String) : Bool := (h.read path).isOk

def options (h : Host) (p : Pod) (directory : String) : Except Error Options := do
  let endpoint ← p.endpoint
  let tokenPath := Path.join directory "token"
  let token ← (h.readText tokenPath).mapError fun e =>
    .noServiceAccount ("cannot read " ++ tokenPath ++ ": " ++ e.message)
  let caPath := Path.join directory "ca.crt"
  if !file? h caPath then .error (.noServiceAccount (caPath ++ " does not exist"))
  let ca ← Certificate.load h (.file caPath)
  let chosen := given? (h.readText (Path.join directory "namespace")).toOption
  let o := { Options.ofEndpoint endpoint with
    namespaceName := chosen.getD "default"
    authority := some ca
    strategy := .token (Text.trim token) }
  o.validate
  return o

end Pod

end ClusterAccess
