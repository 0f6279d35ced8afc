import ClusterAccess.Kubeconfig.Basic
import ClusterAccess.Options
import ClusterAccess.Settings

namespace ClusterAccess

variable [Library]

/-- A cluster's authority: its certificate, and the base64 text that plugins are given. -/
structure ClusterAuthority where
  certificate : Certificate
  data : String
  deriving DecidableEq, Repr

namespace Resolver

def trimmed? (s : Option String) : Option String := (Text.nonBlank? s).map Text.trim

def endpoint (server : String) : Except Error Url :=
  let server := Text.trim server
  if server.isEmpty then .error (.badEndpoint "" "the cluster has no server configured")
  else (Url.parse server).mapError fun e => .badEndpoint server e.message

def resolvePath (h : Host) (directory : Option String) (path : String) : String :=
  Path.resolve h.home directory path

/-- The authority of a cluster: the one in the document before the one in a file. -/
def authority (h : Host) (directory : Option String) (c : Cluster) :
    Except Error (Option ClusterAuthority) :=
  match Text.nonBlank? c.authorityData, Text.nonBlank? c.authorityFile with
  | some data, _ =>
    (Certificate.load h (.inline data)).map fun ca => some ⟨ca, Text.withoutBlanks data⟩
  | none, some path =>
    (Certificate.load h (.file (resolvePath h directory path))).map fun ca =>
      some ⟨ca, Base64.encodeText ca.toPem⟩
  | none, none => .ok none

def clusterInfo (c : Cluster) (authority : Option ClusterAuthority) : ClusterInfo :=
  ⟨Text.trim c.server, authority.map (·.data), c.insecure⟩

def plugin (e : ExecEntry) (c : Cluster) (authority : Option ClusterAuthority) : Plugin where
  apiVersion := e.apiVersion.getD ""
  command := e.command
  args := e.args
  env := .ofList (e.env.map fun v => (v.name, v.value))
  installHint := e.installHint
  cluster := if e.provideClusterInfo then some (clusterInfo c authority) else none

/-- The ways to authenticate that a user entry may offer, in the order in which they are taken. -/
inductive Offer where
  | certificate (certificate : Material) (key : Option Material)
  | keyOnly
  | token (token : String)
  | tokenFile (path : String)
  | password (username password : String)
  | provider (p : AuthProvider)
  | exec (e : ExecEntry)
  | nothing

def material? (path : String → String) (data file : Option String) : Option Material :=
  match Text.nonBlank? data, Text.nonBlank? file with
  | some d, _ => some (.inline d)
  | none, some f => some (.file (path f))
  | none, none => none

def offer (path : String → String) (u : User) : Offer :=
  match material? path u.certificateData u.certificateFile,
    material? path u.keyData u.keyFile with
  | some certificate, key => .certificate certificate key
  | none, some _ => .keyOnly
  | none, none =>
    match Text.nonBlank? u.token, Text.nonBlank? u.tokenFile with
    | some t, _ => .token (Text.trim t)
    | none, some f => .tokenFile (path f)
    | none, none =>
      match Text.nonBlank? u.username, Text.nonBlank? u.password with
      | some name, some password => .password name password
      | _, _ =>
        match u.authProvider, u.exec with
        | some p, _ => .provider p
        | none, some e => .exec e
        | none, none => .nothing

def renewable (s : Settings) (source : CredentialSource) (cached : Option Credential) :
    Except Error Strategy :=
  s.margin.map fun margin => .renewable ⟨source, cached, margin⟩

def Offer.strategy (h : Host) (s : Settings) (c : Cluster) (authority : Option ClusterAuthority) :
    Offer → Except Error Strategy
  | .certificate m key => (ClientCertificate.load h m key).map .certificate
  | .keyOnly =>
    .error (.badAuthentication "a client key is configured without a client certificate")
  | .token t => .ok (.token t)
  | .tokenFile path =>
    match h.readText path with
    | .ok t => .ok (.token (Text.trim t))
    | .error e => .error (.badAuthentication
        ("cannot read token file " ++ path ++ ": " ++ e.message))
  | .password name word => .ok (.basic name word)
  | .provider p => do
    let provider ← Provider.ofConfig p
    renewable s (.provider provider) provider.initialCredential
  | .exec e => renewable s (.plugin (plugin e c authority)) none
  | .nothing => .ok .none

def strategy (h : Host) (s : Settings) (directory : Option String) (c : Cluster)
    (authority : Option ClusterAuthority) (u : User) : Except Error Strategy :=
  (offer (resolvePath h directory) u).strategy h s c authority

structure Resolution where
  context : String
  cluster : String
  user : String
  options : Options

def strategyCertificate? : Strategy → Option ClientCertificate
  | .certificate c => some c
  | _ => none

def Resolution.entry (r : Resolution) : LogEntry :=
  .message ("Resolved context '" ++ r.context ++ "' (cluster '" ++ r.cluster ++ "', user '" ++
    r.user ++ "') to " ++ r.options.endpoint.text ++ " with " ++ r.options.strategy.kind ++
    " authentication")

def contextName (k : Kubeconfig) (asked : Option String) : Except Error String :=
  ((Text.nonBlank? asked).orElse fun _ => Text.nonBlank? k.currentContext).elim
    (.error .noContext) .ok

def select (k : Kubeconfig) (asked : Option String) :
    Except Error (String × Context × Cluster × User) := do
  let name ← contextName k asked
  let context ← ((k.context? name).elim (.error (.unknownContext name)) .ok)
  let cluster ← ((k.cluster? context.cluster).elim (.error (.unknownCluster context.cluster)) .ok)
  let user ← ((k.user? context.user).elim (.error (.unknownUser context.user)) .ok)
  return (name, context, cluster, user)

/-- The namespace to work in: the one that is asked for, or else that of the context. -/
def namespaceOf (s : Settings) (asked : Option String) (x : Context) : String :=
  ((trimmed? asked).orElse fun _ => trimmed? x.namespaceName).getD s.defaultNamespace

def options (s : Settings) (namespaceName : Option String) (x : Context) (c : Cluster)
    (endpoint : Url) (authority : Option ClusterAuthority) (strategy : Strategy) : Options where
  endpoint := endpoint
  namespaceName := namespaceOf s namespaceName x
  authority := authority.map (·.certificate)
  allowInsecure := c.insecure
  strategy := strategy
  certificate := strategyCertificate? strategy
  logHeaders := s.logHeaders
  credentialWait := s.credentialWait * 1000

def resolution (h : Host) (s : Settings) (k : Kubeconfig)
    (contextName namespaceName : Option String) :
    Except Error Resolution := do
  s.validate
  let (name, context, cluster, user) ← select k contextName
  let endpoint ← endpoint cluster.server
  let authority ← authority h k.directory cluster
  let strategy ← strategy h s k.directory cluster authority user
  return {
    context := name
    cluster := context.cluster
    user := context.user
    options := options s namespaceName context cluster endpoint authority strategy }

def resolve (h : Host) (s : Settings) (k : Kubeconfig) (contextName namespaceName : Option String) :
    List LogEntry × Except Error Options :=
  match resolution h s k contextName namespaceName with
  | .error e => ([], .error e)
  | .ok r => ([r.entry], r.options.validate.map fun _ => r.options)

end Resolver

end ClusterAccess
