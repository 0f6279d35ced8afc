import ClusterAccess.Json.Printer
import ClusterAccess.Kubeconfig.Basic
import ClusterAccess.Text.Diagnostic

namespace ClusterAccess

open Text

def Json.ofOption : Option String → Json
  | some s => .string s
  | none => .null

/-- A member of an object that is left out when it is absent. -/
def Json.member (name : String) : Option String → List (String × Json)
  | some s => [(name, .string s)]
  | none => []

def Context.toJson (c : Context) : Json :=
  .object ([("cluster", .string c.cluster), ("user", .string c.user)] ++
    Json.member "namespace" c.namespaceName)

def Context.debug (c : Context) : String :=
  record "ContextConfig" [("cluster", quoted c.cluster), ("user", quoted c.user),
    ("namespace", optionalQuoted c.namespaceName)]

def Cluster.toJson (c : Cluster) : Json :=
  .object ([("server", .string c.server)] ++
    Json.member "certificate-authority-data" c.authorityData ++
    Json.member "certificate-authority" c.authorityFile ++
    [("insecure-skip-tls-verify", .bool c.insecure)])

def Cluster.debug (c : Cluster) : String :=
  record "ClusterConfig" [("server", quoted c.server),
    ("certificate_authority_data", optionalQuoted c.authorityData),
    ("certificate_authority", optionalQuoted c.authorityFile),
    ("insecure_skip_tls_verify", truth c.insecure)]

def AuthProvider.toJson? (p : AuthProvider) : Option Json := do
  let config ← p.config.mapM fun (name, v) => v.toJson?.map fun j => (name, j)
  pure (.object [("name", .string p.name), ("config", .object config)])

def EnvironmentVariable.toJson (v : EnvironmentVariable) : Json :=
  .object [("name", .string v.name), ("value", .string v.value)]

def EnvironmentVariable.debug (v : EnvironmentVariable) : String :=
  record "ExecEnvVar" [("name", quoted v.name), ("value", redacted)]

def ExecEntry.toJson (e : ExecEntry) : Json :=
  .object ([("apiVersion", Json.ofOption e.apiVersion), ("command", .string e.command),
    ("args", .array (e.args.map .string)), ("env", .array (e.env.map (·.toJson)))] ++
    Json.member "installHint" e.installHint ++ [("provideClusterInfo", .bool e.provideClusterInfo)])

def ExecEntry.debug (e : ExecEntry) : String :=
  record "ExecConfig" [("api_version", optionalQuoted e.apiVersion), ("command", quoted e.command),
    ("args", quotedList e.args), ("env", listing (e.env.map (·.debug))),
    ("install_hint", optionalQuoted e.installHint),
    ("provide_cluster_info", truth e.provideClusterInfo)]

def User.toJson? (u : User) : Option Json := do
  let provider ←
    match u.authProvider with
    | some p => p.toJson?.map fun j => [("auth-provider", j)]
    | none => some []
  let exec :=
    match u.exec with
    | some e => [("exec", e.toJson)]
    | none => []
  pure (.object (Json.member "client-certificate-data" u.certificateData ++
    Json.member "client-certificate" u.certificateFile ++
    Json.member "client-key-data" u.keyData ++ Json.member "client-key" u.keyFile ++
    Json.member "token" u.token ++ Json.member "tokenFile" u.tokenFile ++
    Json.member "username" u.username ++ Json.member "password" u.password ++ provider ++ exec))

def optionalSecret (s : Option String) : String := optional (s.map fun _ => redacted)

def User.debug (u : User) : String :=
  record "UserConfig" [("client_certificate_data", optionalSecret u.certificateData),
    ("client_certificate", optionalQuoted u.certificateFile),
    ("client_key_data", optionalSecret u.keyData), ("client_key", optionalQuoted u.keyFile),
    ("token", optionalSecret u.token), ("token_file", optionalQuoted u.tokenFile),
    ("username", optionalQuoted u.username), ("password", optionalSecret u.password),
    ("auth_provider", optional (u.authProvider.map fun p => quoted p.name)),
    ("exec", optional (u.exec.map (·.debug)))]

def Named.toJson {α : Type} (label : String) (f : α → Json) (n : Named α) : Json :=
  .object [("name", .string n.name), (label, f n.body)]

def Named.debug {α : Type} (kind label : String) (f : α → String) (n : Named α) : String :=
  record kind [("name", quoted n.name), (label, f n.body)]

namespace Kubeconfig

def toJson? (k : Kubeconfig) : Option Json := do
  let users ← k.users.mapM fun n => n.body.toJson?.map fun j =>
    Json.object [("name", .string n.name), ("user", j)]
  pure (.object [("apiVersion", Json.ofOption k.apiVersion), ("kind", Json.ofOption k.kind),
    ("current-context", Json.ofOption k.currentContext),
    ("contexts", .array (k.contexts.map (Named.toJson "context" Context.toJson))),
    ("clusters", .array (k.clusters.map (Named.toJson "cluster" Cluster.toJson))),
    ("users", .array users)])

def debug (k : Kubeconfig) : String :=
  record "KubeConfig" [("api_version", optionalQuoted k.apiVersion), ("kind", optionalQuoted k.kind),
    ("current_context", optionalQuoted k.currentContext),
    ("contexts", listing (k.contexts.map (Named.debug "NamedContext" "context" Context.debug))),
    ("clusters", listing (k.clusters.map (Named.debug "NamedCluster" "cluster" Cluster.debug))),
    ("users", listing (k.users.map (Named.debug "NamedUser" "user" User.debug))),
    ("source_dir", optionalQuoted k.directory)]

end Kubeconfig

end ClusterAccess
