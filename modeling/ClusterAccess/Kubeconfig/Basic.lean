import ClusterAccess.Text.Blank
import ClusterAccess.Yaml.Value

namespace ClusterAccess

structure Named (α : Type) where
  name : String
  body : α

def Named.find? {α : Type} (items : List (Named α)) (name : String) : Option α :=
  (items.find? (·.name == name)).map (·.body)

structure Context where
  cluster : String
  user : String
  namespaceName : Option String
  deriving DecidableEq, Repr

structure Cluster where
  server : String
  authorityData : Option String
  authorityFile : Option String
  insecure : Bool
  deriving DecidableEq, Repr

structure AuthProvider where
  name : String
  config : List (String × Yaml.Value)

structure EnvironmentVariable where
  name : String
  value : String
  deriving DecidableEq, Repr

structure ExecEntry where
  apiVersion : Option String
  command : String
  args : List String
  env : List EnvironmentVariable
  installHint : Option String
  provideClusterInfo : Bool
  deriving DecidableEq, Repr

structure User where
  certificateData : Option String
  certificateFile : Option String
  keyData : Option String
  keyFile : Option String
  token : Option String
  tokenFile : Option String
  username : Option String
  password : Option String
  authProvider : Option AuthProvider
  exec : Option ExecEntry

/-- A kubeconfig document. Its relative paths are taken from `directory`, where it was read. -/
structure Kubeconfig where
  apiVersion : Option String
  kind : Option String
  currentContext : Option String
  contexts : List (Named Context)
  clusters : List (Named Cluster)
  users : List (Named User)
  directory : Option String

def User.anonymous : User := ⟨none, none, none, none, none, none, none, none, none, none⟩

def User.hasCertificate (u : User) : Bool :=
  Text.isSet u.certificateData || Text.isSet u.certificateFile

def User.hasKey (u : User) : Bool := Text.isSet u.keyData || Text.isSet u.keyFile

/-- The text of a setting, if it is a text, a truth value or a number, and not blank. -/
def AuthProvider.value? (p : AuthProvider) (key : String) : Option String :=
  match p.config.lookup key with
  | some (.string s) => Text.nonBlank? (some s)
  | some (.bool b) => some (if b then "true" else "false")
  | some (.number n) => some n.text
  | _ => none

namespace Kubeconfig

def empty : Kubeconfig := ⟨none, none, none, [], [], [], none⟩

def context? (k : Kubeconfig) (name : String) : Option Context := Named.find? k.contexts name

def cluster? (k : Kubeconfig) (name : String) : Option Cluster := Named.find? k.clusters name

def user? (k : Kubeconfig) (name : String) : Option User := Named.find? k.users name

def contextNames (k : Kubeconfig) : List String := k.contexts.map (·.name)

end Kubeconfig

end ClusterAccess
