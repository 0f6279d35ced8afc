import ClusterAccess.Error
import ClusterAccess.FileSystem
import ClusterAccess.Kubeconfig.Basic
import ClusterAccess.Yaml.Decode

namespace ClusterAccess

open Yaml Decoder

def AuthProvider.valueDepth : Nat := maxDepth - 2

def Kubeconfig.valueDepth : Nat := maxDepth - 6

def Context.ofNode (n : Node) : Decoder Context := do
  let fs ← fields ["cluster", "user", "namespace"] n
  return {
    cluster := ← required fs "cluster" text
    user := ← required fs "user" text
    namespaceName := ← optionalField fs "namespace" text }

def Cluster.ofNode (n : Node) : Decoder Cluster := do
  let fs ← fields ["server", "certificate-authority-data", "certificate-authority",
    "insecure-skip-tls-verify"] n
  return {
    server := ← required fs "server" text
    authorityData := ← optionalField fs "certificate-authority-data" text
    authorityFile := ← optionalField fs "certificate-authority" text
    insecure := ← withDefault fs "insecure-skip-tls-verify" false bool }

def AuthProvider.ofNode (depth : Nat) (n : Node) : Decoder AuthProvider := do
  let fs ← fields ["name", "config"] n
  return {
    name := ← required fs "name" text
    config := (← optionalField fs "config" (table depth)).getD [] }

def EnvironmentVariable.ofNode (n : Node) : Decoder EnvironmentVariable := do
  let fs ← fields ["name", "value"] n
  return {
    name := ← required fs "name" text
    value := ← required fs "value" text }

def ExecEntry.ofNode (n : Node) : Decoder ExecEntry := do
  let fs ← fields ["apiVersion", "command", "args", "env", "installHint", "provideClusterInfo"] n
  return {
    apiVersion := ← optionalField fs "apiVersion" text
    command := ← required fs "command" text
    args := ← listField fs "args" text
    env := ← listField fs "env" EnvironmentVariable.ofNode
    installHint := ← optionalField fs "installHint" text
    provideClusterInfo := ← withDefault fs "provideClusterInfo" false bool }

def User.fieldNames : List String :=
  ["client-certificate-data", "client-certificate", "client-key-data", "client-key", "token",
    "tokenFile", "username", "password", "auth-provider", "exec"]

def User.ofNode (n : Node) : Decoder User := do
  let fs ← fields fieldNames n
  return {
    certificateData := ← optionalField fs "client-certificate-data" text
    certificateFile := ← optionalField fs "client-certificate" text
    keyData := ← optionalField fs "client-key-data" text
    keyFile := ← optionalField fs "client-key" text
    token := ← optionalField fs "token" text
    tokenFile := ← optionalField fs "tokenFile" text
    username := ← optionalField fs "username" text
    password := ← optionalField fs "password" text
    authProvider := ← optionalField fs "auth-provider" (AuthProvider.ofNode Kubeconfig.valueDepth)
    exec := ← optionalField fs "exec" ExecEntry.ofNode }

def Named.ofNode {α : Type} (label : String) (f : Node → Decoder α) (n : Node) :
    Decoder (Named α) := do
  let fs ← fields ["name", label] n
  return { name := ← required fs "name" text, body := ← required fs label f }

def User.namedOfNode (n : Node) : Decoder (Named User) := do
  let fs ← fields ["name", "user"] n
  return {
    name := ← required fs "name" text
    body := ← withDefault fs "user" User.anonymous User.ofNode }

namespace Kubeconfig

def ofNode (n : Node) : Decoder Kubeconfig := do
  let fs ← fields ["apiVersion", "kind", "current-context", "contexts", "clusters", "users"] n
  return {
    apiVersion := ← optionalField fs "apiVersion" text
    kind := ← optionalField fs "kind" text
    currentContext := ← optionalField fs "current-context" text
    contexts := ← listField fs "contexts" (Named.ofNode "context" Context.ofNode)
    clusters := ← listField fs "clusters" (Named.ofNode "cluster" Cluster.ofNode)
    users := ← listField fs "users" User.namedOfNode
    directory := none }

def parse? (text : String) : Option Kubeconfig :=
  if Text.isBlankText text then some empty
  else (Document.parse? text).bind fun d => d.decode? ofNode

def malformed : String := "malformed YAML"

def parse (origin text : String) : Except Error Kubeconfig :=
  match parse? text with
  | some k => .ok k
  | none => .error (.badConfiguration origin malformed)

def ofText (text : String) : Except Error Kubeconfig := parse "<inline>" text

def load (h : Host) (path : String) : Except Error Kubeconfig :=
  let file := Path.expandHome h.home path
  match h.readText file with
  | .error e => .error (.badConfiguration path e.message)
  | .ok text => (parse path text).map fun k => { k with directory := Path.parent? file }

def defaultPath? (h : Host) : Option String :=
  h.home.map fun home => Path.join (Path.join home ".kube") "config"

def loadDefault (h : Host) : Except Error Kubeconfig :=
  match defaultPath? h with
  | some path => load h path
  | none => .error (.badConfiguration "~/.kube/config" "cannot determine the home directory")

end Kubeconfig

def AuthProvider.parse? (text : String) : Option AuthProvider :=
  (Yaml.Document.parse? text).bind fun d => d.decode? (AuthProvider.ofNode valueDepth)

end ClusterAccess
