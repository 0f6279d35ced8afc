import ClusterAccess.Text.Utf8

namespace ClusterAccess.CommandLine

inductive Valued where
  | kubeconfig
  | context
  | namespaceName
  | settings
  | logFile
  deriving DecidableEq, Repr

inductive Flag where
  | debug
  | fetchCredential
  | inCluster
  deriving DecidableEq, Repr

structure Arguments where
  value : Valued → Option String
  flag : Flag → Bool

def Arguments.none : Arguments := ⟨fun _ => Option.none, fun _ => false⟩

inductive Switch where
  | help
  | flag (f : Flag)
  | valued (v : Valued)
  deriving DecidableEq, Repr

def longNames : List (String × Switch) :=
  [("kubeconfig", .valued .kubeconfig), ("context", .valued .context),
    ("namespace", .valued .namespaceName), ("settings", .valued .settings),
    ("debug", .flag .debug), ("log-file", .valued .logFile),
    ("fetch-credential", .flag .fetchCredential), ("in-cluster", .flag .inCluster), ("help", .help)]

def shortNames : List (Char × Switch) :=
  [('k', .valued .kubeconfig), ('c', .valued .context), ('n', .valued .namespaceName),
    ('s', .valued .settings), ('d', .flag .debug), ('h', .help)]

inductive UsageError where
  | unexpected (argument : String)
  | missingValue (option : String)
  | needlessValue (option value : String)
  | repeated (option : String)
  deriving DecidableEq, Repr

inductive Request where
  | help
  | run (a : Arguments)

inductive Reading where
  | help
  | ready (a : Arguments)
  | awaiting (a : Arguments) (v : Valued)

def shown (s : Switch) : String :=
  match longNames.find? (·.2 == s) with
  | some (name, _) => "--" ++ name
  | Option.none => ""

namespace Arguments

def give (a : Arguments) (v : Valued) (text : String) : Except UsageError Arguments :=
  if (a.value v).isSome then .error (.repeated (shown (.valued v)))
  else .ok { a with value := fun w => if w = v then some text else a.value w }

def raise (a : Arguments) (f : Flag) : Except UsageError Arguments :=
  if a.flag f then .error (.repeated (shown (.flag f)))
  else .ok { a with flag := fun g => if g = f then true else a.flag g }

/-- Reads short options that stand together; the value of one may follow it at once. -/
def readShort (a : Arguments) : List Char → Except UsageError Reading
  | [] => .ok (.ready a)
  | c :: cs =>
    match shortNames.lookup c with
    | Option.none => .error (.unexpected (String.ofList ['-', c]))
    | some .help => .ok .help
    | some (.flag f) => do readShort (← a.raise f) cs
    | some (.valued v) =>
      match cs with
      | [] => .ok (.awaiting a v)
      | '=' :: value => (a.give v (String.ofList value)).map .ready
      | value => (a.give v (String.ofList value)).map .ready

def readLong (a : Arguments) (cs : List Char) : Except UsageError Reading :=
  let name := cs.takeWhile (· != '=')
  let value := match cs.drop name.length with
    | _ :: v => some (String.ofList v)
    | [] => Option.none
  match longNames.lookup (String.ofList name), value with
  | Option.none, _ => .error (.unexpected ("--" ++ String.ofList name))
  | some s, some v =>
    match s with
    | .valued o => (a.give o v).map .ready
    | s => .error (.needlessValue (shown s) v)
  | some .help, Option.none => .ok .help
  | some (.flag f), Option.none => (a.raise f).map .ready
  | some (.valued v), Option.none => .ok (.awaiting a v)

def isOption (arg : String) : Bool := arg.startsWith "-" && arg != "-"

def read : Reading → List String → Except UsageError Request
  | .help, _ => .ok .help
  | .ready a, [] => .ok (.run a)
  | .awaiting _ v, [] => .error (.missingValue (shown (.valued v)))
  | .awaiting a v, arg :: rest =>
    if isOption arg then .error (.missingValue (shown (.valued v)))
    else do read (.ready (← a.give v arg)) rest
  | .ready a, arg :: rest =>
    match arg.toList with
    | ['-', '-'] =>
      match rest with
      | [] => .ok (.run a)
      | extra :: _ => .error (.unexpected extra)
    | '-' :: '-' :: cs => do read (← a.readLong cs) rest
    | '-' :: c :: cs => do read (← a.readShort (c :: cs)) rest
    | _ => .error (.unexpected arg)

end Arguments

def parse (args : List String) : Except UsageError Request := Arguments.read (.ready .none) args

def programName : String := "kube-connect"

def usage : String := "Usage: " ++ programName ++ " [OPTIONS]"

def help : String := "\n".intercalate
  ["Resolve a kubeconfig context and check its credentials", "", usage, "", "Options:",
    "  -k, --kubeconfig <KUBECONFIG>  Kubeconfig file; defaults to $KUBECONFIG, then ~/.kube/config",
    "  -c, --context <CONTEXT>        ", "  -n, --namespace <NAMESPACE>    ",
    "  -s, --settings <SETTINGS>      Client settings (JSON)", "  -d, --debug                    ",
    "      --log-file <LOG_FILE>      ",
    "      --fetch-credential         Also obtain a credential, running credential plugins if needed",
    "      --in-cluster               Use the pod's service account instead of a kubeconfig",
    "  -h, --help                     Print help"]

def UsageError.message (e : UsageError) : String :=
  let fault := match e with
    | unexpected arg => "unexpected argument '" ++ arg ++ "' found"
    | missingValue o => "a value is required for '" ++ o ++ "' but none was supplied"
    | needlessValue o v => "unexpected value '" ++ v ++ "' for '" ++ o ++
        "' found; no more were expected"
    | repeated o => "the argument '" ++ o ++ "' cannot be used multiple times"
  "error: " ++ fault ++ "\n\n" ++ usage ++ "\n\nFor more information, try '--help'."

end ClusterAccess.CommandLine
