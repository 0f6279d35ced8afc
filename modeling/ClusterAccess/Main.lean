import ClusterAccess.CommandLine.Report
import Std.Time.DateTime.Timestamp

namespace ClusterAccess.CommandLine

def variableNames : List String :=
  ["HOME", "KUBECONFIG", Pod.hostVariable, Pod.portVariable, "PATH"]

def addPath (h : Host) (path : String) : IO Host := do
  let path := Path.expandHome h.home path
  let names := (Path.parts path).filter (· != "")
  let place := if Path.isAbsolute path then names else h.workingDirectory ++ names
  let full := "/" ++ "/".intercalate place
  let above := fun (fs : FileSystem) =>
    (List.range place.length).foldl (fun fs i => fs.put (place.take i) .directory) fs
  try
    let bytes ← IO.FS.readBinFile full
    return { h with files := (above h.files).put place (.file bytes.toList) }
  catch _ => return h

/-- The files that the work may need, as far as the ones known so far tell. -/
def neededPaths (args : Arguments) (s : Surroundings) : List String :=
  let account := ["token", "ca.crt", "namespace"].map (Path.join Pod.accountDirectory)
  let path := (kubeconfigPath args s).toOption
  let named := path.bind fun p => (Kubeconfig.load s.host p).toOption
  let users := named.elim [] fun k => k.users.flatMap fun u =>
    ([u.body.certificateFile, u.body.keyFile, u.body.tokenFile].filterMap id).map
      (Resolver.resolvePath s.host k.directory)
  let clusters := named.elim [] fun k => k.clusters.flatMap fun c =>
    (c.body.authorityFile.toList).map (Resolver.resolvePath s.host k.directory)
  account ++ path.toList ++ (args.value .settings).toList ++ (args.value .logFile).toList ++ users ++
    clusters

def readNeeded (args : Arguments) (s : Surroundings) : IO Surroundings := do
  let mut h := s.host
  for path in neededPaths args s do
    h ← addPath h path
  return { s with host := h }

def findSurroundings : IO Surroundings := do
  let mut environment : TextTable := []
  for name in variableNames do
    if let some value ← IO.getEnv name then
      environment := environment.insert name value
  let directory := (← IO.currentDir).toString
  let place := (Path.parts directory).filter (· != "")
  let files := (List.range (place.length + 1)).foldl
    (fun fs i => fs.put (place.take i) .directory) FileSystem.empty
  let now ← Std.Time.Timestamp.now
  return {
    host := ⟨files, environment.lookup "HOME", place⟩
    environment
    now := .ofUnixSeconds now.toSecondsSinceUnixEpoch.val }

def keepLog (args : Arguments) (r : Report) : IO Unit := do
  match args.value .logFile with
  | some path =>
    match r.host.read path with
    | .ok bytes =>
      if let some parent := Path.parent? path then
        if parent != "" then IO.FS.createDirAll parent
      IO.FS.writeBinFile path ⟨bytes.toArray⟩
    | .error _ => return
  | none => return

end ClusterAccess.CommandLine

open ClusterAccess.CommandLine in
def main (args : List String) : IO UInt32 := do
  match parse args with
  | .error e =>
    IO.eprintln e.message
    return 2
  | .ok .help =>
    IO.println help
    return 0
  | .ok (.run args) =>
    let s ← readNeeded args (← readNeeded args (← findSurroundings))
    let (r, succeeded) := report args s
    keepLog args r
    for line in r.errors do IO.eprintln line
    for line in r.output do IO.println line
    return if succeeded then 0 else 1
