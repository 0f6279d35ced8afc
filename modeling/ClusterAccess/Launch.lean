import ClusterAccess.Shell.Process

namespace ClusterAccess

open Shell

/-- A run as it comes out, with the milliseconds that it takes. -/
structure Launched where
  time : Nat
  outcome : CommandOutcome

namespace Invocation

def hasNul (i : Invocation) : Bool :=
  (i.program :: i.args ++ i.env.flatMap fun (k, v) => [k, v]).any (·.toList.contains '\x00')

/-- Why a program that is named by its path is not run: no file may be executed. -/
def pathError (h : Host) (path : String) : LaunchError :=
  match h.find path with
  | .ok (.present ..) => .failed FileError.denied.message
  | .ok (.absent ..) => .notFound
  | .error .notFound => .notFound
  | .error e => .failed e.message

def nameError (name : String) : LaunchError :=
  if name == "." || name == ".." then .failed FileError.denied.message
  else if FileSystem.maxName < (Text.utf8 name).length then .failed FileError.nameTooLong.message
  else .notFound

def depth (i : Invocation) : Nat := 200 + 8 * (i.args.map String.length).foldl (· + ·) 0

def start (i : Invocation) (h : Host) (environment : TextTable) : Process where
  host := h
  name := Text.utf8 i.program
  args := []
  assigned := (i.env ++ environment).map fun (k, v) => (k, Text.utf8 v)
  number := 4711
  status := 0
  buffers := [[], []]
  input := []
  output := .buffer 0
  errors := .buffer 1
  time := 0
  ending := none

def conclude (limit : Nat) (p : Process) : Launched :=
  if limit ≤ p.time then ⟨limit, .error .timedOut⟩
  else
    let text := fun (n : Nat) => Text.decodeUtf8Lossy ((p.buffers[n]?).getD [])
    let code := if p.ending == some .killed then none else some (p.status : Int)
    ⟨p.time, .ok ⟨code, text 0, text 1⟩⟩

def launch (i : Invocation) (h : Host) (environment : TextTable) (limit : Nat) : Launched :=
  let program := programName i.program
  let args := i.args.map Text.utf8
  if i.hasNul then ⟨0, .error (.failed "nul byte found in provided data")⟩
  else if isShellName program then
    conclude limit (runShell i.depth (i.start h environment) i.program args)
  else
    match Tool.ofName? program with
    | some t =>
      if i.program == ":" then ⟨0, .error .notFound⟩
      else conclude limit ((i.start h environment).finish (t.run false program h args []))
    | none =>
      if i.program.toList.contains '/' then ⟨0, .error (pathError h i.program)⟩
      else ⟨0, .error (nameError i.program)⟩

end Invocation

/-- What runs commands: with the environment to add to, and the milliseconds that they may take. -/
class Launcher where
  launch : Invocation → Host → TextTable → Nat → Launched

instance : Launcher := ⟨Invocation.launch⟩

end ClusterAccess
