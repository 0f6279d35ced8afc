import ClusterAccess.Error

namespace ClusterAccess

abbrev TextTable := List (String × String)

def TextTable.insert (name text : String) : TextTable → TextTable
  | [] => [(name, text)]
  | e :: es =>
    if e.1 == name then (name, text) :: es
    else if e.1 < name then e :: insert name text es
    else (name, text) :: e :: es

/-- The table of a row of pairs; of pairs with one name the last counts. -/
def TextTable.ofList (pairs : List (String × String)) : TextTable :=
  pairs.foldl (fun t p => insert p.1 p.2 t) []

structure Invocation where
  program : String
  args : List String
  env : TextTable
  deriving DecidableEq, Repr

/-- What a command that ended leaves behind; without an exit code it was killed. -/
structure CommandResult where
  exitCode : Option Int
  stdout : String
  stderr : String
  deriving DecidableEq, Repr

inductive LaunchError where
  | notFound
  | timedOut
  | failed (reason : String)
  deriving DecidableEq, Repr

abbrev CommandOutcome := Except LaunchError CommandResult

def CommandResult.succeeded (r : CommandResult) : Bool := r.exitCode == some 0

def CommandResult.toError (r : CommandResult) (command : String) : Error :=
  .commandFailed command r.exitCode r.stderr false

namespace LaunchError

def notFoundText (program : String) (hint : Option String) : String :=
  "executable '" ++ program ++ "' was not found" ++
    match hint with
    | some h => "\n" ++ Text.trim h
    | none => ""

def toError (e : LaunchError) (program : String) (hint : Option String) : Error :=
  match e with
  | notFound => .commandFailed program none (notFoundText program hint) false
  | timedOut => .commandFailed program none "" true
  | failed reason => .commandFailed program none reason false

def debug : LaunchError → String
  | notFound => "NotFound"
  | timedOut => "TimedOut"
  | failed reason => Text.call "Io" [Text.quoted reason]

end LaunchError

end ClusterAccess
