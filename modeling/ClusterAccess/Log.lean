import ClusterAccess.FileSystem
import ClusterAccess.Text.Digits

namespace ClusterAccess

/-- An entry of a log; details are kept only by those who want them. -/
inductive LogEntry where
  | message (text : String)
  | detail (text : String)
  deriving DecidableEq, Repr

namespace LogEntry

def text : LogEntry → String
  | message t => t
  | detail t => "[DEBUG] " ++ t

def isKept (wantsDetails : Bool) : LogEntry → Bool
  | message _ => true
  | detail _ => wantsDetails

def kept (wantsDetails : Bool) (entries : List LogEntry) : List String :=
  (entries.filter (isKept wantsDetails)).map text

end LogEntry

structure FileLog where
  path : String
  wantsDetails : Bool
  deriving DecidableEq, Repr

namespace FileLog

def create (h : Host) (path : String) (wantsDetails : Bool) : Except FileError (FileLog × Host) :=
  let log : FileLog := ⟨path, wantsDetails⟩
  match Path.parent? path with
  | none => .ok (log, h)
  | some p => (h.makeDirectories p).map fun h => (log, h)

def line (time text : String) : String := time ++ ": " ++ text ++ "\n"

def append (l : FileLog) (h : Host) (time text : String) : Except FileError Host := do
  let before ←
    match h.read l.path with
    | .ok bytes => pure bytes
    | .error .notFound => pure []
    | .error e => throw e
  h.write l.path (before ++ Text.utf8 (line time text))

/-- Writes an entry; one that cannot be written is lost. -/
def write (l : FileLog) (h : Host) (time : String) (e : LogEntry) : Host :=
  if e.isKept l.wantsDetails then (l.append h time e.text).toOption.getD h else h

end FileLog

end ClusterAccess
