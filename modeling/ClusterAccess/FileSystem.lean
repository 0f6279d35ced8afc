import ClusterAccess.Path
import ClusterAccess.Text.Utf8

namespace ClusterAccess

/-- A place in a file system: the names on the way from the root. -/
abbrev Place := List String

inductive Entry where
  | file (bytes : List UInt8)
  | directory
  deriving DecidableEq

structure FileSystem where
  find? : Place → Option Entry

inductive FileError where
  | notFound
  | denied
  | alreadyExists
  | notDirectory
  | isDirectory
  | nameTooLong
  | nulInPath
  | notText
  deriving DecidableEq, Repr

def FileError.message : FileError → String
  | notFound => "No such file or directory (os error 2)"
  | denied => "Permission denied (os error 13)"
  | alreadyExists => "File exists (os error 17)"
  | notDirectory => "Not a directory (os error 20)"
  | isDirectory => "Is a directory (os error 21)"
  | nameTooLong => "File name too long (os error 36)"
  | nulInPath => "file name contained an unexpected NUL byte"
  | notText => "stream did not contain valid UTF-8"

/-- What a process sees of the system around it. -/
structure Host where
  files : FileSystem
  home : Option String
  workingDirectory : Place

namespace FileSystem

def empty : FileSystem := ⟨fun p => if p = [] then some .directory else none⟩

def put (fs : FileSystem) (place : Place) (e : Entry) : FileSystem :=
  ⟨fun p => if p = place then some e else fs.find? p⟩

@[simp] theorem find?_put_self (fs : FileSystem) (place : Place) (e : Entry) :
    (fs.put place e).find? place = some e := by simp [put]

theorem find?_put_of_ne (fs : FileSystem) {place p : Place} (e : Entry) (h : p ≠ place) :
    (fs.put place e).find? p = fs.find? p := by simp [put, h]

/-- What a path leads to; the flag tells that it ends with a slash. -/
inductive Found where
  | present (place : Place) (e : Entry)
  | absent (place : Place) (slash : Bool)

def maxName : Nat := 255

def walk (fs : FileSystem) : Place → Entry → List String → Except FileError Found
  | place, e, [] => .ok (.present place e)
  | _, .file _, _ :: _ => .error .notDirectory
  | place, .directory, part :: more =>
    if part == "" || part == "." then walk fs place .directory more
    else if part == ".." then walk fs place.dropLast .directory more
    else if maxName < (Text.utf8 part).length then .error .nameTooLong
    else
      match fs.find? (place ++ [part]) with
      | some e => walk fs (place ++ [part]) e more
      | none =>
        if more.all (· == "") then .ok (.absent (place ++ [part]) !more.isEmpty)
        else .error .notFound

def maxPath : Nat := 4095

end FileSystem

namespace Host

open FileSystem

def find (h : Host) (path : String) : Except FileError Found :=
  if path.isEmpty then .error .notFound
  else if path.toList.contains '\x00' then .error .nulInPath
  else if maxPath < (Text.utf8 path).length then .error .nameTooLong
  else
    h.files.walk (if Path.isAbsolute path then [] else h.workingDirectory) .directory
      (Path.parts path)

def read (h : Host) (path : String) : Except FileError (List UInt8) := do
  match ← h.find path with
  | .present _ (.file bytes) => pure bytes
  | .present _ .directory => throw .isDirectory
  | .absent .. => throw .notFound

def readText (h : Host) (path : String) : Except FileError String := do
  match Text.decodeUtf8? (← h.read path) with
  | some s => pure s
  | none => throw .notText

def write (h : Host) (path : String) (bytes : List UInt8) : Except FileError Host := do
  match ← h.find path with
  | .present place (.file _) => pure { h with files := h.files.put place (.file bytes) }
  | .present _ .directory => throw .isDirectory
  | .absent place slash =>
    if slash then throw .isDirectory
    else pure { h with files := h.files.put place (.file bytes) }

def makeDirectory (h : Host) (path : String) : Except FileError Host := do
  match ← h.find path with
  | .present .. => throw .alreadyExists
  | .absent place _ => pure { h with files := h.files.put place .directory }

def isDirectory (h : Host) (path : String) : Bool :=
  match h.find path with
  | .ok (.present _ .directory) => true
  | _ => false

def ensureDirectory (h : Host) (path : String) : Except FileError Host :=
  match h.makeDirectory path with
  | .ok h => .ok h
  | .error e => if h.isDirectory path then .ok h else .error e

def makeDirectories (h : Host) (path : String) : Except FileError Host := go path.length path
where
  go : Nat → String → Except FileError Host
    | 0, _ => .ok h
    | fuel + 1, path =>
      if path.isEmpty then .ok h
      else
        match h.ensureDirectory path with
        | .error .notFound =>
          match Path.parent? path with
          | some p => do (← go fuel p).ensureDirectory path
          | none => .error .notFound
        | r => r

end Host

end ClusterAccess
