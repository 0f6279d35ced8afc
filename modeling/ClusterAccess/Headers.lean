import ClusterAccess.Text.Diagnostic

namespace ClusterAccess

/-- Header fields: names with values, no two names the same. -/
structure Headers where
  entries : List (String × String)
  deriving DecidableEq, Repr

namespace Headers

def fold (name : String) : List Char := name.toList.map Char.toLower

def sameName (a b : String) : Bool := fold a == fold b

def empty : Headers := ⟨[]⟩

def setIn (name value : String) : List (String × String) → List (String × String)
  | [] => [(name, value)]
  | e :: es => if sameName e.1 name then (e.1, value) :: es else e :: setIn name value es

/-- A field that is there keeps its place and the spelling of its name. -/
def set (h : Headers) (name value : String) : Headers := ⟨setIn name value h.entries⟩

def get? (h : Headers) (name : String) : Option String :=
  (h.entries.find? fun e => sameName e.1 name).map (·.2)

def contains (h : Headers) (name : String) : Bool := (h.get? name).isSome

def remove (h : Headers) (name : String) : Headers :=
  ⟨h.entries.eraseP fun e => sameName e.1 name⟩

def take (h : Headers) (name : String) : Option String × Headers :=
  match h.entries.findIdx? fun e => sameName e.1 name with
  | some i => (h.entries[i]?.map (·.2), ⟨h.entries.eraseIdx i⟩)
  | none => (none, h)

def names (h : Headers) : List String := h.entries.map (·.1)

def size (h : Headers) : Nat := h.entries.length

def debug (h : Headers) : String := Text.quotedList h.names

end Headers

end ClusterAccess
