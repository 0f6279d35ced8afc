namespace ClusterAccess.Path

def isAbsolute (p : String) : Bool := p.toList.head? == some '/'

def join (base p : String) : String :=
  if isAbsolute p || base.isEmpty then p
  else if base.toList.getLast? == some '/' then base ++ p
  else base ++ "/" ++ p

/-- A tilde alone or before a slash is replaced by the home directory, if that is known. -/
def expandHome (home : Option String) (p : String) : String :=
  match home, p.toList with
  | some h, ['~'] => h
  | some h, '~' :: '/' :: cs => h ++ String.ofList ('/' :: cs)
  | _, _ => p

/-- Relative paths of a document are taken from a base directory. -/
def resolve (home base : Option String) (p : String) : String :=
  let p := expandHome home p
  match base with
  | some b => join b p
  | none => p

/-- Without the slashes and single dots after the last name; the characters come last first. -/
def trimEnd : List Char → List Char
  | ['/'] => ['/']
  | '/' :: cs => trimEnd cs
  | '.' :: '/' :: cs => trimEnd ('/' :: cs)
  | cs => cs

def parent? (p : String) : Option String :=
  match trimEnd p.toList.reverse with
  | [] => none
  | ['/'] => none
  | cs => some (String.ofList (trimEnd (cs.dropWhile (· != '/'))).reverse)

def parts (p : String) : List String := go [] p.toList
where
  go (seen : List Char) : List Char → List String
    | [] => [String.ofList seen.reverse]
    | c :: cs => if c == '/' then String.ofList seen.reverse :: go [] cs else go (c :: seen) cs

example : parent? "/a/b" = some "/a" ∧ parent? "/a" = some "/" ∧ parent? "/" = none := by decide
example : parent? "a//b/" = some "a" ∧ parent? "a" = some "" ∧ parent? "" = none := by decide
example : resolve (some "/h") (some "/etc") "~/x" = "/h/x" := by decide
example : resolve (some "/h") (some "/etc") "~x" = "/etc/~x" := by decide

end ClusterAccess.Path
