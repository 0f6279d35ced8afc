namespace ClusterAccess.Shell

/-- An expansion is cut into fields at blanks, unless it is quoted. -/
inductive Piece where
  | text (cs : List Char)
  | quoted (cs : List Char)
  | variable (name : String) (isQuoted : Bool)
  | fallback (name : String) (text : List Char) (isQuoted : Bool)
  | output (script : List Char) (isQuoted : Bool)
  deriving DecidableEq, Repr, Inhabited

abbrev Word := List Piece

inductive RedirectionKind where
  | read
  | write
  | append
  | duplicate
  deriving DecidableEq, Repr, Inhabited

structure Redirection where
  stream : Nat
  kind : RedirectionKind
  target : Word
  deriving DecidableEq, Repr, Inhabited

inductive Command where
  | simple (assignments : List (String × Word)) (words : List Word)
      (redirections : List Redirection)
  | pipe (first second : Command)
  | sequence (first second : Command)
  | both (first second : Command)
  | either (first second : Command)
  | negation (c : Command)
  | group (isApart : Bool) (body : Command) (redirections : List Redirection)
  | choice (condition yes no : Command)
  | each (name : String) (words : List Word) (body : Command)
  deriving Repr, Inhabited

def Command.nothing : Command := .simple [] [] []

end ClusterAccess.Shell
