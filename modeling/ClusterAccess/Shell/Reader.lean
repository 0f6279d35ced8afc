import ClusterAccess.Shell.Syntax
import ClusterAccess.Text.Digits

namespace ClusterAccess.Shell

inductive Operator where
  | next
  | line
  | background
  | both
  | either
  | pipe
  | opening
  | closing
  deriving DecidableEq, Repr, Inhabited

/-- A token; the word after a redirection is its target. -/
inductive Token where
  | word (w : Word)
  | operator (op : Operator)
  | redirection (stream : Nat) (kind : RedirectionKind)
  deriving DecidableEq, Repr, Inhabited

def isNameChar (c : Char) : Bool := c.isAlphanum || c == '_'

def isSpecial (c : Char) : Bool := "@*#?$!-".toList.contains c

def endsWord (c : Char) : Bool := " \t\n;&|<>()".toList.contains c

/-- Up to an end, past quoted characters and pairs of parentheses. -/
def takeScript (isEnd : Char → Bool) : Nat → Option Char → List Char → List Char →
    Option (List Char × List Char)
  | _, _, _, [] => none
  | depth, some q, seen, '\\' :: c :: cs =>
    if q == '"' then takeScript isEnd depth (some q) (c :: '\\' :: seen) cs
    else takeScript isEnd depth (if c == q then none else some q) (c :: '\\' :: seen) cs
  | depth, some q, seen, c :: cs =>
    takeScript isEnd depth (if c == q then none else some q) (c :: seen) cs
  | depth, none, seen, c :: cs =>
    if depth == 0 && isEnd c then some (seen.reverse, cs)
    else if c == '\'' || c == '"' then takeScript isEnd depth (some c) (c :: seen) cs
    else if c == '(' then takeScript isEnd (depth + 1) none (c :: seen) cs
    else if c == ')' then takeScript isEnd (depth - 1) none (c :: seen) cs
    else takeScript isEnd depth none (c :: seen) cs

def readExpansion (isQuoted : Bool) (cs : List Char) : Option (Piece × List Char) :=
  let plain := if isQuoted then Piece.quoted ['$'] else .text ['$']
  match cs with
  | '(' :: cs => (takeScript (· == ')') 0 none [] cs).map fun (s, rest) => (.output s isQuoted, rest)
  | '\x7b' :: cs => do
    let (inner, rest) ← takeScript (· == '\x7d') 0 none [] cs
    let name := inner.takeWhile fun c => isNameChar c || (inner.length == 1 && isSpecial c)
    let isName := match name with
      | c :: _ => !Text.isDigit c || name.all Text.isDigit
      | [] => false
    match isName, inner.drop name.length with
    | true, [] => return (.variable (String.ofList name) isQuoted, rest)
    | true, ':' :: '-' :: text => return (.fallback (String.ofList name) text isQuoted, rest)
    | _, _ => none
  | c :: rest =>
    if Text.isDigit c || isSpecial c then
      some (.variable (String.ofList [c]) isQuoted, rest)
    else
      let name := cs.takeWhile isNameChar
      if name.isEmpty then some (plain, cs)
      else some (.variable (String.ofList name) isQuoted, cs.drop name.length)
  | [] => some (plain, [])

def takeBackquoted : List Char → List Char → Option (List Char × List Char)
  | _, [] => none
  | seen, '\\' :: c :: cs =>
    if c == '\x60' || c == '\\' || c == '$' then takeBackquoted (c :: seen) cs
    else takeBackquoted (c :: '\\' :: seen) cs
  | seen, c :: cs => if c == '\x60' then some (seen.reverse, cs) else takeBackquoted (c :: seen) cs

def readQuoted : Nat → List Char → List Char → Option (Word × List Char)
  | 0, _, _ => none
  | fuel + 1, seen, cs =>
    let flush := if seen.isEmpty then [] else [Piece.quoted seen.reverse]
    match cs with
    | [] => none
    | '"' :: cs => some (flush, cs)
    | '\\' :: c :: cs =>
      if c == '\n' then readQuoted fuel seen cs
      else if c == '$' || c == '\x60' || c == '"' || c == '\\' then readQuoted fuel (c :: seen) cs
      else readQuoted fuel (c :: '\\' :: seen) cs
    | '$' :: cs => do
      let (p, rest) ← readExpansion true cs
      let (ps, rest) ← readQuoted fuel [] rest
      return (flush ++ p :: ps, rest)
    | c :: cs =>
      if c == '\x60' then do
        let (s, rest) ← takeBackquoted [] cs
        let (ps, rest) ← readQuoted fuel [] rest
        return (flush ++ Piece.output s true :: ps, rest)
      else readQuoted fuel (c :: seen) cs

def readWord : Nat → List Char → List Char → Option (Word × List Char)
  | 0, _, _ => none
  | fuel + 1, seen, cs =>
    let flush := if seen.isEmpty then [] else [Piece.text seen.reverse]
    let after := fun (ps : Word) (rest : List Char) => do
      let (qs, rest) ← readWord fuel [] rest
      return (flush ++ ps ++ qs, rest)
    match cs with
    | [] => some (flush, [])
    | '\'' :: cs =>
      let inner := cs.takeWhile (· != '\'')
      match cs.drop inner.length with
      | _ :: rest => after [.quoted inner] rest
      | [] => none
    | '"' :: cs => do
      let (ps, rest) ← readQuoted fuel [] cs
      after (if ps.isEmpty then [.quoted []] else ps) rest
    | '\\' :: '\n' :: cs => readWord fuel seen cs
    | '\\' :: c :: cs => after [.quoted [c]] cs
    | '$' :: cs => do
      let (p, rest) ← readExpansion false cs
      after [p] rest
    | c :: cs' =>
      if endsWord c then some (flush, cs)
      else if c == '\x60' then do
        let (s, rest) ← takeBackquoted [] cs'
        after [.output s false] rest
      else readWord fuel (c :: seen) cs'

/-- The redirection that the characters begin with, for a stream that is given or the usual one. -/
def readRedirection? (stream : Option Nat) : List Char → Option (Token × List Char)
  | '>' :: '>' :: cs => some (.redirection (stream.getD 1) .append, cs)
  | '>' :: '&' :: cs => some (.redirection (stream.getD 1) .duplicate, cs)
  | '>' :: '|' :: cs => some (.redirection (stream.getD 1) .write, cs)
  | '>' :: cs => some (.redirection (stream.getD 1) .write, cs)
  | '<' :: '&' :: cs => some (.redirection (stream.getD 0) .duplicate, cs)
  | '<' :: '<' :: _ => none
  | '<' :: cs => some (.redirection (stream.getD 0) .read, cs)
  | _ => none

def tokens : Nat → List Char → Option (List Token)
  | 0, _ => none
  | fuel + 1, cs =>
    let after := fun (t : Token) (rest : List Char) => (tokens fuel rest).map (t :: ·)
    match cs with
    | [] => some []
    | '\n' :: cs => after (.operator .line) cs
    | '\\' :: '\n' :: cs => tokens fuel cs
    | ';' :: cs => after (.operator .next) cs
    | '&' :: '&' :: cs => after (.operator .both) cs
    | '&' :: cs => after (.operator .background) cs
    | '|' :: '|' :: cs => after (.operator .either) cs
    | '|' :: cs => after (.operator .pipe) cs
    | '(' :: cs => after (.operator .opening) cs
    | ')' :: cs => after (.operator .closing) cs
    | '#' :: cs => tokens fuel (cs.dropWhile (· != '\n'))
    | c :: cs' =>
      if c == ' ' || c == '\t' then tokens fuel cs'
      else
        let number := cs.takeWhile Text.isDigit
        let redirection := match Text.readDigits? number with
          | some n => readRedirection? (some n) (cs.drop number.length)
          | none => readRedirection? none cs
        match redirection with
        | some (t, rest) => after t rest
        | none =>
          match readWord (cs.length + 1) [] cs with
          | some (w, rest) => if rest.length < cs.length then after (.word w) rest else none
          | none => none

def Token.plain? : Token → Option String
  | .word [.text cs] => some (String.ofList cs)
  | _ => none

def assignment? : Word → Option (String × Word)
  | .text cs :: more =>
    let name := cs.takeWhile isNameChar
    match name, cs.drop name.length with
    | c :: _, '=' :: value =>
      if Text.isDigit c then none
      else some (String.ofList name, if value.isEmpty then more else .text value :: more)
    | _, _ => none
  | _ => none

def reserved : List String := ["then", "else", "elif", "fi", "do", "done", "in", "\x7d"]

def skipLines (ts : List Token) : List Token := ts.dropWhile (· == .operator .line)

def readRedirections : List Token → Option (List Redirection × List Token)
  | .redirection n k :: .word w :: ts => do
    let (rs, rest) ← readRedirections ts
    return (⟨n, k, w⟩ :: rs, rest)
  | .redirection .. :: _ => none
  | ts => some ([], ts)

def readSimple : List (String × Word) → List Word → List Redirection → List Token →
    Option (Command × List Token)
  | as, ws, rs, .redirection n k :: .word w :: ts => readSimple as ws (rs ++ [⟨n, k, w⟩]) ts
  | _, _, _, .redirection .. :: _ => none
  | as, ws, rs, .word w :: ts =>
    match if ws.isEmpty then assignment? w else none with
    | some a => readSimple (as ++ [a]) ws rs ts
    | none => readSimple as (ws ++ [w]) rs ts
  | as, ws, rs, ts => some (.simple as ws rs, ts)

def readLoopWords : List Token → Option (List Word × List Token)
  | .word w :: ts => do
    let (ws, rest) ← readLoopWords ts
    return (w :: ws, rest)
  | .operator .next :: ts => some ([], ts)
  | .operator .line :: ts => some ([], ts)
  | _ => none

def expect (name : String) (ts : List Token) : Option (List Token) :=
  match ts with
  | t :: rest => if t.plain? == some name then some rest else none
  | [] => none

/-- How tightly a level of the grammar binds. -/
inductive Level where
  | list
  | condition
  | pipeline
  | command
  deriving DecidableEq, Repr

def endsList : List Token → Bool
  | [] => true
  | .operator .closing :: _ => true
  | t :: _ => match t.plain? with
    | some w => reserved.contains w
    | none => false

def readCommand : Nat → Level → List Token → Option (Command × List Token)
  | 0, _, _ => none
  | fuel + 1, .list, ts => do
    let ts := skipLines ts
    if endsList ts then return (.nothing, ts)
    let (c, ts) ← readCommand fuel .condition ts
    match ts with
    | .operator .next :: rest | .operator .line :: rest | .operator .background :: rest =>
      if endsList (skipLines rest) then return (c, skipLines rest)
      let (d, rest) ← readCommand fuel .list rest
      return (.sequence c d, rest)
    | _ => return (c, ts)
  | fuel + 1, .condition, ts => do
    let (c, ts) ← readCommand fuel .pipeline ts
    conditions fuel c ts
  | fuel + 1, .pipeline, ts => do
    match ts with
    | .word [.text ['!']] :: rest =>
      let (c, rest) ← readCommand fuel .pipeline rest
      return (.negation c, rest)
    | _ =>
      let (c, ts) ← readCommand fuel .command ts
      match ts with
      | .operator .pipe :: rest =>
        let (d, rest) ← readCommand fuel .pipeline (skipLines rest)
        return (.pipe c d, rest)
      | _ => return (c, ts)
  | fuel + 1, .command, ts => do
    match ts with
    | [] => none
    | .operator .opening :: rest =>
      let (c, rest) ← readCommand fuel .list rest
      match rest with
      | .operator .closing :: rest =>
        let (rs, rest) ← readRedirections rest
        return (.group true c rs, rest)
      | _ => none
    | .operator _ :: _ => none
    | t :: rest =>
      match t.plain? with
      | some "\x7b" =>
        let (c, rest) ← readCommand fuel .list rest
        let (rs, rest) ← readRedirections (← expect "\x7d" rest)
        return (.group false c rs, rest)
      | some "if" =>
        let (c, rest) ← readChoice fuel rest
        let (rs, rest) ← readRedirections rest
        return (.group false c rs, rest)
      | some "for" =>
        match rest with
        | .word [.text name] :: rest =>
          let (ws, rest) ← readLoopWords (← expect "in" rest)
          let (c, rest) ← readCommand fuel .list (← expect "do" (skipLines rest))
          let (rs, rest) ← readRedirections (← expect "done" rest)
          return (.group false (.each (String.ofList name) ws c) rs, rest)
        | _ => none
      | some w => if reserved.contains w then none else readSimple [] [] [] ts
      | none => readSimple [] [] [] ts
where
  conditions : Nat → Command → List Token → Option (Command × List Token)
    | 0, _, _ => none
    | fuel + 1, c, ts => do
      match ts with
      | .operator .both :: rest =>
        let (d, rest) ← readCommand fuel .pipeline (skipLines rest)
        conditions fuel (.both c d) rest
      | .operator .either :: rest =>
        let (d, rest) ← readCommand fuel .pipeline (skipLines rest)
        conditions fuel (.either c d) rest
      | _ => return (c, ts)
  readChoice : Nat → List Token → Option (Command × List Token)
    | 0, _ => none
    | fuel + 1, ts => do
      let (c, rest) ← readCommand fuel .list ts
      let (yes, rest) ← readCommand fuel .list (← expect "then" rest)
      match rest with
      | [] => none
      | t :: rest =>
        match t.plain? with
        | some "fi" => return (.choice c yes .nothing, rest)
        | some "else" =>
          let (no, rest) ← readCommand fuel .list rest
          return (.choice c yes no, ← expect "fi" rest)
        | some "elif" =>
          let (no, rest) ← readChoice fuel rest
          return (.choice c yes no, rest)
        | _ => none

def Command.ofScript? (script : List Char) : Option Command := do
  let ts ← tokens (script.length + 1) script
  let (c, rest) ← readCommand (6 * (ts.length + 2)) .list ts
  if rest.isEmpty then some c else none

end ClusterAccess.Shell
