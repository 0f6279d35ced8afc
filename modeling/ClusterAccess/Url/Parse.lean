import ClusterAccess.Url.Basic
import ClusterAccess.Url.Domain
import ClusterAccess.Url.Percent

namespace ClusterAccess

inductive UrlError where
  | emptyHost
  | badDomain
  | badDomainCharacter
  | badPort
  | badIpv4
  | badIpv6
  | noScheme
  deriving DecidableEq, Repr

def UrlError.message : UrlError → String
  | emptyHost => "empty host"
  | badDomain => "invalid international domain name"
  | badDomainCharacter => "invalid domain character"
  | badPort => "invalid port number"
  | badIpv4 => "invalid IPv4 address"
  | badIpv6 => "invalid IPv6 address"
  | noScheme => "relative URL without a base"

namespace Url

/-- The kinds of schemes: ordinary ones, files, and the special ones with their usual port. -/
inductive SchemeKind where
  | ordinary
  | file
  | special (port : Nat)
  deriving DecidableEq, Repr

def SchemeKind.of (scheme : String) : SchemeKind :=
  if scheme == "https" || scheme == "wss" then special 443
  else if scheme == "http" || scheme == "ws" then special 80
  else if scheme == "ftp" then special 21
  else if scheme == "file" then file
  else ordinary

def SchemeKind.isSpecial : SchemeKind → Bool
  | ordinary => false
  | _ => true

def isSlash (k : SchemeKind) (c : Char) : Bool := c == '/' || (k.isSpecial && c == '\\')

def endsAuthority (k : SchemeKind) (c : Char) : Bool := isSlash k c || c == '?' || c == '#'

/-- No blanks and controls around the characters, and no line breaks and tabs among them. -/
def relevant (cs : List Char) : List Char :=
  let inner := ((cs.dropWhile (· ≤ ' ')).reverse.dropWhile (· ≤ ' ')).reverse
  inner.filter fun c => !(c == '\t' || c == '\n' || c == '\r')

def isLetter (c : Char) : Bool := ('a' ≤ c && c ≤ 'z') || ('A' ≤ c && c ≤ 'Z')

def inScheme (c : Char) : Bool := isLetter c || Text.isDigit c || c == '+' || c == '-' || c == '.'

def scheme? (cs : List Char) : Option (String × List Char) :=
  let name := cs.takeWhile inScheme
  match cs.drop name.length with
  | ':' :: rest =>
    if name.head?.any isLetter then some (String.ofList (name.map Char.toLower), rest) else none
  | _ => none

/-- Splits at the first character of a class, which stays with the second part. -/
def breakAt (p : Char → Bool) (cs : List Char) : List Char × List Char :=
  (cs.takeWhile (!p ·), cs.dropWhile (!p ·))

def splitUser? (cs : List Char) : Option (List Char × List Char) :=
  match breakAt (· == '@') cs.reverse with
  | (after, _ :: before) => some (before.reverse, after.reverse)
  | (_, []) => none

def user (cs : List Char) : String × Option String :=
  let (name, rest) := breakAt (· == ':') cs
  let text := fun part => String.ofList (Percent.encode Percent.inUser part)
  match rest with
  | _ :: c :: password => (text name, some (text (c :: password)))
  | _ => (text name, none)

def specialHost (cs : List Char) : Except UrlError Host :=
  match cs with
  | '[' :: inner =>
    if inner.getLast? == some ']' then
      match Ipv6.parse? inner.dropLast with
      | some a => .ok (.ipv6 a)
      | none => .error .badIpv6
    else .error .badIpv6
  | _ =>
    match (Text.decodeUtf8? (Percent.decode cs)).bind fun s => Domain.lookup? s.toList with
    | none => .error .badDomain
    | some [] => .error .emptyHost
    | some domain =>
      if Ipv4.isMeant domain then
        match Ipv4.parse? domain with
        | some a => .ok (.ipv4 a)
        | none => .error .badIpv4
      else .ok (.name (String.ofList domain))

def isForbiddenInHost (c : Char) : Bool :=
  "\x00\t\n\r #/:<>?@[\\]^|".toList.contains c

def ordinaryHost (cs : List Char) : Except UrlError (Option Host) :=
  match cs with
  | [] => .ok none
  | '[' :: _ => (specialHost cs).map some
  | _ =>
    if cs.any isForbiddenInHost then .error .badDomainCharacter
    else .ok (some (.name (String.ofList (Percent.encode Percent.isControl cs))))

/-- The host and what follows it: a colon ends a host outside brackets. -/
def splitHost (inBrackets : Bool) : List Char → List Char × List Char
  | [] => ([], [])
  | c :: cs =>
    if c == ':' && !inBrackets then ([], c :: cs)
    else
      let (host, rest) :=
        splitHost (if c == '[' then true else if c == ']' then false else inBrackets) cs
      (c :: host, rest)

/-- The number that digits spell, none of whose beginnings passes the largest port. -/
def portNumber (ds : List Char) : Except UrlError Nat :=
  if Text.digitsValue ds ≤ 65535 then .ok (Text.digitsValue ds) else .error .badPort

def port (k : SchemeKind) (cs : List Char) : Except UrlError (Option Nat × List Char) := do
  let ds := cs.takeWhile Text.isDigit
  let n ← portNumber ds
  match cs.drop ds.length with
  | [] => return (if ds.isEmpty || k == .special n then none else some n, [])
  | c :: rest =>
    if c == '/' || c == '\\' || c == '?' || c == '#' then
      return (if ds.isEmpty || k == .special n then none else some n, c :: rest)
    else throw .badPort

def hostAndPort (k : SchemeKind) (cs : List Char) :
    Except UrlError (Option Host × Option Nat × List Char) := do
  let (place, after) := breakAt (endsAuthority k) cs
  let (text, rest) := splitHost false place
  let rest := rest ++ after
  let host ←
    if k.isSpecial then
      if text.isEmpty then throw .emptyHost else (specialHost text).map some
    else ordinaryHost text
  match rest with
  | ':' :: cs =>
    if host.isNone then throw .emptyHost
    else
      let (port, rest) ← port k cs
      return (host, port, rest)
  | rest => return (host, none, rest)

def readAuthority (k : SchemeKind) (cs : List Char) : Except UrlError (Authority × List Char) := do
  let (place, after) := breakAt (endsAuthority k) cs
  match splitUser? place with
  | none =>
    let (host, port, rest) ← hostAndPort k cs
    return (⟨"", none, host, port⟩, rest)
  | some ([], hostText) =>
    if hostText.isEmpty && !after.isEmpty then throw .emptyHost
    else
      let (host, port, rest) ← hostAndPort k (hostText ++ after)
      return (⟨"", none, host, port⟩, rest)
  | some (userText, hostText) =>
    let (username, password) := user userText
    let (host, port, rest) ← hostAndPort k (hostText ++ after)
    if host.isNone && (password.isSome || !username.isEmpty) then throw .emptyHost
    else return (⟨username, password, host, port⟩, rest)

def isSingleDot (s : String) : Bool := [".", "%2e"].contains s.toLower

def isDoubleDot (s : String) : Bool := ["..", ".%2e", "%2e.", "%2e%2e"].contains s.toLower

def isDrive (s : String) : Bool :=
  match s.toList with
  | [c, mark] => isLetter c && (mark == ':' || mark == '|')
  | _ => false

def up : List String → List String
  | [] => []
  | s :: before => if isDrive s then s :: before else before

/-- The segments of a path, followed from the root on; those before are given last first. -/
def follow (before : List String) : List String → List String
  | [] => before.reverse
  | [s] =>
    if isDoubleDot s then ("" :: up before).reverse
    else if isSingleDot s then ("" :: before).reverse
    else (s :: before).reverse
  | s :: rest =>
    if isDoubleDot s then follow (up before) rest
    else if isSingleDot s then follow before rest
    else follow (s :: before) rest

def pathOf (k : SchemeKind) (cs : List Char) : String :=
  let segments := (Text.splitChars (isSlash k) cs).map fun s =>
    String.ofList (Percent.encode Percent.inPath s)
  "/" ++ "/".intercalate (follow [] segments)

def readPath (k : SchemeKind) (cs : List Char) : String :=
  match cs with
  | [] => if k.isSpecial then "/" else ""
  | c :: rest => pathOf k (if isSlash k c then rest else cs)

/-- The path of a file, which begins with one slash; a drive at its front ends with a colon. -/
def filePath (cs : List Char) : String :=
  let p := pathOf .file cs
  let inner := p.toList.dropWhile (· == '/')
  let inner := match inner with
    | [c, '|'] => if isLetter c then [c, ':'] else inner
    | c :: '|' :: '/' :: rest => if isLetter c then c :: ':' :: '/' :: rest else inner
    | _ => inner
  String.ofList ('/' :: inner)

def queryAndFragment (k : SchemeKind) (cs : List Char) : Option String × Option String :=
  let (before, fragment) := breakAt (· == '#') cs
  let fragment := fragment.tail?.map fun f => String.ofList (Percent.encode Percent.inFragment f)
  let inQuery := if k.isSpecial then Percent.inSpecialQuery else Percent.inQuery
  (before.tail?.map fun q => String.ofList (Percent.encode inQuery q), fragment)

def endsPath (c : Char) : Bool := c == '?' || c == '#'

def withAuthority (scheme : String) (k : SchemeKind) (cs : List Char) : Except UrlError Url := do
  let (authority, rest) ← readAuthority k cs
  let (pathText, rest) := breakAt endsPath rest
  let (query, fragment) := queryAndFragment k rest
  return ⟨scheme, some authority, readPath k pathText, query, fragment⟩

/-- The host of a file; the local one and a drive count as none. -/
def fileHost (cs : List Char) : Except UrlError (Option Host × List Char) :=
  let (text, rest) := breakAt (endsAuthority .file) cs
  if text.isEmpty then .ok (none, rest)
  else if isDrive (String.ofList text) then .ok (none, cs)
  else (specialHost text).map fun h => (if h == .name "localhost" then none else some h, rest)

def fileUrl (cs : List Char) : Except UrlError Url := do
  let (host, rest) ← match cs with
    | a :: b :: rest => if isSlash .file a && isSlash .file b then fileHost rest else pure (none, cs)
    | _ => pure (none, cs)
  let (pathText, rest) := breakAt endsPath rest
  let path := filePath pathText
  let host := if isDrive (String.ofList ((path.toList.drop 1).take 2)) &&
    (path.length == 3 || path.toList[3]? == some '/') then none else host
  let (query, fragment) := queryAndFragment .file rest
  return ⟨"file", some ⟨"", none, host, none⟩, path, query, fragment⟩

def ordinaryUrl (scheme : String) (cs : List Char) : Except UrlError Url :=
  match cs with
  | '/' :: '/' :: rest => withAuthority scheme .ordinary rest
  | _ =>
    let (pathText, rest) := breakAt endsPath cs
    let (query, fragment) := queryAndFragment .ordinary rest
    let path := match pathText with
      | '/' :: p => pathOf .ordinary p
      | p => String.ofList (Percent.encode Percent.isControl p)
    .ok ⟨scheme, none, path, query, fragment⟩

def parse (s : String) : Except UrlError Url :=
  match scheme? (relevant s.toList) with
  | none => .error .noScheme
  | some (scheme, rest) =>
    match SchemeKind.of scheme with
    | .ordinary => ordinaryUrl scheme rest
    | .file => fileUrl rest
    | k => withAuthority scheme k (rest.dropWhile (isSlash k))

end Url

end ClusterAccess
