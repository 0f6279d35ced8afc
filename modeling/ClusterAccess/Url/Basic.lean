import ClusterAccess.Url.Ipv4
import ClusterAccess.Url.Ipv6

namespace ClusterAccess

inductive Url.Host where
  | name (text : String)
  | ipv4 (address : Ipv4)
  | ipv6 (address : Ipv6)
  deriving DecidableEq, Repr

/-- A host may be missing, and the port is if it is the one that the scheme implies. -/
structure Url.Authority where
  username : String
  password : Option String
  host : Option Url.Host
  port : Option Nat
  deriving DecidableEq, Repr

structure Url where
  scheme : String
  authority : Option Url.Authority
  path : String
  query : Option String
  fragment : Option String
  deriving DecidableEq, Repr

namespace Url

def Host.text : Host → String
  | name t => t
  | ipv4 a => a.text
  | ipv6 a => "[" ++ a.text ++ "]"

def Authority.userText (a : Authority) : String :=
  match a.password with
  | some p => a.username ++ ":" ++ p ++ "@"
  | none => if a.username.isEmpty then "" else a.username ++ "@"

def Authority.text (a : Authority) : String :=
  a.userText ++ (a.host.map Host.text).getD "" ++
    match a.port with
    | some p => ":" ++ Text.decimal p
    | none => ""

def marked (mark : String) (part : Option String) : String :=
  match part with
  | some t => mark ++ t
  | none => ""

/-- The text of a locator. A path that would read as an authority has a dot before it. -/
def text (u : Url) : String :=
  let place := match u.authority with
    | some a => "//" ++ a.text ++ u.path
    | none => if u.path.startsWith "//" then "/." ++ u.path else u.path
  u.scheme ++ ":" ++ place ++ marked "?" u.query ++ marked "#" u.fragment

def host? (u : Url) : Option Host := u.authority.bind (·.host)

end Url

end ClusterAccess
