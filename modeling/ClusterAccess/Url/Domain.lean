import ClusterAccess.Text.Blank
import ClusterAccess.Text.Composition
import ClusterAccess.Text.Utf8
import ClusterAccess.Url.Domain.Direction
import ClusterAccess.Url.Domain.Joining
import ClusterAccess.Url.Domain.Mapping
import ClusterAccess.Url.Punycode

namespace ClusterAccess.Domain

def isForbidden (c : Char) : Bool := c ≤ ' ' || c == '\x7f' || "%#/:<>?@[\\]^|".toList.contains c

def isAscii (cs : List Char) : Bool := cs.all (·.toNat < 128)

def spelledMark : List Char := "xn--".toList

def read? (cs : List Char) : Option (List Char) :=
  (cs.mapM reading?).map fun parts => Text.composed parts.flatten

/-- Whether an invisible joiner may stand here; the characters before are given from the last. -/
def mayStand (asks : Bool) (before after : List Char) : Bool :=
  match before with
  | [] => false
  | c :: _ =>
    Text.markClass c == 9 ||
      (!asks &&
        (match before.dropWhile joinsThrough.contains with
          | d :: _ => joinsNext.contains d
          | [] => false) &&
        match after.dropWhile joinsThrough.contains with
          | d :: _ => joinsLast.contains d
          | [] => false)

def joinsWell (before : List Char) : List Char → Bool
  | [] => true
  | c :: cs =>
    (c.toNat != 0x200C || mayStand false before cs) &&
      (c.toNat != 0x200D || mayStand true before cs) && joinsWell (c :: before) cs

def isLabel (label : List Char) : Bool :=
  read? label == some label && !label.any isForbidden && joinsWell [] label &&
    match label with
    | [] => true
    | c :: _ => !combining.contains c

/-- The label that a row of lower-case characters writes, which may be a spelling in ASCII. -/
def label? (cs : List Char) : Option (List Char) :=
  if spelledMark.isPrefixOf cs then
    match if isAscii cs then Punycode.decode? (cs.drop 4) else none with
    | some label => if isAscii label || !isLabel label then none else some label
    | none => none
  else if isLabel cs then some cs
  else none

def spelled (label : List Char) : List Char :=
  if isAscii label then label else spelledMark ++ Punycode.encode label

/-- The lookup form of a domain with characters beyond ASCII. -/
def general? (cs : List Char) : Option (List Char) := do
  let labels ← (Text.splitChars (· == '.') (← read? cs)).mapM label?
  if labels.any hasRightToLeft && !labels.all fun l => keepsOrder (l.map Direction.ofChar) then
    none
  return ['.'].intercalate (labels.map spelled)

/-- The lookup form of a domain, which is its lower case if it is written in ASCII only. -/
def lookup? (cs : List Char) : Option (List Char) :=
  let lower := cs.map Char.toLower
  if isAscii cs && !(Text.splitChars (· == '.') lower).any spelledMark.isPrefixOf then
    if cs.any isForbidden then none else some lower
  else general? cs

end ClusterAccess.Domain
