import ClusterAccess.Json.Basic
import ClusterAccess.Text.Blank

namespace ClusterAccess

def Json.maxIndex : Nat := Nat.pow 2 64 - 1

/-- The index that a text spells: digits after an optional plus sign. -/
def Json.index? (s : String) : Option Nat :=
  let ds := match s.toList with
    | '+' :: ds => ds
    | ds => ds
  (Text.readDigits? ds).filter (· ≤ maxIndex)

def Json.child? (v : Json) (segment : String) : Option Json :=
  match v with
  | .object members => members.lookup segment
  | .array items => (index? segment).bind (items[·]?)
  | _ => none

namespace Selector

def withoutBraces (cs : List Char) : List Char :=
  match cs, cs.reverse with
  | '{' :: _ :: _, '}' :: _ => cs.tail.dropLast
  | _, _ => cs

/-- The segments of a selector: between slashes if it has any, or else between dots. -/
def segments (selector : String) : List String :=
  let inner := (withoutBraces (Text.trimChars selector.toList)).dropWhile (· == '.')
  let separator := if inner.contains '/' then '/' else '.'
  ((Text.splitChars (· == separator) inner).filter (!·.isEmpty)).map String.ofList

def follow? (document : Json) (segments : List String) : Option Json :=
  segments.foldlM Json.child? document

theorem follow?_cons (d : Json) (segment : String) (segments : List String) :
    follow? d (segment :: segments) = (d.child? segment).bind (follow? · segments) := rfl

def select? (document : Json) (selector : String) : Option Json :=
  follow? document (segments selector)

end Selector

end ClusterAccess
