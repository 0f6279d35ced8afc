import ClusterAccess.Text.Blank
import ClusterAccess.Text.Digits

namespace ClusterAccess

structure Ipv6 where
  groups : List UInt16
  length_eq : groups.length = 8
  deriving DecidableEq, Repr

namespace Ipv6

def group? (cs : List Char) : Option UInt16 :=
  if cs.isEmpty || 4 < cs.length then none
  else (cs.foldlM (fun n c => (Text.hexValue? c).map (n * 16 + ·)) 0).map UInt16.ofNat

def octet? (cs : List Char) : Option Nat :=
  if 3 < cs.length || (1 < cs.length && cs.head? == some '0') then none
  else (Text.readDigits? cs).filter (· < 256)

def dotted? (cs : List Char) : Option (List UInt16) := do
  match ← (Text.splitChars (· == '.') cs).mapM octet? with
  | [a, b, c, d] => some [UInt16.ofNat (a * 256 + b), UInt16.ofNat (c * 256 + d)]
  | _ => none

/-- The groups that parts spell, the last of which may be a dotted address. -/
def groups? : List (List Char) → Option (List UInt16)
  | [] => some []
  | [last] => if last.contains '.' then dotted? last else (group? last).map ([·])
  | part :: parts => do
    let g ← group? part
    let gs ← groups? parts
    return g :: gs

def side? (read : List (List Char) → Option (List UInt16)) (cs : List Char) :
    Option (List UInt16) :=
  if cs.isEmpty then some [] else read (Text.splitChars (· == ':') cs)

def splitGap? : List Char → Option (List Char × List Char)
  | [] => none
  | ':' :: ':' :: cs => some ([], cs)
  | c :: cs => (splitGap? cs).map fun (l, r) => (c :: l, r)

def ofGroups? (gs : List UInt16) : Option Ipv6 := if h : gs.length = 8 then some ⟨gs, h⟩ else none

def parse? (cs : List Char) : Option Ipv6 :=
  match splitGap? cs with
  | none => (side? groups? cs).bind ofGroups?
  | some (l, r) => do
    let left ← side? (·.mapM group?) l
    let right ← side? groups? r
    if 7 < left.length + right.length then none
    else ofGroups? (left ++ List.replicate (8 - left.length - right.length) 0 ++ right)

def zeroRun (gs : List UInt16) : Nat := (gs.takeWhile (· == 0)).length

/-- The longest run of zero groups, the first of several: where it starts, and its length. -/
def longestRun (gs : List UInt16) : Nat × Nat :=
  (List.range gs.length).foldl (fun best i =>
    let n := zeroRun (gs.drop i)
    if best.2 < n then (i, n) else best) (0, 0)

def groupsText (gs : List UInt16) : String :=
  ":".intercalate (gs.map fun g => String.ofList (Text.hexDigits g.toNat))

/-- The canonical text of an address: the longest run of two or more zero groups is left out. -/
def text (a : Ipv6) : String :=
  let (start, length) := longestRun a.groups
  if length < 2 then groupsText a.groups
  else groupsText (a.groups.take start) ++ "::" ++ groupsText (a.groups.drop (start + length))

end Ipv6

end ClusterAccess
