import ClusterAccess.Text.Blank
import ClusterAccess.Text.Digits

namespace ClusterAccess.Text

/-- A class of characters as a list of closed ranges of code points. -/
abbrev Ranges := Array (Nat × Nat)

def Ranges.contains (r : Ranges) (c : Char) : Bool :=
  r.any fun (lo, hi) => lo ≤ c.toNat && c.toNat ≤ hi

def tableWords (table : String) : List (List Char) :=
  (splitChars (fun c => c == ' ' || c == '\n') table.toList).filter (!·.isEmpty)

def hexNumber (cs : List Char) : Nat := cs.foldl (fun n c => 16 * n + (hexValue? c).getD 0) 0

def rangeOfWord (word : List Char) : Nat × Nat :=
  match splitChars (· == '-') word with
  | [lo, hi] => (hexNumber lo, hexNumber hi)
  | _ => (hexNumber word, hexNumber word)

def Ranges.ofTable (table : String) : Ranges := ((tableWords table).map rangeOfWord).toArray

structure Replacement where
  first : Nat
  last : Nat
  step : Nat
  images : List Nat
  deriving Inhabited

def Replacement.image? (r : Replacement) (c : Char) : Option (List Char) :=
  if r.first ≤ c.toNat && c.toNat ≤ r.last && (c.toNat - r.first) % r.step == 0 then
    match r.images with
    | [n] => some [Char.ofNat (n + (c.toNat - r.first))]
    | ns => some (ns.map Char.ofNat)
  else none

def Replacement.ofWord (word : List Char) : Replacement :=
  match splitChars (· == '>') word with
  | [source, images] =>
    let (range, step) := match splitChars (· == '/') source with
      | [range, step] => (range, hexNumber step)
      | _ => (source, 1)
    let (first, last) := rangeOfWord range
    ⟨first, last, step, (splitChars (· == ',') images).map hexNumber⟩
  | _ => ⟨1, 0, 1, []⟩

abbrev Replacements := Array Replacement

def Replacements.ofTable (table : String) : Replacements :=
  ((tableWords table).map Replacement.ofWord).toArray

def Replacements.image? (rs : Replacements) (c : Char) : Option (List Char) :=
  rs.findSome? (·.image? c)

example : (Replacement.ofWord "41-5A>61".toList).image? 'Q' = some ['q'] := by decide

example : (Replacement.ofWord "100-12E/2>101".toList).image? 'ą' = none := by decide

example : (Replacement.ofWord "BC>31,2044,34".toList).image? '¼' = some ['1', '⁄', '4'] := by decide

end ClusterAccess.Text
