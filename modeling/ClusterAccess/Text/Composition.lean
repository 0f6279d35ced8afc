import ClusterAccess.Text.Composition.Table

namespace ClusterAccess.Text

/-- The class of a mark, and zero for all that is no mark. -/
def markClass (c : Char) : Nat :=
  if c.toNat < 0x300 then 0 else ((markClasses.find? (·.2.contains c)).map (·.1)).getD 0

def syllableParts? (c : Char) : Option (List Char) :=
  if 0xAC00 ≤ c.toNat && c.toNat ≤ 0xD7A3 then
    let i := c.toNat - 0xAC00
    let open' := [Char.ofNat (0x1100 + i / 588), Char.ofNat (0x1161 + i % 588 / 28)]
    some (if i % 28 == 0 then open' else open' ++ [Char.ofNat (0x11A7 + i % 28)])
  else none

def syllable? (a b : Char) : Option Char :=
  if 0x1100 ≤ a.toNat && a.toNat < 0x1113 && 0x1161 ≤ b.toNat && b.toNat < 0x1176 then
    some (Char.ofNat (0xAC00 + (a.toNat - 0x1100) * 588 + (b.toNat - 0x1161) * 28))
  else if 0xAC00 ≤ a.toNat && a.toNat ≤ 0xD7A3 && (a.toNat - 0xAC00) % 28 == 0 &&
      0x11A7 < b.toNat && b.toNat < 0x11C3 then
    some (Char.ofNat (a.toNat + (b.toNat - 0x11A7)))
  else none

def parts (c : Char) : List Char :=
  if c.toNat < 0xC0 then [c]
  else ((syllableParts? c).orElse fun _ =>
    (composites.image? c).orElse fun _ => singletons.image? c).getD [c]

/-- Takes characters apart until nothing has parts: no character needs more than four rounds. -/
def takeApart (cs : List Char) : List Char := Nat.repeat (·.flatMap parts) 4 cs

/-- Puts a character behind a row that is given from its end, before the marks of higher classes. -/
def placeMark (c : Char) : List Char → List Char
  | [] => [c]
  | d :: ds =>
    if markClass c ≠ 0 && markClass c < markClass d then d :: placeMark c ds else c :: d :: ds

def sortMarks (cs : List Char) : List Char := (cs.foldl (fun row c => placeMark c row) []).reverse

def composite? (a b : Char) : Option Char :=
  (syllable? a b).orElse fun _ =>
    (composites.find? (·.images == [a.toNat, b.toNat])).map fun r => Char.ofNat r.first

/-- A mark reaches the letter only past marks of lower classes. -/
def joinMarks (letter : Char) (behind : List Char) : List Char → List Char
  | [] => letter :: behind.reverse
  | c :: cs =>
    let reaches := match behind with
      | [] => true
      | d :: _ => markClass d < markClass c
    match if reaches then composite? letter c else none with
    | some made => joinMarks made behind cs
    | none =>
      if markClass c == 0 then letter :: behind.reverse ++ joinMarks c [] cs
      else joinMarks letter (c :: behind) cs

def compose : List Char → List Char
  | [] => []
  | c :: cs => if markClass c == 0 then joinMarks c [] cs else c :: compose cs

def composed (cs : List Char) : List Char :=
  if cs.all (·.toNat < 0x300) then cs else compose (sortMarks (takeApart cs))

end ClusterAccess.Text
