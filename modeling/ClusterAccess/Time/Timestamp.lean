import ClusterAccess.Text.Blank
import ClusterAccess.Text.Digits
import ClusterAccess.Time.Instant

namespace ClusterAccess.Time

open Text

def skip? (c : Char) : List Char → Option (List Char)
  | d :: cs => if c == d then some cs else none
  | [] => none

/-- Reads a number of at least one and at most `width` digits. -/
def readNumber? (width : Nat) (cs : List Char) : Option (Nat × List Char) :=
  let ds := (cs.take width).takeWhile isDigit
  if ds.isEmpty then none else some (digitsValue ds, cs.drop ds.length)

def readFixed? (width : Nat) (cs : List Char) : Option (Nat × List Char) :=
  let ds := (cs.take width).takeWhile isDigit
  if ds.length == width then some (digitsValue ds, cs.drop width) else none

/-- Reads an optional fraction of a second in nanoseconds; digits after the ninth are dropped. -/
def readFraction? : List Char → Option (Nat × List Char)
  | '.' :: cs =>
    let ds := cs.takeWhile isDigit
    if ds.isEmpty then none
    else some (digitsValue (ds.take 9) * Nat.pow 10 (9 - (ds.take 9).length), cs.drop ds.length)
  | cs => some (0, cs)

/-- Reads the sign of an offset: true for clocks behind universal time. -/
def readSign? : List Char → Option (Bool × List Char)
  | '+' :: cs => some (false, cs)
  | '-' :: cs => some (true, cs)
  | '\u2212' :: cs => some (true, cs)
  | _ => none

def readOffset? : List Char → Option (Int × List Char)
  | 'Z' :: cs => some (0, cs)
  | 'z' :: cs => some (0, cs)
  | cs => do
    let (behind, cs) ← readSign? cs
    let (hours, cs) ← readFixed? 2 cs
    let cs ← skip? ':' cs
    let (minutes, cs) ← readFixed? 2 cs
    if hours > 23 || minutes > 59 then none
    else
      let seconds : Int := hours * 3600 + minutes * 60
      some (if behind then -seconds else seconds, cs)

def readWithOffset? (cs : List Char) : Option Instant := do
  let (year, cs) ← readFixed? 4 cs
  let (month, cs) ← readFixed? 2 (← skip? '-' cs)
  let (day, cs) ← readFixed? 2 (← skip? '-' cs)
  let cs ← (skip? 'T' cs <|> skip? 't' cs <|> skip? ' ' cs)
  let (hour, cs) ← readFixed? 2 cs
  let (minute, cs) ← readFixed? 2 (← skip? ':' cs)
  let (second, cs) ← readFixed? 2 (← skip? ':' cs)
  let (nano, cs) ← readFraction? cs
  let (offset, cs) ← readOffset? cs
  if cs.isEmpty then Instant.ofReading? ⟨⟨year, month, day⟩, hour, minute, second, nano⟩ offset
  else none

/-- Reads a year: four digits at most, or any number of them after a sign. -/
def readYear? (cs : List Char) : Option (Int × List Char) :=
  match trimLeft cs with
  | '-' :: cs => do
    let (n, cs) ← readNumber? cs.length cs
    pure (-(n : Int), cs)
  | '+' :: cs => do
    let (n, cs) ← readNumber? cs.length cs
    pure (n, cs)
  | cs => do
    let (n, cs) ← readNumber? 4 cs
    pure (n, cs)

def readField? (cs : List Char) : Option (Nat × List Char) := readNumber? 2 (trimLeft cs)

/-- Reads a date and a time of day without an offset; blanks may stand before each number. -/
def readPlain? (cs : List Char) : Option Instant := do
  let (year, cs) ← readYear? cs
  let (month, cs) ← readField? (← skip? '-' cs)
  let (day, cs) ← readField? (← skip? '-' cs)
  let (hour, cs) ← readField? cs
  let (minute, cs) ← readField? (← skip? ':' cs)
  let (second, cs) ← readField? (← skip? ':' cs)
  if cs.isEmpty then Instant.ofReading? ⟨⟨year, month, day⟩, hour, minute, second, 0⟩ 0 else none

def parseTimestamp (s : String) : Option Instant :=
  let cs := trimChars s.toList
  readWithOffset? cs <|> readPlain? cs

/-- Four digits for the years 0 to 9999, and a sign before four or more for all others. -/
def yearDigits (year : Int) : List Char :=
  if 0 ≤ year && year ≤ 9999 then paddedDigits 4 year.toNat
  else (if year < 0 then '-' else '+') :: paddedDigits 4 year.natAbs

/-- No fraction for a whole second, else three, six or nine digits, the fewest that are exact. -/
def fractionDigits (nano : Nat) : List Char :=
  if nano == 0 then []
  else if nano % 1000000 == 0 then '.' :: paddedDigits 3 (nano / 1000000)
  else if nano % 1000 == 0 then '.' :: paddedDigits 6 (nano / 1000)
  else '.' :: paddedDigits 9 nano

def Reading.chars (r : Reading) : List Char :=
  yearDigits r.date.year ++ '-' :: paddedDigits 2 r.date.month ++ '-' :: paddedDigits 2 r.date.day ++
    'T' :: paddedDigits 2 r.hour ++ ':' :: paddedDigits 2 r.minute ++ ':' ::
    paddedDigits 2 r.second ++ fractionDigits r.nano

def Instant.timestamp (t : Instant) : String :=
  String.ofList (t.toReading.chars ++ "+00:00".toList)

def Instant.timestampZ (t : Instant) : String := String.ofList (t.toReading.chars ++ ['Z'])

end ClusterAccess.Time
