import ClusterAccess.Time.Calendar

namespace ClusterAccess.Time

/-- A length of time in nanoseconds, of either sign. -/
structure Span where
  nanos : Int
  deriving DecidableEq, Repr

def Span.ofSeconds (s : Int) : Span := ⟨s * 1000000000⟩

/-- Spans have up to 2⁶³ - 1 milliseconds. -/
def Span.maxSeconds : Int := (Nat.pow 2 63 - 1) / 1000

def Span.ofSeconds? (s : Int) : Option Span :=
  if -maxSeconds ≤ s && s ≤ maxSeconds then some (ofSeconds s) else none

def Span.seconds (s : Span) : Int := s.nanos.tdiv 1000000000

def Span.subsecond (s : Span) : Int := s.nanos.tmod 1000000000

/-- A day since 1970-01-01, a second and a nanosecond, which reaches 2·10⁹ in a leap second. -/
structure Instant where
  day : Int
  second : Nat
  nano : Nat
  deriving DecidableEq, Repr

def Instant.inRange (t : Instant) : Bool := firstDay ≤ t.day && t.day ≤ lastDay

def Instant.unixSeconds (t : Instant) : Int := t.day * 86400 + t.second

/-- A leap second lies between its own second and the next. -/
def Instant.before (t u : Instant) : Bool :=
  t.unixSeconds < u.unixSeconds || (t.unixSeconds == u.unixSeconds && t.nano < u.nano)

def Instant.ofUnixSeconds (s : Int) : Instant := ⟨s / 86400, (s % 86400).toNat, 0⟩

/-- On the way forward a leap second counts as its own second, on the way back as the next. -/
def Instant.leaveLeap (t : Instant) (seconds subsecond : Int) : Option (Int × Int) :=
  if t.nano < 1000000000 then some (t.second, t.nano)
  else if seconds > 0 || (subsecond > 0 && (t.nano : Int) ≥ 2000000000 - subsecond) then
    some (t.second, t.nano - 1000000000)
  else if seconds < 0 then some (t.second + 1, t.nano - 1000000000)
  else none

/-- A step that stays inside a leap second moves only its nanosecond. -/
def Instant.add? (t : Instant) (s : Span) : Option Instant :=
  let seconds := s.seconds
  let subsecond := s.subsecond
  match t.leaveLeap seconds subsecond with
  | none => some ⟨t.day, t.second, (t.nano + subsecond).toNat⟩
  | some (second, nano) =>
    let nano := nano + subsecond
    let total := second + seconds + nano / 1000000000
    let u : Instant := ⟨t.day + total / 86400, (total % 86400).toNat, (nano % 1000000000).toNat⟩
    if u.inRange then some u else none

def Instant.sub? (t : Instant) (s : Span) : Option Instant := t.add? ⟨-s.nanos⟩

/-- A wall clock reading with a fraction of a second; second 60 is a leap second. -/
structure Reading where
  date : Date
  hour : Nat
  minute : Nat
  second : Nat
  nano : Nat
  deriving DecidableEq, Repr

def Reading.isValid (r : Reading) : Bool :=
  r.date.isValid && r.hour < 24 && r.minute < 60 && r.second ≤ 60 && r.nano < 1000000000

def Instant.ofReading? (r : Reading) (offset : Int) : Option Instant :=
  if !r.isValid then none
  else
    let leap := r.second == 60
    let second : Int := r.hour * 3600 + r.minute * 60 + (if leap then 59 else r.second) - offset
    let t : Instant := ⟨r.date.toDays + second / 86400, (second % 86400).toNat,
      if leap then r.nano + 1000000000 else r.nano⟩
    if firstDay ≤ r.date.toDays && r.date.toDays ≤ lastDay && t.inRange then some t else none

def Instant.toReading (t : Instant) : Reading :=
  let leap := t.nano / 1000000000
  ⟨Date.ofDays t.day, t.second / 3600, t.second / 60 % 60, t.second % 60 + leap,
    t.nano % 1000000000⟩

end ClusterAccess.Time
