import ClusterAccess.Text.Digits

namespace ClusterAccess.Punycode

def digitChar (d : Nat) : Char := Char.ofNat (if d < 26 then 97 + d else 22 + d)

def digitValue? (c : Char) : Option Nat :=
  if 'a' ≤ c && c ≤ 'z' then some (c.toNat - 97)
  else if 'A' ≤ c && c ≤ 'Z' then some (c.toNat - 65)
  else if '0' ≤ c && c ≤ '9' then some (c.toNat - 22)
  else none

def threshold (place bias : Nat) : Nat := min 26 (max 1 (place - bias))

theorem threshold_pos (place bias : Nat) : 0 < threshold place bias := by
  unfold threshold; omega

def scaleDown (delta : Nat) : Nat × Nat :=
  if 455 < delta then
    let (rest, steps) := scaleDown (delta / 35)
    (rest, steps + 1)
  else (delta, 0)
termination_by delta
decreasing_by omega

def adapt (delta known : Nat) (isFirst : Bool) : Nat :=
  let delta := if isFirst then delta / 700 else delta / 2
  let (rest, steps) := scaleDown (delta + delta / known)
  36 * steps + 36 * rest / (rest + 38)

def distanceDigits (bias place n : Nat) : List Char :=
  let t := threshold place bias
  if n < t then [digitChar n]
  else digitChar (t + (n - t) % (36 - t)) :: distanceDigits bias (place + 36) ((n - t) / (36 - t))
termination_by n
decreasing_by
  have h₁ := threshold_pos place bias
  have h₂ := Nat.div_le_self (n - threshold place bias) (36 - threshold place bias)
  omega

def readDistance? (bias : Nat) (place weight : Nat) : List Char → Option (Nat × List Char)
  | [] => none
  | c :: cs => do
    let d ← digitValue? c
    let t := threshold place bias
    if d < t then return (d * weight, cs)
    let (n, rest) ← readDistance? bias (place + 36) (weight * (36 - t)) cs
    return (d * weight + n, rest)

theorem readDistance?_length {bias place weight n : Nat} {cs rest : List Char}
    (h : readDistance? bias place weight cs = some (n, rest)) : rest.length < cs.length := by
  induction cs generalizing place weight n with
  | nil => simp [readDistance?] at h
  | cons c cs ih =>
    simp only [readDistance?, Option.bind_eq_bind, Option.bind_eq_some_iff] at h
    obtain ⟨d, -, h⟩ := h
    split at h
    · obtain ⟨-, rfl⟩ : _ ∧ cs = rest := by simpa using h
      simp
    · simp only [Option.bind_eq_some_iff] at h
      obtain ⟨⟨m, r⟩, hr, h⟩ := h
      obtain ⟨-, rfl⟩ : _ ∧ r = rest := by simpa using h
      have := ih hr
      simp; omega

structure Writer where
  digits : List Char
  distance : Nat
  bias : Nat
  known : Nat
  basic : Nat

/-- Passes a character of the label while the characters of one code point are written. -/
def Writer.pass (point : Nat) (w : Writer) (c : Char) : Writer :=
  if c.toNat < point then { w with distance := w.distance + 1 }
  else if c.toNat == point then
    { w with
      digits := w.digits ++ distanceDigits w.bias 36 w.distance
      distance := 0
      bias := adapt w.distance (w.known + 1) (w.known == w.basic)
      known := w.known + 1 }
  else w

def Writer.points (label : List Char) (w : Writer) (last : Nat) : List Nat → List Char
  | [] => w.digits
  | p :: ps =>
    let w := { w with distance := w.distance + (p - last) * (w.known + 1) }
    let w := label.foldl (Writer.pass p) w
    Writer.points label { w with distance := w.distance + 1 } (p + 1) ps

def encode (label : List Char) : List Char :=
  let basic := label.filter (·.toNat < 128)
  let points := ((label.filter (128 ≤ ·.toNat)).map Char.toNat).mergeSort.eraseDups
  basic ++ (if basic.isEmpty then [] else ['-']) ++
    Writer.points label ⟨[], 0, 72, basic.length, basic.length⟩ 128 points

def char? (n : Nat) : Option Char := if n.isValidChar then some (Char.ofNat n) else none

def insertAll (row : List Char) (point place bias : Nat) (isFirst : Bool) (cs : List Char) :
    Option (List Char) :=
  match cs with
  | [] => some row
  | c :: cs' =>
    match _h : readDistance? bias 36 1 (c :: cs') with
    | none => none
    | some (distance, rest) =>
      let size := row.length + 1
      let point := point + (place + distance) / size
      let place := (place + distance) % size
      match char? point with
      | none => none
      | some made =>
        insertAll (row.take place ++ made :: row.drop place) point (place + 1)
          (adapt distance size isFirst) false rest
termination_by cs.length
decreasing_by exact readDistance?_length (by assumption)

/-- The last hyphen ends the ASCII characters, unless the spelling starts with it. -/
def decode? (cs : List Char) : Option (List Char) :=
  let tail := (cs.reverse.takeWhile (· != '-')).reverse
  let basic := cs.take (cs.length - tail.length - 1)
  insertAll basic 128 0 72 true (if basic.isEmpty then cs else tail)

end ClusterAccess.Punycode
