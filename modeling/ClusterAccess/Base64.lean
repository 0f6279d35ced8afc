import ClusterAccess.Text.Blank
import ClusterAccess.Text.Digits
import ClusterAccess.Text.Utf8

namespace ClusterAccess.Base64

def pad : UInt8 := 61

def symbol (v : Nat) : UInt8 :=
  if v < 26 then UInt8.ofNat (v + 65)
  else if v < 52 then UInt8.ofNat (v + 71)
  else if v < 62 then UInt8.ofNat (v - 4)
  else if v == 62 then 43
  else 47

def value? (b : UInt8) : Option Nat :=
  let n := b.toNat
  if 65 ≤ n && n ≤ 90 then some (n - 65)
  else if 97 ≤ n && n ≤ 122 then some (n - 71)
  else if 48 ≤ n && n ≤ 57 then some (n + 4)
  else if n == 43 then some 62
  else if n == 47 then some 63
  else none

/-- Three bytes become four symbols; one or two left over are padded to four. -/
def encode : List UInt8 → List UInt8
  | a :: b :: c :: rest =>
    symbol (a.toNat / 4) :: symbol (a.toNat % 4 * 16 + b.toNat / 16) ::
      symbol (b.toNat % 16 * 4 + c.toNat / 64) :: symbol (c.toNat % 64) :: encode rest
  | [a, b] =>
    [symbol (a.toNat / 4), symbol (a.toNat % 4 * 16 + b.toNat / 16), symbol (b.toNat % 16 * 4), pad]
  | [a] => [symbol (a.toNat / 4), symbol (a.toNat % 4 * 16), pad, pad]
  | [] => []

def encodeText (bytes : List UInt8) : String :=
  String.ofList ((encode bytes).map fun b => Char.ofNat b.toNat)

inductive DecodeError where
  | invalidSymbol (offset : Nat) (symbol : UInt8)
  | invalidLength (length : Nat)
  | invalidLastSymbol (offset : Nat) (symbol : UInt8)
  | invalidPadding
  deriving DecidableEq, Repr

def DecodeError.message : DecodeError → String
  | .invalidSymbol offset s =>
    "Invalid symbol " ++ Text.decimal s.toNat ++ ", offset " ++ Text.decimal offset ++ "."
  | .invalidLength n => "Invalid input length: " ++ Text.decimal n
  | .invalidLastSymbol offset s =>
    "Invalid last symbol " ++ Text.decimal s.toNat ++ ", offset " ++ Text.decimal offset ++ "."
  | .invalidPadding => "Invalid padding"

def valueAt (offset : Nat) (b : UInt8) : Except DecodeError Nat :=
  match value? b with
  | some v => .ok v
  | none => .error (.invalidSymbol offset b)

def lastValues (offset : Nat) : List UInt8 → Except DecodeError (List Nat × Nat)
  | [] => .ok ([], 0)
  | b :: bs =>
    if b == pad then
      if bs.all (· == pad) then .ok ([], bs.length + 1) else .error (.invalidSymbol offset pad)
    else do
      let v ← valueAt offset b
      let (vs, padding) ← lastValues (offset + 1) bs
      pure (v :: vs, padding)

def earlyPad? (offset : Nat) : List UInt8 → Option DecodeError
  | a :: rest =>
    if a == pad then some (.invalidSymbol offset pad)
    else
      match value? a, rest with
      | some _, b :: _ => if b == pad then some (.invalidSymbol (offset + 1) pad) else none
      | _, _ => none
  | [] => none

/-- Decodes a last group, in which no bit may be set that no byte takes. -/
def decodeLast (offset : Nat) (group : List UInt8) : Except DecodeError (List UInt8) :=
  match earlyPad? offset group with
  | some e => .error e
  | none => do
    let (values, padding) ← lastValues offset group
    match values with
    | [] => if group.isEmpty then pure [] else .error (.invalidLength offset)
    | [_] => .error (.invalidLength (offset + 1))
    | a :: b :: more =>
      if (values.length + padding) % 4 != 0 then .error .invalidPadding
      else
        match more with
        | [] =>
          if b % 16 != 0 then .error (.invalidLastSymbol (offset + 1) (symbol b))
          else pure [UInt8.ofNat (a * 4 + b / 16)]
        | [c] =>
          if c % 4 != 0 then .error (.invalidLastSymbol (offset + 2) (symbol c))
          else pure [UInt8.ofNat (a * 4 + b / 16), UInt8.ofNat (b % 16 * 16 + c / 4)]
        | c :: d :: _ =>
          pure [UInt8.ofNat (a * 4 + b / 16), UInt8.ofNat (b % 16 * 16 + c / 4),
            UInt8.ofNat (c % 4 * 64 + d)]

/-- Decodes groups of four symbols, the last of which may be short or padded. -/
def decodeGroups (offset : Nat) : List UInt8 → Except DecodeError (List UInt8)
  | a :: b :: c :: d :: e :: rest => do
    let x ← valueAt offset a
    let y ← valueAt (offset + 1) b
    let z ← valueAt (offset + 2) c
    let w ← valueAt (offset + 3) d
    let bytes ← decodeGroups (offset + 4) (e :: rest)
    pure (UInt8.ofNat (x * 4 + y / 16) :: UInt8.ofNat (y % 16 * 16 + z / 4) ::
      UInt8.ofNat (z % 4 * 64 + w) :: bytes)
  | group => decodeLast offset group

/-- A symbol that stands alone after whole groups and is none of the alphabet. -/
def strayEnd? (symbols : List UInt8) : Option DecodeError :=
  if symbols.length % 4 == 1 then
    match symbols.getLast? with
    | some b => if b != pad && (value? b).isNone then
        some (.invalidSymbol (symbols.length - 1) b) else none
    | none => none
  else none

/-- The bytes that the symbols stand for. A foreign symbol alone at the end is reported first. -/
def decode (symbols : List UInt8) : Except DecodeError (List UInt8) :=
  match strayEnd? symbols with
  | some e => .error e
  | none => decodeGroups 0 symbols

/-- The bytes of a base64 text that may be broken up by blanks; offsets leave the blanks out. -/
def decodeText (s : String) : Except DecodeError (List UInt8) :=
  decode (Text.utf8 (Text.withoutBlanks s))

end ClusterAccess.Base64
