namespace ClusterAccess.Text

def utf8Chars (cs : List Char) : List UInt8 := cs.flatMap String.utf8EncodeChar

def utf8 (s : String) : List UInt8 := utf8Chars s.toList

/-- The bits so far, how many bytes are owed, and the range of the next of them. -/
structure PartialChar where
  bits : Nat
  owed : Nat
  lo : UInt8
  hi : UInt8

/-- What a byte means where a character may start. -/
inductive FirstByte where
  | whole (c : Char)
  | lead (p : PartialChar)
  | stray

/-- Classes of first bytes; the narrowed ranges keep out overlong forms and surrogates. -/
def FirstByte.of (b : UInt8) : FirstByte :=
  let n := b.toNat
  if n < 0x80 then .whole (Char.ofNat n)
  else if n < 0xC2 then .stray
  else if n < 0xE0 then .lead ⟨n - 0xC0, 1, 0x80, 0xBF⟩
  else if n < 0xF0 then
    .lead ⟨n - 0xE0, 2, if n == 0xE0 then 0xA0 else 0x80, if n == 0xED then 0x9F else 0xBF⟩
  else if n < 0xF5 then
    .lead ⟨n - 0xF0, 3, if n == 0xF0 then 0x90 else 0x80, if n == 0xF4 then 0x8F else 0xBF⟩
  else .stray

/-- Reads bytes as UTF-8, each maximal part that begins no character as `none`. -/
def decodeFrom : Option PartialChar → List UInt8 → List (Option Char)
  | none, [] => []
  | some _, [] => [none]
  | none, b :: bs =>
    match FirstByte.of b with
    | .whole c => some c :: decodeFrom none bs
    | .lead p => decodeFrom (some p) bs
    | .stray => none :: decodeFrom none bs
  | some p, b :: bs =>
    if p.lo ≤ b && b ≤ p.hi then
      let bits := p.bits * 64 + b.toNat % 64
      if p.owed ≤ 1 then some (Char.ofNat bits) :: decodeFrom none bs
      else decodeFrom (some ⟨bits, p.owed - 1, 0x80, 0xBF⟩) bs
    else
      match FirstByte.of b with
      | .whole c => none :: some c :: decodeFrom none bs
      | .lead q => none :: decodeFrom (some q) bs
      | .stray => none :: none :: decodeFrom none bs

def decodeUtf8? (bs : List UInt8) : Option String :=
  ((decodeFrom none bs).mapM id).map String.ofList

/-- The text read from bytes, with a replacement character for each part that begins none. -/
def decodeUtf8Lossy (bs : List UInt8) : String :=
  String.ofList ((decodeFrom none bs).map fun c => c.getD (Char.ofNat 0xFFFD))

end ClusterAccess.Text
