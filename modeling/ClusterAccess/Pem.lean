import ClusterAccess.Base64

namespace ClusterAccess.Pem

structure Block where
  label : String
  hasHeader : Bool
  content : List UInt8
  deriving DecidableEq, Repr

/-- The line that begins (`BEGIN`) or ends (`END`) the block of a label. -/
def boundary (word label : String) : List UInt8 :=
  Text.utf8 ("-----" ++ word ++ " " ++ label ++ "-----")

def endMark : List UInt8 := Text.utf8 "-----END "

def beginMark : List UInt8 := Text.utf8 "-----BEGIN "

def dashes : List UInt8 := Text.utf8 "-----"

def lineWidth : Nat := 64

def wrap : Nat → List UInt8 → List UInt8
  | _, [] => [10]
  | 0, b :: bs => 10 :: b :: wrap (lineWidth - 1) bs
  | n + 1, b :: bs => b :: wrap n bs

def wrapped (symbols : List UInt8) : List UInt8 :=
  if symbols.isEmpty then [] else wrap lineWidth symbols

def encode (label : String) (content : List UInt8) : List UInt8 :=
  boundary "BEGIN" label ++ [10] ++ wrapped (Base64.encode content) ++
    boundary "END" label ++ [10]

def linesOf : List UInt8 → List (List UInt8)
  | [] => [[]]
  | b :: bs =>
    match linesOf bs with
    | l :: ls => if b == 10 then [] :: l :: ls else (b :: l) :: ls
    | [] => [[b]]

def trimLine (line : List UInt8) : List UInt8 :=
  (line.reverse.dropWhile fun b => b ≤ 32 || 128 ≤ b).reverse

/-- The bytes that symbols stand for, four symbols for three bytes; padding counts as zero. -/
def groups : List UInt8 → Option (List UInt8)
  | [] => some []
  | a :: b :: c :: d :: rest => do
    let value := fun s => if s == Base64.pad then some 0 else Base64.value? s
    let x ← value a
    let y ← value b
    let z ← value c
    let w ← value d
    let bytes ← groups rest
    pure (UInt8.ofNat (x * 4 + y / 16) :: UInt8.ofNat (y % 16 * 16 + z / 4) ::
      UInt8.ofNat (z % 4 * 64 + w) :: bytes)
  | _ => none

/-- Blanks are passed over, a dash ends the rows, and bits that no byte takes may be set. -/
def content? (text : List UInt8) : Option (List UInt8) :=
  let symbols := (text.filter fun b => !(b == 32 || b == 9 || b == 13)).takeWhile (· != 45)
  let values := symbols.takeWhile (· != Base64.pad)
  let padding := symbols.drop values.length
  if symbols.isEmpty || 2 < padding.length || padding.any (· != Base64.pad) then none
  else (groups symbols).map fun bytes => bytes.take (bytes.length - padding.length)

/-- After a header the content has full lines, but for the last of them. -/
def isEven : List (List UInt8) → Bool
  | [] => true
  | [l] => !l.isEmpty && l.length ≤ lineWidth
  | l :: ls => l.length == lineWidth && isEven ls

/-- A header ends with an empty line, and without one no line has a colon. -/
def body? (label : String) (lines : List (List UInt8)) : Option Block :=
  let first := lines.takeWhile (!·.isEmpty)
  match lines.drop first.length with
  | [] =>
    if first.any (·.contains 58) then none
    else (content? first.flatten).map (⟨label, false, ·⟩)
  | _ :: rest =>
    if isEven rest then (content? rest.flatten).map (⟨label, !first.isEmpty, ·⟩) else none

def opens? (line : List UInt8) : Option String :=
  if beginMark.isPrefixOf line && dashes.isSuffixOf (line.drop beginMark.length) then
    let name := (line.drop beginMark.length).take (line.length - beginMark.length - dashes.length)
    some (Text.decodeUtf8Lossy name)
  else none

/-- Between blocks, or in the block of a label with the lines of it so far, last one first. -/
inductive Position where
  | outside
  | inside (label : String) (before : List (List UInt8))

/-- The blocks of lines in order; `none` stands for a block that cannot be read. -/
def blocksFrom : Position → List (List UInt8) → List (Option Block)
  | .outside, [] => []
  | .inside .., [] => [none]
  | .outside, l :: ls =>
    match opens? l with
    | some label => blocksFrom (.inside label []) ls
    | none => blocksFrom .outside ls
  | .inside label before, l :: ls =>
    if endMark.isPrefixOf l then
      (if l == boundary "END" label then body? label before.reverse else none) ::
        blocksFrom .outside ls
    else blocksFrom (.inside label (l :: before)) ls

def blocks (bytes : List UInt8) : List (Option Block) :=
  blocksFrom .outside ((linesOf bytes).map trimLine)

/-- A file is armoured if a line that begins a block is the first thing in it, after blanks. -/
def isArmoured (bytes : List UInt8) : Bool :=
  (Text.utf8 "-----BEGIN").isPrefixOf
    (bytes.dropWhile fun b => b == 32 || b == 9 || b == 10 || b == 12 || b == 13)

/-- The first block that has one of the labels; the blocks before it have to be readable. -/
def first? (labels : List String) : List (Option Block) → Option (List UInt8)
  | some b :: rest =>
    if labels.contains b.label then if b.hasHeader then none else some b.content
    else first? labels rest
  | _ => none

end ClusterAccess.Pem
