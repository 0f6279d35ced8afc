import ClusterAccess.Text.Digits
import ClusterAccess.Text.Utf8

namespace ClusterAccess.Shell

abbrev Bytes := List UInt8

def letterEscape? (c : Char) : Option UInt8 :=
  match c with
  | 'a' => some 7
  | 'b' => some 8
  | 't' => some 9
  | 'n' => some 10
  | 'v' => some 11
  | 'f' => some 12
  | 'r' => some 13
  | '\\' => some 92
  | _ => none

def octalDigits (most : Nat) (cs : List Char) : List Char :=
  (cs.take most).takeWhile fun c => '0' ≤ c && c ≤ '7'

def octalByte (digits : List Char) : UInt8 := UInt8.ofNat (Nat.ofDigitChars 8 digits 0)

/-- In a text for `echo` octal numbers begin with a zero. -/
def readEscape? (isEcho : Bool) (cs : List Char) : Option (UInt8 × List Char) :=
  match cs with
  | [] => none
  | c :: rest =>
    match letterEscape? c with
    | some b => some (b, rest)
    | none =>
      if isEcho then
        if c == '0' then
          let ds := octalDigits 3 rest
          some (octalByte ds, rest.drop ds.length)
        else none
      else
        let ds := octalDigits 3 cs
        if ds.isEmpty then none else some (octalByte ds, cs.drop ds.length)

/-- The bytes of a text with escapes, and whether all of it was written: `\c` ends the output. -/
def unescape (isEcho : Bool) : Nat → List Char → Bytes × Bool
  | 0, _ => ([], true)
  | _, [] => ([], true)
  | fuel + 1, '\\' :: cs =>
    if cs.head? == some 'c' then ([], false)
    else
      let (b, rest) := match readEscape? isEcho cs with
        | some (b, rest) => (b, rest)
        | none => (92, cs)
      let (bs, all) := unescape isEcho fuel rest
      (b :: bs, all)
  | fuel + 1, c :: cs =>
    let (bs, all) := unescape isEcho fuel cs
    (String.utf8EncodeChar c ++ bs, all)

/-- What `echo` writes of its arguments; `readsEscapes` is about its dialect. -/
def echo (readsEscapes : Bool) (args : List Bytes) : Bytes :=
  let (isLine, args) := match args with
    | [45, 110] :: rest => (false, rest)
    | _ => (true, args)
  let text := List.intercalate [32] args
  let (text, all) :=
    if readsEscapes then
      let cs := (Text.decodeUtf8Lossy text).toList
      unescape true (cs.length + 1) cs
    else (text, true)
  if isLine && all then text ++ [10] else text

structure Field where
  flags : List Char
  width : Nat
  precision : Option Nat
  deriving DecidableEq, Repr, Inhabited

/-- Fills a field up to its width, after the sign if it is filled with zeros. -/
def Field.fill (f : Field) (body : Bytes) : Bytes :=
  let missing := f.width - body.length
  if f.flags.contains '-' then body ++ List.replicate missing 32
  else if f.flags.contains '0' then
    match body with
    | 45 :: digits => 45 :: List.replicate missing 48 ++ digits
    | _ => List.replicate missing 48 ++ body
  else List.replicate missing 32 ++ body

/-- Decimal, octal after a zero, hexadecimal after `0x`, or the code after a quote. -/
def readNumber? (arg : Bytes) : Option Int :=
  let natural? := fun (cs : List Char) =>
    match cs with
    | '0' :: 'x' :: ds =>
      if ds.isEmpty then none
      else (ds.mapM Text.hexValue?).map fun (vs : List Nat) => vs.foldl (fun n v => 16 * n + v) 0
    | '0' :: ds =>
      if (octalDigits ds.length ds).length == ds.length then some (Nat.ofDigitChars 8 ds 0) else none
    | ds => Text.readDigits? ds
  match (Text.decodeUtf8Lossy arg).toList with
  | [] => some 0
  | '-' :: cs => (natural? cs).map fun n => -(n : Int)
  | '+' :: cs => (natural? cs).map Int.ofNat
  | '\'' :: c :: _ => some c.toNat
  | '"' :: c :: _ => some c.toNat
  | cs => (natural? cs).map Int.ofNat

def numberText (base : Nat) (isUpper : Bool) (f : Field) (n : Int) : Bytes :=
  let ds := Nat.toDigits base n.natAbs
  let ds := List.replicate (f.precision.getD 0 - ds.length) '0' ++ ds
  let sign := if n < 0 then ['-'] else if f.flags.contains '+' then ['+'] else []
  Text.utf8Chars (sign ++ if isUpper then ds.map Char.toUpper else ds)

/-- A pattern as it is being filled. -/
structure Filling where
  written : Bytes
  args : List Bytes
  asked : Bool
  goesOn : Bool
  fits : Bool
  deriving Inhabited

namespace Filling

def next (s : Filling) : Bytes × Filling :=
  match s.args with
  | a :: rest => (a, { s with args := rest, asked := true })
  | [] => ([], { s with asked := true })

def write (s : Filling) (bs : Bytes) : Filling := { s with written := s.written ++ bs }

def writeNumber (s : Filling) (f : Field) (base : Nat) (isUpper : Bool) : Filling :=
  let (a, s) := s.next
  let n := readNumber? a
  let body := numberText base isUpper f (n.getD 0)
  { s.write (f.fill body) with fits := s.fits && n.isSome }

def writeField (s : Filling) (f : Field) (letter : Char) : Filling :=
  match letter with
  | '%' => s.write [37]
  | 's' =>
    let (a, s) := s.next
    s.write (f.fill (a.take (f.precision.getD a.length)))
  | 'b' =>
    let (a, s) := s.next
    let cs := (Text.decodeUtf8Lossy a).toList
    let (bs, all) := unescape true (cs.length + 1) cs
    { s.write (f.fill bs) with goesOn := all }
  | 'c' =>
    let (a, s) := s.next
    s.write (f.fill (a.take 1))
  | 'd' | 'i' | 'u' => s.writeNumber f 10 false
  | 'o' => s.writeNumber f 8 false
  | 'x' => s.writeNumber f 16 false
  | 'X' => s.writeNumber f 16 true
  | c => { s.write (Text.utf8Chars ['%', c]) with fits := false, goesOn := false }

def readField (s : Filling) (cs : List Char) : Field × Filling × List Char :=
  let flags := cs.takeWhile ("-+ 0#".toList.contains ·)
  let cs := cs.drop flags.length
  let number := fun (s : Filling) (cs : List Char) =>
    match cs with
    | '*' :: rest =>
      let (a, s) := s.next
      (((readNumber? a).getD 0).toNat, s, rest)
    | _ =>
      let ds := cs.takeWhile Text.isDigit
      (Text.digitsValue ds, s, cs.drop ds.length)
  let (width, s, cs) := number s cs
  match cs with
  | '.' :: cs =>
    let (precision, s, cs) := number s cs
    (⟨flags, width, some precision⟩, s, cs)
  | _ => (⟨flags, width, none⟩, s, cs)

def pass : Nat → List Char → Filling → Filling
  | 0, _, s => s
  | _, [], s => s
  | fuel + 1, '%' :: cs, s =>
    let (f, s, cs) := s.readField cs
    match cs with
    | [] => { s.write [37] with fits := false }
    | c :: cs =>
      let s := s.writeField f c
      if s.goesOn then pass fuel cs s else s
  | fuel + 1, '\\' :: cs, s =>
    if cs.head? == some 'c' then { s with goesOn := false }
    else
      match readEscape? false cs with
      | some (b, rest) => pass fuel rest (s.write [b])
      | none => pass fuel cs (s.write [92])
  | fuel + 1, c :: cs, s => pass fuel cs (s.write (String.utf8EncodeChar c))

def repeatPass (pattern : List Char) : Nat → Filling → Filling
  | 0, s => s
  | fuel + 1, s =>
    let s := pass (pattern.length + 1) pattern { s with asked := false }
    if s.goesOn && s.asked && !s.args.isEmpty then repeatPass pattern fuel s else s

end Filling

/-- What `printf` writes, and whether every argument fitted its field. -/
def printf (pattern : Bytes) (args : List Bytes) : Bytes × Bool :=
  let s := Filling.repeatPass (Text.decodeUtf8Lossy pattern).toList (args.length + 1)
    ⟨[], args, false, true, true⟩
  (s.written, s.fits)

end ClusterAccess.Shell
