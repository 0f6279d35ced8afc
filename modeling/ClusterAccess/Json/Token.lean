import ClusterAccess.Text.Digits

namespace ClusterAccess.Json

open Text

/-- A string literal is a row of characters and of 16-bit units given by number. -/
inductive Piece where
  | char (c : Char)
  | unit (n : Nat)
  deriving DecidableEq, Repr

structure NumberLiteral where
  negative : Bool
  integer : List Char
  fraction : List Char
  exponent : Option (Bool × List Char)
  deriving DecidableEq, Repr

inductive Token where
  | beginObject
  | endObject
  | beginArray
  | endArray
  | colon
  | comma
  | null
  | bool (b : Bool)
  | number (n : NumberLiteral)
  | string (pieces : List Piece)
  deriving DecidableEq, Repr

def readExponent? : List Char → Option (Bool × List Char)
  | '-' :: cs => if cs.isEmpty || !cs.all isDigit then none else some (true, cs)
  | '+' :: cs => if cs.isEmpty || !cs.all isDigit then none else some (false, cs)
  | cs => if cs.isEmpty || !cs.all isDigit then none else some (false, cs)

def readRest? (negative : Bool) (integer : List Char) : List Char → Option NumberLiteral
  | [] => some ⟨negative, integer, [], none⟩
  | '.' :: cs =>
    let fraction := cs.takeWhile isDigit
    if fraction.isEmpty then none
    else
      match cs.dropWhile isDigit with
      | [] => some ⟨negative, integer, fraction, none⟩
      | 'e' :: cs => (readExponent? cs).map fun e => ⟨negative, integer, fraction, some e⟩
      | 'E' :: cs => (readExponent? cs).map fun e => ⟨negative, integer, fraction, some e⟩
      | _ => none
  | 'e' :: cs => (readExponent? cs).map fun e => ⟨negative, integer, [], some e⟩
  | 'E' :: cs => (readExponent? cs).map fun e => ⟨negative, integer, [], some e⟩
  | _ => none

/-- Reads a number without its sign; only a lone zero may begin with a zero. -/
def readUnsigned? (negative : Bool) (cs : List Char) : Option NumberLiteral :=
  let integer := cs.takeWhile isDigit
  if integer.isEmpty || (integer.head? == some '0' && integer.length > 1) then none
  else readRest? negative integer (cs.dropWhile isDigit)

def NumberLiteral.ofChars? : List Char → Option NumberLiteral
  | '-' :: cs => readUnsigned? true cs
  | cs => readUnsigned? false cs

/-- What the lexer stands in; what it has seen of an unfinished token is kept last first. -/
inductive Mode where
  | between
  | word (seen : List Char)
  | number (seen : List Char)
  | string (seen : List Piece)
  | escape (seen : List Piece)
  | hex (seen : List Piece) (value owed : Nat)

structure Lexer where
  mode : Mode
  tokens : List Token

def isSpace (c : Char) : Bool := c == ' ' || c == '\t' || c == '\n' || c == '\r'

def isLetter (c : Char) : Bool := 'a' ≤ c && c ≤ 'z'

def isNumberChar (c : Char) : Bool :=
  isDigit c || c == '-' || c == '+' || c == '.' || c == 'e' || c == 'E'

def punctuation? : Char → Option Token
  | '\x7b' => some .beginObject
  | '\x7d' => some .endObject
  | '[' => some .beginArray
  | ']' => some .endArray
  | ':' => some .colon
  | ',' => some .comma
  | _ => none

def word? (cs : List Char) : Option Token :=
  if cs == "null".toList then some .null
  else if cs == "true".toList then some (.bool true)
  else if cs == "false".toList then some (.bool false)
  else none

def Lexer.begin (tokens : List Token) (c : Char) : Option Lexer :=
  if isSpace c then some ⟨.between, tokens⟩
  else if c == '"' then some ⟨.string [], tokens⟩
  else if isLetter c then some ⟨.word [c], tokens⟩
  else if isDigit c || c == '-' then some ⟨.number [c], tokens⟩
  else (punctuation? c).map fun t => ⟨.between, t :: tokens⟩

def escaped? : Char → Option Char
  | '"' => some '"'
  | '\\' => some '\\'
  | '/' => some '/'
  | 'b' => some '\x08'
  | 'f' => some '\x0c'
  | 'n' => some '\n'
  | 'r' => some '\r'
  | 't' => some '\t'
  | _ => none

def Lexer.step (l : Lexer) (c : Char) : Option Lexer :=
  match l.mode with
  | .between => begin l.tokens c
  | .word seen =>
    if isLetter c then some ⟨.word (c :: seen), l.tokens⟩
    else do begin ((← word? seen.reverse) :: l.tokens) c
  | .number seen =>
    if isNumberChar c then some ⟨.number (c :: seen), l.tokens⟩
    else do begin (.number (← NumberLiteral.ofChars? seen.reverse) :: l.tokens) c
  | .string seen =>
    if c == '"' then some ⟨.between, .string seen.reverse :: l.tokens⟩
    else if c == '\\' then some ⟨.escape seen, l.tokens⟩
    else if c.toNat < 0x20 then none
    else some ⟨.string (.char c :: seen), l.tokens⟩
  | .escape seen =>
    if c == 'u' then some ⟨.hex seen 0 4, l.tokens⟩
    else (escaped? c).map fun d => ⟨.string (.char d :: seen), l.tokens⟩
  | .hex seen value owed =>
    (hexValue? c).map fun d =>
      let value := value * 16 + d
      if owed ≤ 1 then ⟨.string (.unit value :: seen), l.tokens⟩
      else ⟨.hex seen value (owed - 1), l.tokens⟩

def Lexer.finish (l : Lexer) : Option (List Token) :=
  match l.mode with
  | .between => some l.tokens.reverse
  | .word seen => do pure ((← word? seen.reverse) :: l.tokens).reverse
  | .number seen => do pure (.number (← NumberLiteral.ofChars? seen.reverse) :: l.tokens).reverse
  | _ => none

def Lexer.run (l : Lexer) (cs : List Char) : Option Lexer := cs.foldlM Lexer.step l

def Token.scan (cs : List Char) : Option (List Token) :=
  ((Lexer.mk .between []).run cs).bind Lexer.finish

end ClusterAccess.Json
