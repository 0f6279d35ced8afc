import ClusterAccess.Text.Utf8
import ClusterAccess.Yaml.Cursor
import ClusterAccess.Yaml.Token

namespace ClusterAccess.Yaml

open Text

def escaped? : Char → Option Char
  | '0' => some '\x00'
  | 'a' => some '\x07'
  | 'b' => some '\x08'
  | 't' => some '\t'
  | '\t' => some '\t'
  | 'n' => some '\n'
  | 'v' => some '\x0b'
  | 'f' => some '\x0c'
  | 'r' => some '\r'
  | 'e' => some '\x1b'
  | ' ' => some ' '
  | '"' => some '"'
  | '/' => some '/'
  | '\\' => some '\\'
  | 'N' => some '\u0085'
  | '_' => some '\u00a0'
  | 'L' => some '\u2028'
  | 'P' => some '\u2029'
  | _ => none

def escapeLength? : Char → Option Nat
  | 'x' => some 2
  | 'u' => some 4
  | 'U' => some 8
  | _ => none

def charOfCode? (n : Nat) : Option Char :=
  if (0xD800 ≤ n && n ≤ 0xDFFF) || 0x10FFFF < n then none else some (Char.ofNat n)

def hexNumber? (cs : List Char) : Option Nat :=
  cs.foldlM (fun n c => (hexValue? c).map (n * 16 + ·)) 0

def readEscape? (c : Cursor) : Option (Char × Cursor) := do
  let x ← c.peek?
  match escapeLength? x with
  | some n =>
    let ds := (c.next.rest).take n
    if ds.length == n then
      pure (← charOfCode? (← hexNumber? ds), c.next.skip n)
    else none
  | none => pure (← escaped? x, c.next)

def readQuoted? (single : Bool) : Nat → Cursor → List Char → Option (List Char × Cursor)
  | 0, _, _ => none
  | fuel + 1, c, seen =>
    if c.atAnyDocumentMark then none
    else
      match c.rest with
      | [] => none
      | x :: xs =>
        if single && x == '\'' then
          if xs.head? == some '\'' then readQuoted? single fuel (c.skip 2) ('\'' :: seen)
          else some (seen.reverse, c.next)
        else if !single && x == '"' then some (seen.reverse, c.next)
        else if !single && x == '\\' then
          if xs.head?.any isBreak then
            let (gap, c) := (c.skip 2).takeWhile isGapChar
            readQuoted? single fuel c ((gap.filter isBreak).reverse ++ seen)
          else
            match readEscape? c.next with
            | some (y, c) => readQuoted? single fuel c (y :: seen)
            | none => none
        else if isGapChar x then
          let (gap, c) := c.takeWhile isGapChar
          readQuoted? single fuel c ((gapText gap).reverse ++ seen)
        else readQuoted? single fuel c.next (x :: seen)

def quotedScalar? (c : Cursor) : Option (List Char × Cursor) :=
  readQuoted? (c.sees '\'') (c.rest.length + 1) c.next []

/-- Characters that may follow a colon in a flow collection only after a blank. -/
def endsFlowKey (c : Char) : Bool :=
  c == ',' || c == '?' || c == '[' || c == ']' || c == '\x7b' || c == '\x7d'

def endsFlowScalar (c : Char) : Bool :=
  c == ',' || c == '[' || c == ']' || c == '\x7b' || c == '\x7d'

def endsPlainWord (flow : Bool) : List Char → Bool
  | [] => true
  | c :: cs => isGapChar c || (c == ':' && endsWord cs) || (flow && endsFlowScalar c)

def hasStrayColon (flow : Bool) : List Char → Bool
  | [] => false
  | c :: cs => (flow && c == ':' && cs.head?.any endsFlowKey) || hasStrayColon flow cs

/-- After the first line break of a gap a tab stands left of the indentation. -/
def tabInIndentation (indent : Int) (c : Cursor) (broken : Bool) : List Char → Bool
  | [] => false
  | x :: xs =>
    (broken && x == '\t' && (c.column : Int) < indent) ||
      tabInIndentation indent c.next (broken || isBreak x) xs

/-- Reads the words of a plain scalar; the flag tells that a line break follows the last. -/
def readPlain? (flow : Bool) (indent : Int) : Nat → Cursor → List Char →
    Option (List Char × Bool × Cursor)
  | 0, _, _ => none
  | fuel + 1, c, seen =>
    let (word, rest) := spanUntil (endsPlainWord flow) c.rest
    if hasStrayColon flow (word ++ rest.take 1) then none
    else
      let seen := seen ++ word
      let (gap, after) := (c.skip word.length).takeWhile isGapChar
      if tabInIndentation indent (c.skip word.length) false gap then none
      else if gap.isEmpty || (!flow && (after.column : Int) < indent) || after.atAnyDocumentMark ||
          after.sees '#' || endsPlainWord flow after.rest then
        some (seen, gap.any isBreak, after)
      else readPlain? flow indent fuel after (seen ++ gapText gap)

/-- How the line breaks at the end of a block scalar are kept. -/
inductive Chomping where
  | strip
  | clip
  | keep
  deriving DecidableEq

def readChomping? (c : Cursor) : Option (Chomping × Cursor) :=
  match c.peek? with
  | some '+' => some (.keep, c.next)
  | some '-' => some (.strip, c.next)
  | _ => none

def readIncrement? (c : Cursor) : Option (Option Nat × Cursor) :=
  match c.peek? with
  | some x =>
    if isDigit x then if x == '0' then none else some (some (x.toNat - 48), c.next)
    else some (none, c)
  | none => some (none, c)

/-- A chomping sign and an indentation digit, in either order, and a comment. -/
def readBlockHeader? (c : Cursor) : Option ((Chomping × Option Nat) × Cursor) := do
  let ((chomping, increment), c) ←
    match readChomping? c with
    | some (chomping, c) => do
      let (increment, c) ← readIncrement? c
      pure ((chomping, increment), c)
    | none => do
      let (increment, c) ← readIncrement? c
      match increment, readChomping? c with
      | some _, some (chomping, c) => pure ((chomping, increment), c)
      | _, _ => pure ((Chomping.clip, increment), c)
  let c := (c.skipWhile isSpaceOrTab).skipComment
  if endsLine c.rest then pure ((chomping, increment), c.next) else none

/-- Gives the line breaks, and the largest column reached. -/
def readIndentation? (indent : Option Nat) : Nat → Cursor → List Char → Nat →
    Option (List Char × Nat × Cursor)
  | 0, _, _, _ => none
  | fuel + 1, c, breaks, widest =>
    let spaces := (c.rest.takeWhile (· == ' ')).length
    let c := c.skip (match indent with | some n => min spaces (n - c.column) | none => spaces)
    let widest := max widest c.column
    if c.sees '\t' && indent.all (c.column < ·) then none
    else
      match c.rest with
      | x :: _ =>
        if isBreak x then readIndentation? indent fuel c.next (x :: breaks) widest
        else some (breaks.reverse, widest, c)
      | [] => some (breaks.reverse, widest, c)

/-- `lead` is the break after the line before, `empty` those of the empty lines after it. -/
def readBlockLines? (isLiteral : Bool) (indent : Nat) : Nat → Cursor → List Char → List Char →
    List Char → Bool → Option (List Char × List Char × List Char × Cursor)
  | 0, _, _, _, _, _ => none
  | fuel + 1, c, seen, lead, empty, afterBlank =>
    if c.column != indent || c.rest.isEmpty then some (seen, lead, empty, c)
    else
      let blank := c.rest.head?.any isSpaceOrTab
      let fold := !isLiteral && lead == ['\n'] && !afterBlank && !blank
      let between :=
        if fold then if empty.isEmpty then [' '] else empty
        else lead ++ empty
      let (line, c) := c.takeWhile fun x => !isBreak x
      let lead := c.rest.take 1
      match readIndentation? (some indent) (c.rest.length + 1) c.next [] 0 with
      | none => none
      | some (empty, _, c) =>
        readBlockLines? isLiteral indent fuel c (seen ++ between ++ line) lead empty blank

def blockScalar? (outer : Int) (c : Cursor) : Option (List Char × Cursor) := do
  let isLiteral := c.sees '|'
  let ((chomping, increment), c) ← readBlockHeader? c.next
  let given : Option Nat := increment.map fun n => (max outer 0).toNat + n
  let (empty, widest, c) ← readIndentation? given (c.rest.length + 1) c [] 0
  let indent := given.getD (max (max widest (outer + 1).toNat) 1)
  let (text, lead, empty, c) ←
    readBlockLines? isLiteral indent (c.rest.length + 1) c [] [] empty false
  pure (text ++ (if chomping == .strip then [] else lead) ++
    (if chomping == .keep then empty else []), c)

/-- Characters that may follow the name of an anchor or alias at once. -/
def endsName : List Char → Bool
  | [] => true
  | c :: _ =>
    isGapChar c || c == '?' || c == ':' || c == ',' || c == ']' || c == '\x7d' || c == '%' ||
      c == '@' || c == '\x60'

def anchorName? (c : Cursor) : Option (String × Cursor) :=
  let (name, c) := c.next.takeWhile isWordChar
  if name.isEmpty || !endsName c.rest then none else some (String.ofList name, c)

/-- Commas and brackets are among them only where the tag is delimited. -/
def isTagChar (delimited : Bool) (c : Char) : Bool :=
  isWordChar c || ";/?:@&=+$.!~*'()%".toList.contains c || (delimited && ",[]".toList.contains c)

/-- Two hexadecimal digits after a percent sign stand for a byte. -/
def unescapeTag? : List Char → Nat → Option (List UInt8)
  | [], owed => if owed == 0 then some [] else none
  | '%' :: a :: b :: cs, owed => do
    let n := (← hexValue? a) * 16 + (← hexValue? b)
    let owed ←
      if owed == 0 then
        if n < 0x80 then some 0
        else if 0xC0 ≤ n && n < 0xE0 then some 1
        else if 0xE0 ≤ n && n < 0xF0 then some 2
        else if 0xF0 ≤ n && n < 0xF8 then some 3
        else none
      else if 0x80 ≤ n && n < 0xC0 then some (owed - 1)
      else none
    pure (UInt8.ofNat n :: (← unescapeTag? cs owed))
  | c :: cs, owed =>
    if owed == 0 && c != '%' then (unescapeTag? cs 0).map (utf8Chars [c] ++ ·) else none

def readTagText? (delimited : Bool) (c : Cursor) : Option (String × Cursor) := do
  let (cs, c) := c.takeWhile (isTagChar delimited)
  pure (decodeUtf8Lossy (← unescapeTag? cs 0), c)

/-- Reads the handle of a tag: an exclamation mark, perhaps letters, perhaps another mark. -/
def readHandle? (c : Cursor) : Option (List Char × Cursor) :=
  if c.sees '!' then
    let (name, c) := c.next.takeWhile isWordChar
    if c.sees '!' then some ('!' :: name ++ ['!'], c.next) else some ('!' :: name, c)
  else none

def tagToken? (flow : Bool) (c : Cursor) : Option (Token × Cursor) := do
  let (token, c) ←
    if c.next.sees '<' then do
      let (text, c) ← readTagText? true (c.skip 2)
      if text.isEmpty || !c.sees '>' then none else pure (Token.tag "" text, c.next)
    else do
      let (handle, c) ← readHandle? c
      if handle.length ≥ 2 && handle.getLast? == some '!' then do
        let (text, c) ← readTagText? false c
        if text.isEmpty then none else pure (Token.tag (String.ofList handle) text, c)
      else do
        let (text, c) ← readTagText? false c
        let suffix := String.ofList handle.tail ++ text
        pure (if suffix.isEmpty then Token.tag "" "!" else Token.tag "!" suffix, c)
  if endsWord c.rest || (flow && c.sees ',') then pure (token, c) else none

def readVersionPart? (c : Cursor) : Option (Nat × Cursor) :=
  let (ds, c) := c.takeWhile isDigit
  if ds.isEmpty || 9 < ds.length then none else some (digitsValue ds, c)

def readDirectiveBody? (name : List Char) (c : Cursor) : Option (Token × Cursor) :=
  if name == "YAML".toList then do
    let (major, c) ← readVersionPart? (c.skipWhile isSpaceOrTab)
    if !c.sees '.' then none
    else do
      let (minor, c) ← readVersionPart? c.next
      pure (.version major minor, c)
  else if name == "TAG".toList then do
    let (handle, c) ← readHandle? (c.skipWhile isSpaceOrTab)
    let whole := handle.length == 1 || handle.getLast? == some '!'
    if !whole || !c.rest.head?.any isSpaceOrTab then none
    else do
      let (text, c) ← readTagText? true (c.skipWhile isSpaceOrTab)
      if text.isEmpty || !endsWord c.rest then none
      else pure (.tagShorthand (String.ofList handle) text, c)
  else none

def directive? (c : Cursor) : Option (Token × Cursor) := do
  let (name, c) := c.next.takeWhile isWordChar
  if name.isEmpty || !endsWord c.rest then none
  else do
    let (token, c) ← readDirectiveBody? name c
    let c := (c.skipWhile isSpaceOrTab).skipComment
    if endsLine c.rest then pure (token, c.next) else none

end ClusterAccess.Yaml
